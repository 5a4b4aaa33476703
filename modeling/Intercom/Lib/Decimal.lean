import Intercom.Lib.Bytes

set_option autoImplicit false

/- Printed numbers read back. -/
namespace ByteText

theorem digit_decimal (value : Nat) (small : value < 10) : isDigit (digit false value) = true ∧ (digit false value).toNat = 48 + value := by
  have each : ∀ value : Fin 10, isDigit (digit false value) = true ∧ (digit false value).toNat = 48 + value := by decide
  exact each ⟨value, small⟩

theorem digits_value_from (start : Nat) (digits : Bytes) :
    digits.foldl (fun value byte => value * 10 + (byte.toNat - 48)) start = start * 10 ^ digits.length + digitsValue digits := by
  rw [digitsValue]
  induction digits generalizing start with
  | nil => simp
  | cons byte rest ih =>
      rw [List.foldl_cons, List.foldl_cons, ih, ih (0 * 10 + (byte.toNat - 48)), List.length_cons, Nat.pow_succ]
      grind

theorem digits_value_cons (byte : UInt8) (rest : Bytes) :
    digitsValue (byte :: rest) = (byte.toNat - 48) * 10 ^ rest.length + digitsValue rest := by
  have shifted := digits_value_from (byte.toNat - 48) rest
  rw [digitsValue, List.foldl_cons, Nat.zero_mul, Nat.zero_add]
  exact shifted

-- By induction on the fuel, which exceeds the number: the digits written so far are the low ones.
theorem numeral_loop_value (fuel value : Nat) (done : Bytes) (enough : value < fuel) (digits : ∀ byte ∈ done, isDigit byte = true) :
    (∀ byte ∈ numeralLoop 10 false fuel value done, isDigit byte = true) ∧ numeralLoop 10 false fuel value done ≠ [] ∧
      digitsValue (numeralLoop 10 false fuel value done) = value * 10 ^ done.length + digitsValue done := by
  induction fuel generalizing value done with
  | zero => omega
  | succ fuel ih =>
      obtain ⟨isDecimal, number⟩ := digit_decimal (value % 10) (Nat.mod_lt _ (by omega))
      have longer : ∀ byte ∈ digit false (value % 10) :: done, isDigit byte = true := List.forall_mem_cons.mpr ⟨isDecimal, digits⟩
      have worth : digitsValue (digit false (value % 10) :: done) = value % 10 * 10 ^ done.length + digitsValue done := by
        rw [digits_value_cons, number, Nat.add_sub_cancel_left]
      have split := Nat.div_add_mod value 10
      rw [numeralLoop]
      split
      · rename_i last
        refine ⟨longer, List.cons_ne_nil _ _, ?_⟩
        rw [worth, Nat.mod_eq_of_lt (by omega)]
      · obtain ⟨all, filled, total⟩ := ih (value / 10) (digit false (value % 10) :: done) (by omega) longer
        refine ⟨all, filled, ?_⟩
        rw [total, worth, List.length_cons, Nat.pow_succ]
        conv => rhs; rw [← split]
        grind

theorem decimal_read (value : Nat) :
    (∀ byte ∈ decimal value, isDigit byte = true) ∧ decimal value ≠ [] ∧ digitsValue (decimal value) = value := by
  obtain ⟨all, filled, total⟩ := numeral_loop_value (value + 1) value [] (by omega) fun _ member => absurd member List.not_mem_nil
  refine ⟨all, filled, ?_⟩
  rw [decimal, total]
  simp [digitsValue]

end ByteText
