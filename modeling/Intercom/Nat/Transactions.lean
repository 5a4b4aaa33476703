import Intercom.Nat.Stun
import Mathlib.Data.List.Nodup

set_option autoImplicit false

/- What becomes of a binding request: how often it is sent, when it is given up, and that it ends once. -/
namespace Intercom.Nat

open ByteText

def StunOut.sentBy (transaction : TransactionId) : StunOut → Option Nat
  | .sent other now => if other = transaction then some now else none
  | _ => none

def sentTimes (transaction : TransactionId) (log : List StunOut) : List Nat := log.filterMap (StunOut.sentBy transaction)

def StunOut.ends (transaction : TransactionId) : StunOut → Bool
  | .completed other _ _ => other == transaction
  | _ => false

-- How long the timer runs after the n-th transmission, and how long it has then run in all.
def interval (sends : Nat) : Nat := if rc ≤ sends then rto * rm else rto * 2 ^ (sends - 1)

def elapsed : Nat → Nat
  | 0 => 0
  | sends + 1 => elapsed sends + interval (sends + 1)

structure Scheduled (log : List StunOut) (ct : Ctrans) : Prop where
  count : (sentTimes ct.id log).length = ct.txc
  low : 1 ≤ ct.txc
  high : ct.txc ≤ rc
  ival : ct.ival = interval ct.txc
  due : ∃ first, (sentTimes ct.id log).head? = some first ∧ first + elapsed ct.txc ≤ ct.due

structure GaveUp (log : List StunOut) (transaction : TransactionId) (now : Nat) : Prop where
  count : (sentTimes transaction log).length = rc
  late : ∃ first, (sentTimes transaction log).head? = some first ∧ first + elapsed rc ≤ now

structure StunKept (reached : StunClient × List StunOut) : Prop where
  known : ∀ ct ∈ reached.1.transactions, ct.id < reached.1.made
  distinct : (reached.1.transactions.map Ctrans.id).Nodup
  unused : ∀ transaction, reached.1.made ≤ transaction →
    sentTimes transaction reached.2 = [] ∧ reached.2.countP (StunOut.ends transaction) = 0
  live : ∀ ct ∈ reached.1.transactions, Scheduled reached.2 ct ∧ reached.2.countP (StunOut.ends ct.id) = 0
  once : ∀ transaction, reached.2.countP (StunOut.ends transaction) ≤ 1
  bound : ∀ transaction, (sentTimes transaction reached.2).length ≤ rc
  late : ∀ transaction now, .completed transaction .timedOut now ∈ reached.2 → GaveUp reached.2 transaction now

theorem sent_times_append (transaction : TransactionId) (early late : List StunOut) :
    sentTimes transaction (early ++ late) = sentTimes transaction early ++ sentTimes transaction late := List.filterMap_append ..

-- A call of the application's handler is no event of a transaction.
theorem call_quiet (client : StunClient) (result : Option Bytes) (transaction : TransactionId) :
    sentTimes transaction (client.call result) = [] ∧ (client.call result).countP (StunOut.ends transaction) = 0 ∧
      ∀ ending now, .completed transaction ending now ∉ client.call result := by
  rw [StunClient.call]
  split <;> simp [sentTimes, StunOut.sentBy, StunOut.ends]

theorem scheduled_same (log after : List StunOut) (ct : Ctrans) (same : sentTimes ct.id after = sentTimes ct.id log)
    (kept : Scheduled log ct) : Scheduled after ct :=
  ⟨same ▸ kept.count, kept.low, kept.high, kept.ival, same ▸ kept.due⟩

theorem gave_up_same (log after : List StunOut) (transaction : TransactionId) (now : Nat)
    (same : sentTimes transaction after = sentTimes transaction log) (given : GaveUp log transaction now) :
    GaveUp after transaction now :=
  ⟨same ▸ given.count, same ▸ given.late⟩

-- Transactions may be dropped without a word.
theorem kept_fewer (client after : StunClient) (log : List StunOut)
    (fewer : after.transactions.Sublist client.transactions) (grown : client.made ≤ after.made) (kept : StunKept (client, log)) :
    StunKept (after, log) := by
  refine ⟨?_, ?_, ?_, ?_, kept.once, kept.bound, kept.late⟩
  · exact fun ct member => Nat.lt_of_lt_of_le (kept.known ct (fewer.subset member)) grown
  · exact kept.distinct.sublist (fewer.map _)
  · exact fun transaction high => kept.unused transaction (Nat.le_trans grown high)
  · exact fun ct member => kept.live ct (fewer.subset member)

theorem kept_ended (client : StunClient) (log : List StunOut) (ct : Ctrans) (ending : Ending) (now : Nat)
    (failed : ending.failed = true) (member : ct ∈ client.transactions) (kept : StunKept (client, log))
    (given : ending = .timedOut → GaveUp log ct.id now) :
    StunKept ((completed client ct ending now).1, log ++ (completed client ct ending now).2) := by
  have more : ∀ transaction, sentTimes transaction (.completed ct.id ending now :: client.call none) = [] := by
    intro transaction
    exact (call_quiet client none transaction).1
  have same : ∀ transaction, sentTimes transaction (log ++ .completed ct.id ending now :: client.call none) =
      sentTimes transaction log := by
    intro transaction
    rw [sent_times_append, more, List.append_nil]
  have count : ∀ transaction, (log ++ .completed ct.id ending now :: client.call none).countP (StunOut.ends transaction) =
      log.countP (StunOut.ends transaction) + if ct.id = transaction then 1 else 0 := by
    intro transaction
    simp [(call_quiet client none transaction).2.1, StunOut.ends, List.countP_cons]
  have fresh : log.countP (StunOut.ends ct.id) = 0 := (kept.live ct member).2
  rw [completed_failed client ct ending now failed]
  refine ⟨?_, ?_, ?_, ?_, ?_, ?_, ?_⟩
  · exact fun other inside => kept.known other (List.mem_filter.mp inside).1
  · exact kept.distinct.sublist (List.filter_sublist.map _)
  · intro transaction high
    have apart : ct.id ≠ transaction := Nat.ne_of_lt (Nat.lt_of_lt_of_le (kept.known ct member) high)
    rw [same, count, if_neg apart]
    exact kept.unused transaction high
  · intro other inside
    obtain ⟨present, apart⟩ := List.mem_filter.mp inside
    have differs : ct.id ≠ other.id := fun equal => by simp [equal] at apart
    rw [count, if_neg differs]
    exact ⟨scheduled_same log _ other (same other.id) (kept.live other present).1, (kept.live other present).2⟩
  · intro transaction
    rw [count]
    split
    case isTrue here =>
      rw [← here, fresh]
    case isFalse => exact kept.once transaction
  · intro transaction
    rw [same]
    exact kept.bound transaction
  · intro transaction at_ logged
    apply gave_up_same log _ transaction at_ (same transaction)
    rcases List.mem_append.mp logged with early | late
    · exact kept.late transaction at_ early
    · rcases List.mem_cons.mp late with here | called
      · cases here
        exact given rfl
      · exact absurd called ((call_quiet client none transaction).2.2 _ _)

theorem interval_doubles (sends : Nat) (low : 1 ≤ sends) :
    (if rc ≤ sends + 1 then rto * rm else interval sends * 2) = interval (sends + 1) := by
  rw [interval, interval]
  split
  case isTrue => rfl
  case isFalse room =>
    have inside : ¬rc ≤ sends := by omega
    rw [if_neg inside, Nat.mul_assoc, ← Nat.pow_succ]
    congr 2
    omega

def resent (ct : Ctrans) (now : Nat) : Ctrans :=
  { ct with
    txc := ct.txc + 1, ival := if rc ≤ ct.txc + 1 then rto * rm else ct.ival * 2,
    due := now + if rc ≤ ct.txc + 1 then rto * rm else ct.ival * 2 }

theorem sent_times_sent (transaction ct : TransactionId) (log : List StunOut) (now : Nat) :
    sentTimes transaction (log ++ [.sent ct now]) = sentTimes transaction log ++ if ct = transaction then [now] else [] := by
  rw [sent_times_append]
  by_cases here : ct = transaction <;> simp [sentTimes, StunOut.sentBy, here]

theorem count_sent (transaction ct : TransactionId) (log : List StunOut) (now : Nat) :
    (log ++ [StunOut.sent ct now]).countP (StunOut.ends transaction) = log.countP (StunOut.ends transaction) := by
  simp [StunOut.ends]

-- The request goes out once more: it was due, so the first transmission lies back as far as the schedule says.
theorem scheduled_resent (log : List StunOut) (ct : Ctrans) (now : Nat) (more : ct.txc < rc) (fired : ct.due ≤ now)
    (kept : Scheduled log ct) : Scheduled (log ++ [.sent ct.id now]) (resent ct now) := by
  have times := sent_times_sent ct.id ct.id log now
  rw [if_pos rfl] at times
  obtain ⟨first, head, due⟩ := kept.due
  have grows : (if rc ≤ ct.txc + 1 then rto * rm else ct.ival * 2) = interval (ct.txc + 1) := by
    rw [kept.ival, interval_doubles ct.txc kept.low]
  refine ⟨?_, Nat.le_add_left 1 ct.txc, more, grows, first, ?_, ?_⟩
  · rw [resent, times, List.length_append, kept.count]
    rfl
  · rw [resent, times, List.head?_append, head]
    rfl
  · rw [resent]
    dsimp only
    rw [grows, elapsed]
    omega

theorem ended_apart (client : StunClient) (log : List StunOut) (ct : Ctrans) (member : ct ∈ client.transactions)
    (kept : StunKept (client, log)) (transaction : TransactionId) (ending : Ending) (at_ : Nat)
    (logged : .completed transaction ending at_ ∈ log) : ct.id ≠ transaction := by
  rintro rfl
  have none := List.countP_eq_zero.mp (kept.live ct member).2 _ logged
  simp [StunOut.ends] at none

theorem kept_resent (client : StunClient) (log : List StunOut) (ct : Ctrans) (now : Nat) (member : ct ∈ client.transactions)
    (more : ct.txc < rc) (fired : ct.due ≤ now) (kept : StunKept (client, log)) :
    StunKept (client.put (resent ct now), log ++ [.sent ct.id now]) := by
  have ids : (client.put (resent ct now)).transactions.map Ctrans.id = client.transactions.map Ctrans.id := by
    rw [StunClient.put, List.map_map]
    apply List.map_congr_left
    intro other _
    by_cases here : other.id = ct.id <;> simp [resent, here]
  have apart : ∀ transaction, ct.id ≠ transaction → sentTimes transaction (log ++ [.sent ct.id now]) = sentTimes transaction log := by
    intro transaction differs
    rw [sent_times_sent, if_neg differs, List.append_nil]
  have schedule := scheduled_resent log ct now more fired (kept.live ct member).1
  refine ⟨?_, ids ▸ kept.distinct, ?_, ?_, ?_, ?_, ?_⟩
  · intro other inside
    have here : other.id ∈ client.transactions.map Ctrans.id := ids ▸ List.mem_map_of_mem inside
    obtain ⟨before, present, same⟩ := List.mem_map.mp here
    exact same ▸ kept.known before present
  · intro transaction high
    have below : ct.id ≠ transaction := Nat.ne_of_lt (Nat.lt_of_lt_of_le (kept.known ct member) high)
    rw [apart transaction below, count_sent]
    exact kept.unused transaction high
  · intro other inside
    obtain ⟨before, present, rfl⟩ := List.mem_map.mp inside
    rw [count_sent]
    by_cases here : before.id = ct.id
    · rw [if_pos (show before.id = (resent ct now).id from here)]
      exact ⟨schedule, (kept.live ct member).2⟩
    · rw [if_neg (show ¬before.id = (resent ct now).id from here)]
      exact ⟨scheduled_same log _ before (apart _ (Ne.symm here)) (kept.live before present).1, (kept.live before present).2⟩
  · intro transaction
    rw [count_sent]
    exact kept.once transaction
  · intro transaction
    by_cases here : ct.id = transaction
    · subst here
      exact schedule.count.symm ▸ more
    · rw [apart transaction here]
      exact kept.bound transaction
  · intro transaction at_ logged
    have early : .completed transaction .timedOut at_ ∈ log := by simpa using logged
    exact gave_up_same log _ transaction at_ (apart _ (ended_apart client log ct member kept _ _ _ early)) (kept.late _ _ early)

theorem kept_opened (client : StunClient) (log : List StunOut) (ct : Ctrans) (now : Nat) (new : ct.id = client.made)
    (first : ct.txc = 1) (wait : ct.ival = rto) (due : ct.due = now + rto) (kept : StunKept (client, log)) :
    StunKept ({ client with transactions := client.transactions ++ [ct], ct := some ct.id, made := client.made + 1 },
      log ++ [.sent ct.id now]) := by
  have never := kept.unused ct.id (Nat.le_of_eq new.symm)
  have apart : ∀ transaction, ct.id ≠ transaction → sentTimes transaction (log ++ [.sent ct.id now]) = sentTimes transaction log := by
    intro transaction differs
    rw [sent_times_sent, if_neg differs, List.append_nil]
  have own : sentTimes ct.id (log ++ [.sent ct.id now]) = [now] := by
    rw [sent_times_sent, if_pos rfl, never.1]
    rfl
  have older : ∀ other ∈ client.transactions, ct.id ≠ other.id := fun other present =>
    Ne.symm (Nat.ne_of_lt (new ▸ kept.known other present))
  refine ⟨?_, ?_, ?_, ?_, ?_, ?_, ?_⟩
  · intro other inside
    rcases List.mem_append.mp inside with present | added
    · exact Nat.lt_succ_of_lt (kept.known other present)
    · rw [List.mem_singleton.mp added, new]
      exact Nat.lt_succ_self _
  · rw [List.map_append, List.nodup_append]
    refine ⟨kept.distinct, List.nodup_singleton _, ?_⟩
    intro id present other added
    obtain ⟨before, inside, rfl⟩ := List.mem_map.mp present
    rw [List.map_singleton, List.mem_singleton] at added
    exact added ▸ (older before inside).symm
  · intro transaction high
    have below : ct.id ≠ transaction := by
      rw [new]
      exact Nat.ne_of_lt high
    rw [apart transaction below, count_sent]
    exact kept.unused transaction (Nat.le_of_succ_le high)
  · intro other inside
    rw [count_sent]
    rcases List.mem_append.mp inside with present | added
    · exact ⟨scheduled_same log _ other (apart _ (older other present)) (kept.live other present).1, (kept.live other present).2⟩
    · rw [List.mem_singleton.mp added]
      refine ⟨⟨?_, Nat.le_of_eq first.symm, ?_, ?_, now, ?_, ?_⟩, never.2⟩
      · rw [own, first]
        rfl
      · rw [first]
        decide
      · rw [wait, first]
        rfl
      · rw [own]
        rfl
      · rw [due, first]
        exact Nat.le_refl _
  · intro transaction
    rw [count_sent]
    exact kept.once transaction
  · intro transaction
    by_cases here : ct.id = transaction
    · subst here
      rw [own, List.length_singleton]
      decide
    · rw [apart transaction here]
      exact kept.bound transaction
  · intro transaction at_ logged
    have early : .completed transaction .timedOut at_ ∈ log := by simpa using logged
    have differs : ct.id ≠ transaction := by
      rintro rfl
      have none := List.countP_eq_zero.mp never.2 _ early
      simp [StunOut.ends] at none
    exact gave_up_same log _ transaction at_ (apart transaction differs) (kept.late _ _ early)

theorem abort_kept (victims : List Ctrans) (now : Nat) (client : StunClient) (log : List StunOut)
    (members : ∀ ct ∈ victims, ct ∈ client.transactions) (distinct : (victims.map Ctrans.id).Nodup)
    (kept : StunKept (client, log)) : StunKept ((abortAll victims now client).1, log ++ (abortAll victims now client).2) := by
  induction victims generalizing client log with
  | nil => simpa [abortAll] using kept
  | cons ct rest ih =>
      have ended := kept_ended client log ct .aborted now rfl (members ct List.mem_cons_self) kept (by simp)
      rw [List.map_cons, List.nodup_cons] at distinct
      have others := ih (completed client ct .aborted now).1 _ ?_ distinct.2 ended
      · rw [List.append_assoc] at others
        exact others
      · intro other later
        rw [completed_failed client ct .aborted now rfl]
        refine List.mem_filter.mpr ⟨members other (List.mem_cons_of_mem ct later), ?_⟩
        have apart : other.id ≠ ct.id := fun same => distinct.1 (same ▸ List.mem_map_of_mem later)
        simpa using apart

theorem find_member (client : StunClient) (transaction : TransactionId) (ct : Ctrans) (found : client.find? transaction = some ct) :
    ct ∈ client.transactions := List.mem_of_find?_eq_some found

theorem discover_kept (env : DiscoverEnv) (client : StunClient) (log : List StunOut) (cb : Bool) (tid : Bytes) (now : Nat)
    (kept : StunKept (client, log)) :
    StunKept ((stunDiscover env client cb tid now).1, log ++ (stunDiscover env client cb tid now).2) := by
  have same : ∀ after : StunClient, after.transactions = client.transactions → client.made ≤ after.made →
      StunKept (after, log) := by
    intro after unchanged grown
    exact kept_fewer client after log (by rw [unchanged]) grown kept
  have bound : StunKept ((client.reset cb).bind, log) := same _ rfl (Nat.le_add_right _ 2)
  rw [stunDiscover]
  dsimp only
  split
  · rw [List.append_nil]
    exact same _ rfl (Nat.le_refl _)
  · split
    · rw [List.append_nil]
      exact same _ rfl (Nat.le_add_right _ _)
    · split
      · rw [List.append_nil]
        exact same _ rfl (Nat.le_add_right _ 2)
      · cases sent : env.sent with
        | false =>
            rw [request_unsent env _ _ _ tid now sent, List.append_nil]
            exact same _ rfl (Nat.le_add_right _ 2)
        | true =>
            rw [request_sent env _ _ _ tid now sent]
            exact kept_opened (client.reset cb).bind log
              { id := (client.reset cb).bind.made, stun := client.made + 1, sock := client.made, tid, met := bindingMethod,
                due := now + rto } now rfl rfl rfl rfl bound

theorem timeout_kept (client : StunClient) (log : List StunOut) (ct : Ctrans) (now : Nat) (sendOk : Bool)
    (member : ct ∈ client.transactions) (fired : ct.due ≤ now) (kept : StunKept (client, log)) :
    StunKept ((timeoutHandler client ct now sendOk).1, log ++ (timeoutHandler client ct now sendOk).2) := by
  have schedule := (kept.live ct member).1
  rw [timeoutHandler]
  split
  case isTrue last =>
    apply kept_ended client log ct .timedOut now rfl member kept
    intro _
    have all : ct.txc = rc := Nat.le_antisymm schedule.high last
    obtain ⟨first, head, due⟩ := schedule.due
    rw [all] at due
    exact ⟨schedule.count.trans all, first, head, Nat.le_trans due fired⟩
  case isFalse more =>
    split
    · exact kept_ended client log ct .sendFailed now rfl member kept (by simp)
    · exact kept_resent client log ct now member (Nat.lt_of_not_le more) fired kept

theorem stun_next_kept (decode : Bytes → Option StunMsg) (reached : StunClient × List StunOut) (event : StunEvent)
    (kept : StunKept reached ∧ Deaf reached) :
    StunKept (Runs.record (stunStep decode) reached event) ∧ Deaf (Runs.record (stunStep decode) reached event) := by
  refine ⟨?_, stun_next_deaf decode reached event kept.2⟩
  obtain ⟨client, log⟩ := reached
  obtain ⟨kept, deaf⟩ := kept
  have still : StunKept (client, log ++ []) := by simpa using kept
  rw [Runs.record]
  cases event with
  | discover env cb tid now => exact discover_kept env client log cb tid now kept
  | datagram sock mb now =>
      have handler : client.handlers sock = .dummy := deaf.dummy sock
      simpa only [stunStep, udpRead, handler] using still
  | timer transaction now sendOk =>
      simp only [stunStep]
      cases found : client.find? transaction with
      | none => exact still
      | some ct =>
          dsimp only
          split
          case isTrue fired => exact timeout_kept client log ct now sendOk (find_member client transaction ct found) fired kept
          case isFalse => exact still
  | close now =>
      have released : StunKept (client.release, log) :=
        kept_fewer client client.release log List.filter_sublist (Nat.le_refl _) kept
      have orphans : client.release.orphans.Sublist client.release.transactions := List.filter_sublist
      have ended := abort_kept client.release.orphans now _ _ (fun ct member => orphans.subset member)
        (released.distinct.sublist (orphans.map _)) released
      exact kept_fewer (abortAll client.release.orphans now client.release).1 _ _ (List.Sublist.refl _) (Nat.le_refl _) ended

theorem stun_gives_up (decode : Bytes → Option StunMsg) (events : List StunEvent) (transaction : TransactionId) :
    (stunRun decode {} events).2.countP (StunOut.ends transaction) ≤ 1 ∧
    (sentTimes transaction (stunRun decode {} events).2).length ≤ 7 ∧
    ∀ now, .completed transaction .timedOut now ∈ (stunRun decode {} events).2 →
      (sentTimes transaction (stunRun decode {} events).2).length = 7 ∧
      ∃ first, (sentTimes transaction (stunRun decode {} events).2).head? = some first ∧ first + 39500 ≤ now := by
  have zeroed : StunKept ({}, []) ∧ Deaf ({}, []) := by
    refine ⟨⟨?_, ?_, ?_, ?_, ?_, ?_, ?_⟩, ⟨fun _ => rfl, rfl, ?_⟩⟩ <;> simp [sentTimes]
  have kept := (Runs.run_invariant _ (fun reached => StunKept reached ∧ Deaf reached) _ events (stun_next_kept decode) zeroed).1
  refine ⟨kept.once transaction, kept.bound transaction, ?_⟩
  intro now logged
  have given := kept.late transaction now logged
  exact ⟨given.count, given.late⟩

end Intercom.Nat
