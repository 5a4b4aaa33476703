import Intercom.Android.Text

set_option autoImplicit false

/- RelayConnection.kt: the app asks the relay for a device and hands on the socket. The stream holds every byte up to
   its end; the returned socket is what is left of it. An exception is its message. -/
namespace Intercom.Android.RelayConnection

open ByteText

def stripReturn (line : Text) : Text := if line.getLast? = some 13 then line.dropLast else line

def readLine : Text → Bytes → Except Text (Text × Bytes)
  | _, [] => .error (text "Relay closed connection")
  | sb, b :: rest =>
      if b = 10 then .ok (stripReturn sb, rest)
      else if 256 < (sb ++ [b.toUInt16]).length then .error (text "Relay response too long")
      else readLine (sb ++ [b.toUInt16]) rest

def command (deviceId : Text) : Bytes := toAscii (text "CONNECT " ++ deviceId ++ text "\r\n")

def errorMsg (response : Text) : Text :=
  if startsWith response (text "ERROR ") then response.drop 6 else text "Unknown relay error: " ++ response

def connect (deviceId : Text) (input : Bytes) : Bytes × Except Text Bytes :=
  (command deviceId,
    match readLine [] input with
    | .error message => .error message
    | .ok (response, rest) => if startsWith response (text "OK") then .ok rest else .error (text "Relay: " ++ errorMsg response))

theorem read_line_whole (line rest : Bytes) (start : Text) (unbroken : Unbroken line) (short : start.length + line.length ≤ 255) :
    readLine start (line ++ crlf ++ rest) = .ok (start ++ ofChars line, rest) := by
  induction line generalizing start with
  | nil =>
      have fits : ¬ 256 < (start ++ [(13 : UInt8).toUInt16]).length := by
        rw [List.length_append, List.length_singleton]
        simp only [List.length_nil] at short
        omega
      have last : (start ++ [(13 : UInt8).toUInt16]).getLast? = some 13 := by
        rw [List.getLast?_concat]
        rfl
      rw [List.nil_append, crlf, List.cons_append, List.cons_append, List.nil_append, readLine, if_neg (by decide), if_neg fits,
        readLine, if_pos rfl, stripReturn, if_pos last, List.dropLast_concat]
      simp [ofChars]
  | cons byte tail ih =>
      have clean := unbroken byte List.mem_cons_self
      have fits : ¬ 256 < (start ++ [byte.toUInt16]).length := by
        rw [List.length_append, List.length_singleton]
        simp only [List.length_cons] at short
        omega
      have later := ih (start ++ [byte.toUInt16]) (fun other member => unbroken other (List.mem_cons_of_mem _ member)) (by
        rw [List.length_append, List.length_singleton]
        simp only [List.length_cons] at short
        omega)
      rw [List.cons_append, List.cons_append, readLine, if_neg clean.2, if_neg fits, later, List.append_assoc]
      rfl

theorem connect_after_ok (deviceId : Text) (rest : Bytes) : (connect deviceId (ascii "OK\r\n" ++ rest)).2 = .ok rest := by
  have read := read_line_whole (ascii "OK") rest [] (by decide) (by decide)
  have same : ascii "OK\r\n" = ascii "OK" ++ crlf := by decide
  rw [connect, same, read]
  rfl

theorem command_bytes (id : Bytes) (plain : ∀ byte ∈ id, byte < 128) : command (ofChars id) = ascii "CONNECT " ++ id ++ crlf := by
  have kept : toAscii (ofChars id) = id := to_ascii_chars id plain
  have before : toAscii (text "CONNECT ") = ascii "CONNECT " := by decide
  have after : toAscii (text "\r\n") = crlf := by decide
  rw [command, to_ascii_append, to_ascii_append, kept, before, after]

end Intercom.Android.RelayConnection
