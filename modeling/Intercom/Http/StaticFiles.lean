import Intercom.Http.Server
import Intercom.Lib.Paths
import Intercom.Lib.Search

set_option autoImplicit false

/- Which files http_req_handler can open: only such as lie below g_www_path, under the name the request gives. -/
namespace Intercom.Http

open ByteText

-- The system under the server takes both for separators.
def isSeparator (byte : UInt8) : Bool := byte == 47 || byte == 92

-- Resolved from whatever directory, the name never leads out of it.
def Confined (name : Bytes) : Prop := ∀ base, Paths.Stays (ascii ".") (ascii "..") base (name.splitOnP isSeparator)

theorem strstr_absent (text pattern : Bytes) (clean : 0 ∉ text) (missing : ¬ (strstr text pattern).isSome = true) :
    ¬ pattern <:+: text := by
  rw [strstr, cstr_clean text clean, Bool.not_eq_true, Option.isSome_eq_false_iff, Option.isNone_iff_eq_none] at missing
  rw [← after_none, after, missing]
  rfl

theorem send_file_opened (filename filepath : Bytes) (file : OpenFile) : (sendFile filename filepath file).opened = some filepath := by
  rw [sendFile]
  split
  · rfl
  · split
    · rfl
    · split
      · rfl
      · rfl

-- The length test leaves room for both texts, the slash and the terminator.
theorem filepath_whole (wwwPath filename : Bytes) (fits : ¬ filepathSize ≤ wwwPath.length + filename.length + 2) :
    snprintf filepathSize [wwwPath, ascii "/", filename] = wwwPath ++ ascii "/" ++ filename := by
  have size : (ascii "/").length = 1 := rfl
  have flat : [wwwPath, ascii "/", filename].flatten = wwwPath ++ ascii "/" ++ filename := by simp
  rw [snprintf_whole, flat]
  rw [flat, List.length_append, List.length_append, size]
  omega

theorem serve_file_opened (fopen : Bytes → Option OpenFile) (wwwPath filename : Bytes) (directory : 0 ∉ wwwPath) (clean : 0 ∉ filename) :
    (serveFile fopen wwwPath filename).opened = none ∨
      (serveFile fopen wwwPath filename).opened = some (wwwPath ++ ascii "/" ++ filename) ∧ Confined filename := by
  rw [serveFile, cstr_clean wwwPath directory, cstr_clean filename clean]
  by_cases refused : (strstr filename (ascii "..")).isSome ∨ (strstr filename (ascii "\\")).isSome ∨ filename.head? = some 47 ∨
      filename.head? = some 92
  · rw [if_pos refused]
    exact .inl rfl
  · rw [if_neg refused]
    by_cases long : filepathSize ≤ wwwPath.length + filename.length + 2
    · rw [if_pos long]
      exact .inl rfl
    · rw [if_neg long, filepath_whole wwwPath filename long]
      have climbs := strstr_absent filename (ascii "..") clean (not_or.mp refused).1
      refine .inr ⟨?_, fun base => Paths.stays_of_text isSeparator _ _ base filename climbs⟩
      dsimp only
      split
      · rfl
      · exact send_file_opened _ _ _

theorem pathbuf_cut (path : Bytes) :
    (path.drop 1).take (if pathbufSize ≤ path.length - 1 then pathbufSize - 1 else path.length - 1) = (path.drop 1).take 255 := by
  by_cases long : pathbufSize ≤ path.length - 1
  · rw [if_pos long]
    rfl
  · rw [if_neg long, List.take_of_length_le (by rw [List.length_drop]), List.take_of_length_le]
    rw [List.length_drop]
    rw [pathbufSize] at long
    omega

inductive Opens (wwwPath path : Bytes) : List Bytes → Prop where
  | nothing : Opens wwwPath path []
  | file (name : Bytes) (asked : name = ascii "index.html" ∨ name = (path.drop 1).take 255) (confined : Confined name) :
      Opens wwwPath path [wwwPath ++ ascii "/" ++ name]

theorem serve_file_opens (fopen : Bytes → Option OpenFile) (wwwPath path name : Bytes) (directory : 0 ∉ wwwPath) (clean : 0 ∉ name)
    (asked : name = ascii "index.html" ∨ name = (path.drop 1).take 255) :
    Opens wwwPath path (serveFile fopen wwwPath name).opened.toList := by
  rcases serve_file_opened fopen wwwPath name directory clean with none | ⟨opened, confined⟩
  · rw [none]
    exact .nothing
  · rw [opened]
    exact .file name asked confined

theorem serve_static_opens (fopen : Bytes → Option OpenFile) (wwwPath path : Bytes) (directory : 0 ∉ wwwPath) (clean : 0 ∉ path) :
    Opens wwwPath path (serveStatic fopen wwwPath path).opened.toList := by
  rw [serveStatic]
  split
  · exact serve_file_opens fopen wwwPath path _ directory (by decide) (.inl rfl)
  · split
    · dsimp only
      rw [pathbuf_cut]
      have inside : 0 ∉ (path.drop 1).take 255 := fun member => clean (List.mem_of_mem_drop (List.mem_of_mem_take member))
      exact serve_file_opens fopen wwwPath path _ directory inside (.inr rfl)
    · exact .nothing

theorem http_sig_init_directory (wwwPath : Bytes) :
    0 ∉ (httpSigInit wwwPath).wwwPath ∧
      (0 ∉ wwwPath → wwwPath.length < wwwPathSize → (httpSigInit wwwPath).wwwPath = wwwPath) := by
  constructor
  · exact fun member => cstr_no_zero wwwPath (List.mem_of_mem_take member)
  · intro clean short
    rw [httpSigInit, cstr_clean wwwPath clean]
    exact List.take_of_length_le (Nat.le_sub_one_of_lt short)

theorem static_files_confined (w : World) (env : HttpEnv) (server : HttpServer) (d : Device) (msg : HttpMsg)
    (directory : 0 ∉ server.wwwPath) (clean : 0 ∉ msg.path) :
    (httpReqHandler w env server d msg).replies.length = 1 ∧
      Opens server.wwwPath msg.path (httpReqHandler w env server d msg).opened := by
  have static := serve_static_opens env.fopen server.wwwPath msg.path directory clean
  rw [httpReqHandler]
  repeat' split
  all_goals refine ⟨rfl, ?_⟩
  all_goals first | exact static | exact .nothing

def homeFiles : HttpEnv :=
  { fopen := fun filepath => if filepath = ascii "C:/www/js/app.js" then some { fsize := 2, content := [59, 10] } else none }

def scriptRequest : HttpMsg := { met := ascii "GET", path := ascii "/js/app.js" }

theorem script_confined :
    0 ∉ (httpSigInit (ascii "C:/www")).wwwPath ∧ 0 ∉ scriptRequest.path ∧
      Opens (ascii "C:/www") (ascii "/js/app.js") [ascii "C:/www/js/app.js"] := by
  have directory : 0 ∉ (httpSigInit (ascii "C:/www")).wwwPath := by decide
  have clean : 0 ∉ scriptRequest.path := by decide
  have opened : (httpReqHandler sampleWorld homeFiles (httpSigInit (ascii "C:/www")) {} scriptRequest).opened =
      [ascii "C:/www/js/app.js"] := by decide +kernel
  have confined := (static_files_confined sampleWorld homeFiles (httpSigInit (ascii "C:/www")) {} scriptRequest directory clean).2
  rw [opened] at confined
  exact ⟨directory, clean, confined⟩

example : (serveFile homeFiles.fopen (ascii "C:/www") (ascii "js/../../secret")).opened = none := by decide +kernel

end Intercom.Http
