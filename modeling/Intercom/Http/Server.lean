import Intercom.System

set_option autoImplicit false

/- http_server.c: the signalling requests, the doorbell and the static files behind http_req_handler. The calls of
   it that leave the process (fopen, the clock, the STUN and relay clients) are answered by HttpEnv, and so is what the memory
   behind the body of a request holds. -/
namespace Intercom.Http

open ByteText

-- text is what http_reply prints behind the status line: headers, the blank line and the body.
structure HttpReply where
  scode : Nat
  reason : String
  text : Bytes
deriving DecidableEq, Repr

def httpReply (scode : Nat) (reason : String) (pieces : List Bytes) : HttpReply := ⟨scode, reason, pieces.flatten⟩

def httpCreply (scode : Nat) (reason : String) (ctype : String) (body : Bytes) : HttpReply :=
  httpReply scode reason
    [ascii "Content-Type: ", ascii ctype, ascii "\r\nContent-Length: ", decimal body.length, ascii "\r\n\r\n", body]

def httpEreply (scode : Nat) (reason : String) : HttpReply :=
  httpCreply scode reason "text/html"
    (ascii "<!DOCTYPE html>\n<html>\n<head><title>" ++ decimal scode ++ ascii " " ++ ascii reason ++
      ascii "</title></head>\n<body><h2>" ++ decimal scode ++ ascii " " ++ ascii reason ++ ascii "</h2></body>\n</html>\n")

def jsonHeaders : Bytes :=
  ascii "Content-Type: application/json\r\nAccess-Control-Allow-Origin: *\r\nConnection: close\r\n\r\n"

-- What a file that could be opened turns out to be: ftell at its end, whether its buffer is had, what fread yields.
structure OpenFile where
  fsize : Int
  allocated : Bool := true
  content : Bytes
deriving DecidableEq, Repr

structure HttpEnv where
  fopen : Bytes → Option OpenFile
  jiffies : UInt64 := 0
  publicAddr : Option Bytes := none
  relayServer : Option Bytes := none
  relayConnected : Bool := false
  behind : Bytes := []

def strrchr (byte : UInt8) : Bytes → Option Bytes
  | [] => none
  | head :: rest =>
      match strrchr byte rest with
      | some found => some found
      | none => if head = byte then some (head :: rest) else none

def sameCaseless (left right : Bytes) : Bool := left.map lower == right.map lower

def mimeType (path : Bytes) : String :=
  match strrchr 46 path with
  | none => "application/octet-stream"
  | some dot =>
      if sameCaseless dot (ascii ".html") then "text/html; charset=utf-8"
      else if sameCaseless dot (ascii ".js") then "application/javascript; charset=utf-8"
      else if sameCaseless dot (ascii ".css") then "text/css; charset=utf-8"
      else if sameCaseless dot (ascii ".json") then "application/json"
      else if sameCaseless dot (ascii ".ico") then "image/x-icon"
      else if sameCaseless dot (ascii ".png") then "image/png"
      else "application/octet-stream"

inductive ServeError where
  | eperm
  | einval
  | enoent
  | enomem
  | eio
deriving DecidableEq, Repr

-- opened is the path given to fopen, if it comes to that; no error stands for the result of http_reply.
structure Served where
  reply : HttpReply
  opened : Option Bytes := none
  err : Option ServeError := none
deriving DecidableEq, Repr

def filepathSize : Nat := 512

def sendFile (filename filepath : Bytes) (file : OpenFile) : Served :=
  if file.fsize ≤ 0 ∨ 1024 * 1024 < file.fsize then ⟨httpEreply 500 "Internal Error", some filepath, some .einval⟩
  else if !file.allocated then ⟨httpEreply 500 "Internal Error", some filepath, some .enomem⟩
  else if (file.content.length : Int) ≠ file.fsize then ⟨httpEreply 500 "Read Error", some filepath, some .eio⟩
  else
    ⟨httpReply 200 "OK"
      [ascii "Content-Type: ", ascii (mimeType filename), ascii "\r\nContent-Length: ", signed file.fsize,
        ascii "\r\nAccess-Control-Allow-Origin: *\r\nConnection: close\r\n\r\n", file.content], some filepath, none⟩

-- The last test of the source compares the end of the name with itself, so it never refuses.
def serveFile (fopen : Bytes → Option OpenFile) (wwwPath filename : Bytes) : Served :=
  if (strstr filename (ascii "..")).isSome ∨ (strstr filename (ascii "\\")).isSome ∨
      (cstr filename).head? = some 47 ∨ (cstr filename).head? = some 92 then
    ⟨httpEreply 403 "Forbidden", none, some .eperm⟩
  else if filepathSize ≤ (cstr wwwPath).length + (cstr filename).length + 2 then
    ⟨httpEreply 414 "URI Too Long", none, some .einval⟩
  else
    let filepath := snprintf filepathSize [cstr wwwPath, ascii "/", cstr filename]
    match fopen filepath with
    | none => ⟨httpEreply 404 "Not Found", some filepath, some .enoent⟩
    | some file => sendFile (cstr filename) filepath file

structure Doorbell where
  pending : Bool := false
  timestamp : UInt64 := 0
deriving DecidableEq, Repr

-- g_www_path and g_doorbell; g_sess is a field of the device.
structure HttpServer where
  wwwPath : Bytes
  doorbell : Doorbell := {}
deriving DecidableEq, Repr

def wwwPathSize : Nat := 256

def httpSigInit (wwwPath : Bytes) : HttpServer := { wwwPath := (cstr wwwPath).take (wwwPathSize - 1) }

def saText (sa : Sa) : Bytes :=
  decimal (sa.addr.toNat / 2 ^ 24) ++ ascii "." ++ decimal (sa.addr.toNat / 2 ^ 16 % 256) ++ ascii "." ++
    decimal (sa.addr.toNat / 2 ^ 8 % 256) ++ ascii "." ++ decimal (sa.addr.toNat % 256) ++ ascii ":" ++ decimal sa.port.toNat

def callCreateReply (body behind : Bytes) (result : Device × List Out) : HttpReply :=
  if result.2 = [.http 400] then
    httpCreply 400 "Bad Request" "application/json" (ascii "\x7b\"error\":\"invalid peer address\"\x7d")
  else
    match result.1.sess with
    | none => httpEreply 500 "Session alloc failed"
    | some sess =>
        httpReply 201 "Created"
          [jsonHeaders, ascii "\x7b\"status\":\"ok\",\"rtp_port\":", decimal sess.localPort.toNat, ascii ",\"peer\":\"", peerText body behind,
            ascii "\"\x7d"]

def handleStatus (d : Device) : HttpReply :=
  match d.sess with
  | none => httpReply 200 "OK" [jsonHeaders, ascii "\x7b\"active\":false\x7d"]
  | some sess =>
      httpReply 200 "OK"
        [jsonHeaders, ascii "\x7b\"active\":true,\"rtp_port\":", decimal sess.localPort.toNat, ascii ",\"peer\":\"", saText sess.peerAddr,
          ascii "\"\x7d"]

def callDeleteReply : HttpReply := httpReply 200 "OK" [jsonHeaders, ascii "\x7b\"status\":\"ok\"\x7d"]

def handleOptions : HttpReply :=
  httpReply 204 "No Content"
    [ascii "Access-Control-Allow-Origin: *\r\nAccess-Control-Allow-Methods: GET, POST, PUT, DELETE, OPTIONS\r\n",
      ascii "Access-Control-Allow-Headers: Content-Type\r\nAccess-Control-Max-Age: 86400\r\nConnection: close\r\n\r\n"]

def doorbellMinInterval : UInt64 := 5000

def handleDoorbellTrigger (now : UInt64) (doorbell : Doorbell) : Doorbell × HttpReply :=
  if 0 < doorbell.timestamp ∧ now - doorbell.timestamp < doorbellMinInterval then
    (doorbell, httpReply 429 "Too Many Requests" [jsonHeaders, ascii "\x7b\"error\":\"rate limited\"\x7d"])
  else ({ pending := true, timestamp := now }, httpReply 200 "OK" [jsonHeaders, ascii "\x7b\"status\":\"ok\"\x7d"])

def handleDoorbellStatus (doorbell : Doorbell) : Doorbell × HttpReply :=
  if doorbell.pending then ({ doorbell with pending := false }, httpReply 200 "OK" [jsonHeaders, ascii "\x7b\"ringing\":true\x7d"])
  else (doorbell, httpReply 200 "OK" [jsonHeaders, ascii "\x7b\"ringing\":false\x7d"])

-- Three conversions each: the quotes are left away around null.
def quotedOrNull : Option Bytes → List Bytes
  | none => [[], ascii "null", []]
  | some text => [ascii "\"", cstr text, ascii "\""]

def handleNatInfo (env : HttpEnv) : HttpReply :=
  httpReply 200 "OK"
    [jsonHeaders,
      snprintf 512
        (ascii "\x7b\"public_addr\":" :: quotedOrNull env.publicAddr ++ ascii ",\"relay_server\":" :: quotedOrNull env.relayServer ++
          [ascii ",\"relay_connected\":", if env.relayConnected then ascii "true" else ascii "false", ascii "\x7d"])]

structure HttpMsg where
  met : Bytes
  path : Bytes
  body : Bytes := []
deriving DecidableEq, Repr

structure HttpOutcome where
  server : HttpServer
  device : Device
  replies : List HttpReply
  opened : List Bytes := []

def notFound : HttpReply := httpReply 404 "Not Found" [ascii "Connection: close\r\n\r\n"]

def pathbufSize : Nat := 256

def serveStatic (fopen : Bytes → Option OpenFile) (wwwPath path : Bytes) : Served :=
  if path = ascii "/" ∨ path = ascii "/index.html" then serveFile fopen wwwPath (ascii "index.html")
  else if 1 < path.length then
    let plen := path.length - 1
    let plen := if pathbufSize ≤ plen then pathbufSize - 1 else plen
    serveFile fopen wwwPath ((path.drop 1).take plen)
  else { reply := notFound }

-- Every request ends in http_conn_close, whatever was answered.
def httpReqHandler (w : World) (env : HttpEnv) (server : HttpServer) (d : Device) (msg : HttpMsg) : HttpOutcome :=
  if sameCaseless msg.met (ascii "OPTIONS") then ⟨server, d, [handleOptions], []⟩
  else if sameCaseless msg.met (ascii "POST") ∧ msg.path = ascii "/api/call" then
    let result := handleCallCreate w d msg.body env.behind
    ⟨server, result.1, [callCreateReply msg.body env.behind result], []⟩
  else if sameCaseless msg.met (ascii "GET") ∧ msg.path = ascii "/api/status" then ⟨server, d, [handleStatus d], []⟩
  else if sameCaseless msg.met (ascii "DELETE") ∧ msg.path = ascii "/api/call" then
    ⟨server, (handleCallDelete d).1, [callDeleteReply], []⟩
  else if sameCaseless msg.met (ascii "POST") ∧ msg.path = ascii "/api/doorbell" then
    let rung := handleDoorbellTrigger env.jiffies server.doorbell
    ⟨{ server with doorbell := rung.1 }, d, [rung.2], []⟩
  else if sameCaseless msg.met (ascii "GET") ∧ msg.path = ascii "/api/doorbell/status" then
    let asked := handleDoorbellStatus server.doorbell
    ⟨{ server with doorbell := asked.1 }, d, [asked.2], []⟩
  else if sameCaseless msg.met (ascii "GET") ∧ msg.path = ascii "/api/nat" then ⟨server, d, [handleNatInfo env], []⟩
  else if sameCaseless msg.met (ascii "GET") then
    let served := serveStatic env.fopen server.wwwPath msg.path
    ⟨server, d, [served.reply], served.opened.toList⟩
  else ⟨server, d, [notFound], []⟩

theorem http_request_is_step (w : World) (env : HttpEnv) (server : HttpServer) (d : Device) (msg : HttpMsg) :
    (httpReqHandler w env server d msg).device = d ∨
      (httpReqHandler w env server d msg).device = (step w d (.callCreate msg.body env.behind)).1 ∨
      (httpReqHandler w env server d msg).device = (step w d .callDelete).1 := by
  rw [httpReqHandler]
  repeat' split
  all_goals first | exact .inl rfl | exact .inr (.inl rfl) | exact .inr (.inr rfl)

end Intercom.Http
