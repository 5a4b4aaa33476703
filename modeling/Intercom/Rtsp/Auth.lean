import Intercom.Rtsp.Wire

set_option autoImplicit false

/- rtsp_auth.c. MD5 and the random source are answered by the environment. -/
namespace Intercom

open ByteText

structure Auth where
  username : Bytes := []
  password : Bytes := []
  nonce : Bytes := []
  enabled : Bool := false
deriving DecidableEq, Repr

def nonceLen : Nat := 32

-- rand() is called once for each digit, starting with the given call.
def generateNonce (rand : Nat → Nat) (call : Nat) : Bytes :=
  (List.range nonceLen).map fun index => digit false (rand (call + index) % 16)

def rtspAuthInit (rand : Nat → Nat) (call : Nat) (username password : Bytes) : Auth :=
  if username = [] ∨ password = [] then {}
  else { username := username.take 63, password := password.take 63, nonce := generateNonce rand call, enabled := true }

def md5Hex (md5 : Bytes → Fin 16 → UInt8) (data : Bytes) : Bytes :=
  (List.ofFn (md5 data)).flatMap fun byte => [digit false (byte.toNat / 16), digit false (byte.toNat % 16)]

def parseDigestField (hdr field : Bytes) (size : Nat) : Option Bytes :=
  match findSub (field ++ ascii "=\"") hdr with
  | some found =>
      let start := hdr.drop (found + field.length + 2)
      (memchr 34 start).map fun stop => (start.take stop).take (size - 1)
  | none =>
      (findSub (field ++ ascii "=") hdr).map fun found =>
        let start := hdr.drop (found + field.length + 1)
        (start.takeWhile fun byte => byte != 44 && byte != 32 && byte != 13).take (size - 1)

def digestResponse (md5 : Bytes → Fin 16 → UInt8) (auth : Auth) (method uri sentRealm nonce : Bytes) : Bytes :=
  let ha1 := md5Hex md5 (snprintf 256 [auth.username, ascii ":", sentRealm, ascii ":", auth.password])
  let ha2 := md5Hex md5 (snprintf 256 [method, ascii ":", uri])
  md5Hex md5 (snprintf 512 [ha1, ascii ":", nonce, ascii ":", ha2])

-- The digest is taken over the uri field of the header; the request's own URI is not looked at. Of the
-- response field only the first 32 characters are compared.
def rtspAuthCheck (md5 : Bytes → Fin 16 → UInt8) (auth : Auth) (method _uri : Bytes) (hdr : Option Bytes) : Bool :=
  if auth.enabled then
    match hdr with
    | none => false
    | some hdr =>
        if casePrefix (ascii "Digest ") hdr then
          match parseDigestField hdr (ascii "username") 64, parseDigestField hdr (ascii "realm") 64,
            parseDigestField hdr (ascii "nonce") 64, parseDigestField hdr (ascii "response") 64,
            parseDigestField hdr (ascii "uri") 256 with
          | some username, some sentRealm, some nonce, some response, some reqUri =>
              decide (username = auth.username) && decide (nonce = auth.nonce) &&
                decide (response.take 32 = digestResponse md5 auth method reqUri sentRealm nonce)
          | _, _, _, _, _ => false
        else false
  else true

def rotateNonce (rand : Nat → Nat) (call : Nat) (auth : Auth) : Auth := { auth with nonce := generateNonce rand call }

end Intercom
