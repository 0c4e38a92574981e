import RoomHub.Digest.Sha1
import RoomHub.Http.Request
import RoomHub.Http.Response
import RoomHub.Text.Base64

/-!
# Opening a socket

The opening handshake of a socket.  `handshakeKey` checks a request for it, in a fixed order, and gives
its key; `accepted` is the answer that opens the socket.
-/

namespace RoomHub.Http

open Text

/-- Why a request opens no socket. -/
inductive HandshakeFault where
  | method
  | connection
  | upgrade
  | keyMissing
  | version
  | notUpgradable
  deriving DecidableEq, Repr

/-- The answer to a faulty handshake. -/
def HandshakeFault.response : HandshakeFault → Response
  | .method => .text 405 "Request method must be `GET`"
  | .connection => .text 400 "Connection header did not include 'upgrade'"
  | .upgrade => .text 400 "`Upgrade` header did not include 'websocket'"
  | .keyMissing => .text 400 "`Sec-WebSocket-Key` header missing"
  | .version => .text 400 "`Sec-WebSocket-Version` header did not include '13'"
  | .notUpgradable =>
    .text 426 "WebSocket request couldn't be upgraded since no upgrade state was present"

/-- Whether a word occurs in the value of a header, in any case. -/
def Request.headerMentions (r : Request) (name word : String) : Bool :=
  match r.header? name with
  | some value => isPlainValue value && occursIn word.toList (value.toList.map lowerAscii)
  | none => false

/-- Whether a header has this value, in any case. -/
def Request.headerIs (r : Request) (name value : String) : Bool :=
  match r.header? name with
  | some v => sameAscii v value
  | none => false

/-- The key of a handshake. -/
def handshakeKey (r : Request) : Except HandshakeFault String :=
  if r.method ≠ "GET" then .error .method
  else if !r.headerMentions "connection" "upgrade" then .error .connection
  else if !r.headerIs "upgrade" "websocket" then .error .upgrade
  else
    match r.header? "sec-websocket-key" with
    | none => .error .keyMissing
    | some key =>
      if !r.headerIs "sec-websocket-version" "13" then .error .version
      else if !r.upgradable then .error .notUpgradable
      else .ok key

/-- What every server appends to a key. -/
def handshakeGuid : String := "258EAFA5-E914-47DA-95CA-C5AB0DC85B11"

/-- What proves that a key was read. -/
def acceptKey (key : String) : String :=
  let digest := Digest.sha1 (Utf8.ofText (key ++ handshakeGuid))
  String.ofList (Base64.padded (Base64.encode .standard digest))

/-- The answer that opens a socket. -/
def accepted (key : String) : Response :=
  { Response.empty 101 with
      headers :=
        [("connection", "upgrade"), ("upgrade", "websocket"),
          ("sec-websocket-accept", acceptKey key)] }

end RoomHub.Http
