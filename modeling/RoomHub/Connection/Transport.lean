import RoomHub.Connection.Frame

/-!
# The transport of a socket

What becomes of a frame between the peer that sends it and the reader: `received`.  Frames that are
too large and control frames with a long payload break the connection.
-/

namespace RoomHub.Transport

/-- The greatest payload of a control frame. -/
def maxControlPayload : Nat := 125

/-- Frames that are about the connection itself. -/
def isControl : Frame → Bool
  | .ping _ | .pong _ | .close _ => true
  | .text _ | .binary _ => false

/-- What the reader gets when the peer sends a frame. -/
def received (maxMessageSize : Nat) (f : Frame) : Arrival :=
  let size := f.payload.length
  if maxMessageSize < size then
    .failure s!"Space limit exceeded: Message too long: {size} > {maxMessageSize}"
  else if isControl f && maxControlPayload < size then
    .failure "WebSocket protocol error: Control frame too big (payload must be 125 bytes or less)"
  else .frame f

/-- What the reader gets when the peer is gone without a word. -/
def broken : Arrival :=
  .failure "WebSocket protocol error: Connection reset without closing handshake"

/-- Whether the peer takes nothing more after what the reader gets. -/
def silences : Arrival → Bool
  | .frame (.close _) => true
  | _ => false

end RoomHub.Transport
