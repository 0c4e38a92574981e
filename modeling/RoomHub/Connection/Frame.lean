import RoomHub.Text.Utf8

/-!
# Frames

What passes between the two ends of a connection.
-/

namespace RoomHub

/-- One frame. -/
inductive Frame where
  | text (s : String)
  | binary (bytes : List UInt8)
  | ping (payload : List UInt8)
  | pong (payload : List UInt8)
  /-- The end of the connection, with a code and a reason if they are given. -/
  | close (reason : Option (Nat × String))
  deriving DecidableEq, Repr

/-- The bytes that a frame carries. -/
def Frame.payload : Frame → List UInt8
  | .text s => Text.Utf8.ofText s
  | .binary bytes => bytes
  | .ping bytes => bytes
  | .pong bytes => bytes
  | .close none => []
  | .close (some (code, reason)) =>
    UInt8.ofNat (code / 256) :: UInt8.ofNat code :: Text.Utf8.ofText reason

/-- What a stream of frames yields. -/
inductive Arrival where
  | frame (f : Frame)
  | failure (reason : String)
  | endOfStream
  deriving DecidableEq, Repr

end RoomHub
