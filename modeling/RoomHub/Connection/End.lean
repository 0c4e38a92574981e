import RoomHub.Text.Quoted

/-!
# How connections end

Why reading from a peer stopped and why writing to it stopped, with their forms in a log.
-/

namespace RoomHub

open Text

/-- Why a read pump stopped. -/
inductive ReadEnd where
  /-- The peer closed the connection or its stream ended. -/
  | peerClosed
  /-- No ping or pong came in time. -/
  | deadlineExceeded
  | frameTooLarge (size : Nat)
  | malformed (reason : String)
  | transport (reason : String)
  /-- The room's hub no longer runs. -/
  | hubGone
  deriving DecidableEq, Repr

/-- The form of a read pump's end in a log. -/
def ReadEnd.logForm : ReadEnd → String
  | .peerClosed => "PeerClosed"
  | .deadlineExceeded => "DeadlineExceeded"
  | .frameTooLarge size => s!"FrameTooLarge({size})"
  | .malformed reason => s!"Malformed({quoted reason})"
  | .transport reason => s!"Transport({quoted reason})"
  | .hubGone => "HubGone"

/-- Why a write pump stopped. -/
inductive WriteEnd where
  /-- The hub gave up the queue and everything in it was written. -/
  | queueClosed
  | timeout
  | failed (reason : String)
  deriving DecidableEq, Repr

/-- The form of a write pump's end in a log. -/
def WriteEnd.logForm : WriteEnd → String
  | .queueClosed => "QueueClosed"
  | .timeout => "Timeout"
  | .failed reason => s!"Failed({quoted reason})"

end RoomHub
