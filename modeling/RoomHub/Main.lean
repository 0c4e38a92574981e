import RoomHub.Launch

/-!
# The program

Reads the command line and the environment, prints what `Launch.run` says and exits with its code.
-/

open RoomHub

/-- A machine that has every address and allows every port. -/
def localMachine : Launch.Machine where
  address := id
  hasAddress := fun _ => true
  allowsPort := fun _ => true
  shownPort := toString

/-- The program; nothing in its log depends on the time, so it starts at that of an unset clock. -/
def main (arguments : List String) : IO UInt32 := do
  let secret ← IO.getEnv "JWT_SECRET"
  let asked ← IO.getEnv "RUST_LOG"
  let outcome :=
    Launch.run localMachine secret asked Calendar.Instant.epoch 0 .interrupt arguments
  outcome.stdout.forM IO.println
  outcome.stderr.forM IO.eprintln
  outcome.log.forM fun entry => entry.lines.forM IO.println
  return outcome.code.toUInt32
