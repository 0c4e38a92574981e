import RoomHub.Log.Directive
import RoomHub.Log.Entry

/-!
# Log filters

A filter is a list of directives, separated by commas.  Of the directives that concern an event the
most specific one decides; an event that none concerns is not shown.
-/

namespace RoomHub.Log

open Text

/-- A log filter: the directives about events and those about spans. -/
structure Filter where
  events : List Directive
  spans : List Directive
  deriving DecidableEq, Repr

namespace Filter

/-- Puts a directive in the place of those about the same events. -/
def insert (ds : List Directive) (d : Directive) : List Directive :=
  ds.filter (!d.sameSubject ·) ++ [d]

/-- The filter of some directives; of those about the same events the last one counts. -/
def ofDirectives (ds : List Directive) : Filter where
  events := (ds.filter (·.concernsEvents)).foldl insert []
  spans := (ds.filter (·.concernsSpans)).foldl insert []

/-- The texts of the directives in a filter. -/
def directiveTexts (s : String) : List String :=
  ((pieces ',' s.toList).filter (· ≠ [])).map String.ofList

/-- Reads a filter, of which every directive has to be sound. -/
def ofText (s : String) : Except Unsound Filter :=
  ((directiveTexts s).mapM Directive.ofText).map ofDirectives

/-- The directives among some texts; malformed ones are passed over. -/
def soundDirectives : List String → Except Unsound (List Directive)
  | [] => .ok []
  | s :: rest =>
    match Directive.ofText s with
    | .ok d => (soundDirectives rest).map (d :: ·)
    | .error .malformed => soundDirectives rest
    | .error .severed => .error .severed

/-- What is shown if nothing is said. -/
def fallback : Directive := { verbosity := .error }

/-- Reads a filter; malformed directives are passed over, and errors are shown if there is no other. -/
def ofTextLossy (s : String) : Except Unsound Filter :=
  (soundDirectives (directiveTexts s)).map fun ds =>
    ofDirectives (if ds.isEmpty then [fallback] else ds)

/-- The parts of the program that are shown by default. -/
def programTargets : List String := ["kyodo_server", "kyodo_shared", "tower_http"]

/-- The filter for a program and a verbosity, as a text: one directive for each part of the program
and one for the program itself. -/
def defaultText (program verbosity : String) : String :=
  let own := program.map fun c => if c = '-' then '_' else c
  let targets := programTargets ++ if programTargets.contains own then [] else [own]
  ",".intercalate (targets.map fun t => s!"{t}={verbosity}")

/-- The filter of a program.  A sound filter from the environment goes before the default, also one
without directives. -/
def forProgram (program verbosity : String) (asked : Option String) : Except Unsound Filter :=
  match asked.map ofText with
  | some (.ok f) => .ok f
  | some (.error .severed) => .error .severed
  | _ => ofTextLossy (defaultText program verbosity)

/-- All directives of a filter. -/
def directives (f : Filter) : List Directive := f.events ++ f.spans

/-- The more specific of two directives. -/
def moreSpecific (best : Option Directive) (d : Directive) : Option Directive :=
  match best with
  | some b => if b.lessSpecific d then some d else some b
  | none => some d

/-- Whether an event outside of all spans is shown. -/
def shows (f : Filter) (level : Level) (target : String) : Bool :=
  match (f.events.filter (·.covers target)).foldl moreSpecific none with
  | some d => d.verbosity.shows level
  | none => false

/-- The entries that a filter shows. -/
def select (f : Filter) (entries : List Entry) : List Entry :=
  entries.filter fun e => f.shows e.level e.target

end Filter
end RoomHub.Log
