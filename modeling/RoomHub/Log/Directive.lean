import RoomHub.Log.Field
import RoomHub.Log.Level
import RoomHub.Text.Utf8

/-!
# Directives

A directive gives a verbosity to the events of a target, to those in a span or to those that have a
certain field, as in `target[span]=verbosity`, where every part may be absent.  Blanks at the
ends of its text do not count when the parts are looked for, but the parts are cut out of the whole
text at the places found, so after a blank at the beginning they are not where they were looked for.
-/

namespace RoomHub.Log

open Text

/-- What is shown of which events. -/
structure Directive where
  /-- The beginning of the targets that are meant; all if there is none. -/
  target : Option String := none
  /-- The span in which events are meant. -/
  span : Option String := none
  /-- The field that an event has.  There is at most one, since commas separate directives. -/
  field : Option Field := none
  verbosity : Verbosity := .trace
  deriving DecidableEq, Repr

/-- Why a text is no directive. -/
inductive Unsound where
  /-- The parts are not as they should be. -/
  | malformed
  /-- A part would begin or end within a character. -/
  | severed
  deriving DecidableEq, Repr

namespace Directive

/-- A verbosity by its number or its name, in any case. -/
def verbosity? (s : String) : Option Verbosity :=
  match readUnsigned s with
  | .ok n => Verbosity.all[n]?
  | .error _ => Verbosity.all.find? fun v => sameAscii s v.name

/-- A character with which a target or a verbosity may begin. -/
def isFirst (c : Char) : Bool :=
  c = '-' || c = ':' || c = '_' || isAlphanumeric c

/-- Where the reading of a directive stands; a part that is being read began at the given byte. -/
inductive Stage where
  | beginning
  | subject (start : Nat)
  | span (start : Nat)
  | field (start : Nat)
  | afterField
  | afterSpan
  | verbosity (start : Nat)
  deriving DecidableEq, Repr

/-- The part from one byte to another. -/
def cut (text : List Char) (start stop : Nat) : Except Unsound String :=
  match (Utf8.dropBytes start text).bind (Utf8.takeBytes (stop - start)) with
  | some part => .ok (String.ofList part)
  | none => .error .severed

/-- The part from a byte to the end. -/
def cutRest (text : List Char) (start : Nat) : Except Unsound String :=
  match Utf8.dropBytes start text with
  | some part => .ok (String.ofList part)
  | none => .error .severed

/-- Reads the character at byte `i`. -/
def step (text : List Char) (d : Directive) (i : Nat) (c : Char) :
    Stage → Except Unsound (Directive × Stage)
  | .beginning =>
    if c = '[' then .ok (d, .span (i + 1))
    else if isFirst c then .ok (d, .subject i)
    else .error .malformed
  | .subject start =>
    if c = '=' then
      (cut text start i).map fun t => ({ d with target := some t }, .verbosity (i + 1))
    else if c = '[' then
      (cut text start i).map fun t => ({ d with target := some t }, .span (i + 1))
    else .ok (d, .subject start)
  | .span start =>
    if c = ']' then (cut text start i).map fun t => ({ d with span := some t }, .afterSpan)
    else if c = '\x7b' then
      (cut text start i).map fun t =>
        ({ d with span := if t = "" then none else some t }, .field (i + 1))
    else .ok (d, .span start)
  | .field start =>
    if c = '\x7d' then
      match cut text start i with
      | .error e => .error e
      | .ok t =>
        match if t = "" then none else Field.ofText? t with
        | some f => .ok ({ d with field := some f }, .afterField)
        | none => .error .malformed
    else .ok (d, .field start)
  | .afterField => if c = ']' then .ok (d, .afterSpan) else .error .malformed
  | .afterSpan => if c = '=' then .ok (d, .verbosity (i + 1)) else .error .malformed
  | .verbosity start => .ok (d, .verbosity start)

/-- Reads the characters from byte `i` on. -/
def readFrom (text : List Char) (d : Directive) (stage : Stage) (i : Nat) :
    List Char → Except Unsound (Directive × Stage)
  | [] => .ok (d, stage)
  | c :: cs =>
    match step text d i c stage with
    | .ok (d, stage) => readFrom text d stage (i + c.utf8Size) cs
    | .error e => .error e

/-- Ends a directive.  A lone name is a verbosity if there is such a one, or else a target; after an
equals sign, everything is shown if no verbosity is named. -/
def finish (text : List Char) (d : Directive) : Stage → Except Unsound Directive
  | .subject start =>
    (cutRest text start).map fun t =>
      match verbosity? t with
      | some v => { d with verbosity := v }
      | none => { d with target := some t }
  | .verbosity start =>
    match cutRest text start with
    | .error e => .error e
    | .ok t =>
      if t = "" then .ok d
      else
        match verbosity? t with
        | some v => .ok { d with verbosity := v }
        | none => .error .malformed
  | .afterSpan => .ok d
  | _ => .error .malformed

/-- Reads a directive. -/
def ofText (s : String) : Except Unsound Directive :=
  let text := s.toList
  match readFrom text {} .beginning 0 (trimChars text) with
  | .ok (d, stage) => finish text d stage
  | .error e => .error e

/-- The text of a directive. -/
def text (d : Directive) : String :=
  let field := match d.field with
    | none => ""
    | some f => "\x7b" ++ f.text ++ "\x7d"
  let brackets := if d.span.isNone && d.field.isNone then "" else "[" ++ d.span.getD "" ++ field ++ "]"
  let subject := d.target.getD "" ++ brackets
  if d.target.isNone && brackets = "" then d.verbosity.name
  else subject ++ "=" ++ d.verbosity.name

/-- Whether a value of a field is asked for. -/
def asksValue (d : Directive) : Bool := d.field.any (·.value.isSome)

/-- Directives that can be decided by an event alone. -/
def concernsEvents (d : Directive) : Bool := d.span.isNone && !d.asksValue

/-- Directives that look at spans or at fields of spans. -/
def concernsSpans (d : Directive) : Bool := d.span.isSome || d.field.isSome

/-- Two directives about the same events. -/
def sameSubject (a b : Directive) : Bool :=
  a.target = b.target && a.span = b.span &&
    match a.field, b.field with
    | some f, some g => f.same g
    | none, none => true
    | _, _ => false

/-- Whether a directive is about the events of a target that have only a message. -/
def covers (d : Directive) (target : String) : Bool :=
  (d.target.getD "").toList.isPrefixOf target.toList && d.field.all (·.name = "message")

/-- The length of the target; zero if there is none. -/
def targetSize (d : Directive) : Nat := (d.target.map fun t => t.utf8ByteSize + 1).getD 0

/-- Whether a directive is less specific than another: its target is shorter or, of targets of the
same length, it asks for no field where the other does. -/
def lessSpecific (a b : Directive) : Bool :=
  a.targetSize < b.targetSize ||
    (a.targetSize = b.targetSize && a.field.isNone && b.field.isSome)

end Directive
end RoomHub.Log
