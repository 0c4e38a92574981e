import RoomHub.Json.Record

/-!
# Registered claims

The claims that decide whether a token may be used now and here.  A registered claim of the wrong
form counts as unusable; reading then goes on where the reader of that claim stopped.
-/

namespace RoomHub.Token

open Json Byte

/-- A claim that may be missing or unusable. -/
inductive Tried (α : Type) where
  | absent
  | unusable
  | usable (value : α)
  deriving DecidableEq, Repr

/-- Reads a claim; a fault makes it unusable. -/
def tryRead {α : Type} (read : Reader (Tried α)) : Reader (Tried α) := fun bytes =>
  match read bytes with
  | .ok r => .ok r
  | .error f => .ok (.unusable, f.rest)

/-- Reads a point in time: a whole number from zero.  Other values are passed over as far as they
are read before their kind is known: brackets only with nothing between them. -/
def readTime : Reader (Tried Nat) := fun bytes =>
  let unusable (rest : List UInt8) : Tried Nat × List UInt8 := (.unusable, rest)
  match skipBlanks bytes with
  | [] => .error (.ahead (.cutOff .value) [])
  | b :: rest =>
    if b = minus then (readNumber false rest).map fun (_, rest) => (.unusable, rest)
    else if isDigit b then
      (readNumber true (b :: rest)).map fun (n, rest) =>
        match n with
        | .natural k => (.usable k, rest)
        | _ => (.unusable, rest)
    else if b = bracketOpen then (endArray rest).map unusable
    else if b = braceOpen then (endObject rest).map unusable
    else .error (mismatch "a number" (b :: rest))

/-- Reads a text or `null`. -/
def readSubject : Reader (Tried String) := fun bytes =>
  (readOptional readString bytes).map fun (s, rest) =>
    ((match s with | some s => .usable s | none => .absent), rest)

/-- The text of a value, if it is one. -/
def textOf? : Value → Option String
  | .text s => some s
  | _ => none

/-- Reads a text, a list of texts or `null`. -/
def readParties : Reader (Tried (List String)) := fun bytes =>
  (readOptional (readAny (maxDepth - 1)) bytes).map fun (v, rest) =>
    let parties : Tried (List String) :=
      match v with
      | none => .absent
      | some (.text s) => .usable [s]
      | some (.array items) =>
        match items.mapM textOf? with
        | some texts => .usable texts
        | none => .unusable
      | some _ => .unusable
    (parties, rest)

/-- The registered claims. -/
structure Registered where
  exp : Tried Nat
  nbf : Tried Nat
  sub : Tried String
  iss : Tried (List String)
  aud : Tried (List String)

namespace Registered

/-- The fields read so far. -/
structure Fields where
  exp : Option (Tried Nat) := none
  nbf : Option (Tried Nat) := none
  sub : Option (Tried String) := none
  iss : Option (Tried (List String)) := none
  aud : Option (Tried (List String)) := none

/-- All five claims may be missing in an object. -/
def record : Record Fields Registered where
  name := "ClaimsForValidation"
  fields :=
    [.of "exp" true (·.exp) (fun s x => { s with exp := some x }) (tryRead readTime),
      .of "nbf" true (·.nbf) (fun s x => { s with nbf := some x }) (tryRead readTime),
      .of "sub" false (·.sub) (fun s x => { s with sub := some x }) (tryRead readSubject),
      .of "iss" false (·.iss) (fun s x => { s with iss := some x }) (tryRead readParties),
      .of "aud" false (·.aud) (fun s x => { s with aud := some x }) (tryRead readParties)]
  empty := {}
  finish s := .ok
    { exp := s.exp.getD .absent, nbf := s.nbf.getD .absent, sub := s.sub.getD .absent
      iss := s.iss.getD .absent, aud := s.aud.getD .absent }

end Registered
end RoomHub.Token
