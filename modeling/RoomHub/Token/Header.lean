import RoomHub.Json.Record

/-!
# Token headers

The first part of a token names the algorithm of its signature.  The other members that a header may
have are read and dropped, so they must have the right form.
-/

namespace RoomHub.Token

open Json

/-- The algorithms that a header can name. -/
inductive Algorithm where
  | hs256 | hs384 | hs512
  | es256 | es384
  | rs256 | rs384 | rs512
  | ps256 | ps384 | ps512
  | edDsa
  deriving DecidableEq, Repr

/-- The algorithms under their names. -/
def algorithms : List (String × Algorithm) :=
  [("HS256", .hs256), ("HS384", .hs384), ("HS512", .hs512), ("ES256", .es256), ("ES384", .es384),
    ("RS256", .rs256), ("RS384", .rs384), ("RS512", .rs512), ("PS256", .ps256), ("PS384", .ps384),
    ("PS512", .ps512), ("EdDSA", .edDsa)]

/-! ### Keys in a header -/

/-- A text where a key has one. -/
def isText : Value → Bool
  | .text _ => true
  | _ => false

/-- The members of this name. -/
def named (members : List (String × Value)) (name : String) : List Value :=
  (members.filter (·.1 == name)).map (·.2)

/-- Whether the one member of this name is a text. -/
def hasText (members : List (String × Value)) (name : String) : Bool :=
  match named members name with
  | [v] => isText v
  | _ => false

/-- Whether a value names one of the known ones: as a text, or as the only member of an object, with
the value `null`. -/
def isName (known : List String) : Value → Bool
  | .text s => known.contains s
  | .object [(name, .null)] => known.contains name
  | _ => false

/-- Whether the one member of this name names one of the known ones. -/
def hasName (members : List (String × Value)) (name : String) (known : List String) : Bool :=
  match named members name with
  | [v] => isName known v
  | _ => false

/-- The curves of a key. -/
def curves : List String := ["P-256", "P-384", "P-521", "Ed25519"]

/-- Whether the members describe a key of some family. -/
def describesKey (members : List (String × Value)) : Bool :=
  (hasName members "kty" ["EC"] && hasName members "crv" curves && hasText members "x" &&
      hasText members "y") ||
    (hasName members "kty" ["RSA"] && hasText members "n" && hasText members "e") ||
    (hasName members "kty" ["oct"] && hasText members "k") ||
    (hasName members "kty" ["OKP"] && hasName members "crv" curves && hasText members "x")

/-- What was found, of a value that has been read. -/
def found : Value → Found
  | .null => .null
  | .flag b => .flag b
  | .number n => .number n
  | .text s => .text s
  | .array _ => .array
  | .object _ => .object

/-- The algorithms that a key can be for. -/
def keyAlgorithms : List String :=
  algorithms.map Prod.fst ++ ["RSA1_5", "RSA-OAEP", "RSA-OAEP-256"]

/-- The algorithm of a key: a name, alone or as the only member of an object with nothing as its
value. -/
def checkAlgorithm : Value → Except Cause Unit
  | .text s =>
    if keyAlgorithms.contains s then .ok () else .error (.unknownName s keyAlgorithms)
  | .object [(name, value)] =>
    if keyAlgorithms.contains name then
      match value with
      | .null | .object [] => .ok ()
      | v => .error (.wrongType (found v) "unit")
    else .error (.unknownName name keyAlgorithms)
  | .object _ => .error (.wrongValue .object "map with a single key")
  | v => .error (.wrongType (found v) "string or map")

/-- A member that is a text. -/
def checkText (v : Value) : Except Cause Unit :=
  if isText v then .ok () else .error (.wrongType (found v) "a string")

/-- A member that is a list of texts. -/
def checkTexts : Value → Except Cause Unit
  | .array items => items.forM checkText
  | v => .error (.wrongType (found v) "a sequence")

/-- The members that any key may have, with what their values must be. -/
def commonMembers : List (String × (Value → Except Cause Unit)) :=
  [("use", checkText), ("key_ops", checkTexts), ("alg", checkAlgorithm), ("kid", checkText),
    ("x5u", checkText), ("x5c", checkTexts), ("x5t", checkText), ("x5t#S256", checkText)]

/-- Checks the members that any key may have, none of them twice; `null` stands for an absent one. -/
def checkCommon : List (String × Value) → List String → Except Cause Unit
  | [], _ => .ok ()
  | (name, value) :: members, seen =>
    match commonMembers.lookup name with
    | none => checkCommon members seen
    | some check =>
      if seen.contains name then .error (.duplicateField name)
      else
        match if value matches .null then .ok () else check value with
        | .ok () => checkCommon members (name :: seen)
        | .error cause => .error cause

/-- Reads a key, which is dropped. -/
def readKey : Reader Unit := fun bytes =>
  match Byte.skipBlanks bytes with
  | [] => .error (.ahead (.cutOff .value) [])
  | b :: rest =>
    if b = Byte.braceOpen then
      let member (name : String) (members : List (String × Value)) : Reader _ := fun bytes =>
        match readColon bytes with
        | .error f => .error f
        | .ok bytes => (readAny (maxDepth - 2) bytes).map fun (v, rest) => (members ++ [(name, v)], rest)
      let contents : Except Fault (Unit × List UInt8) :=
        match readMembers member (rest.length + 1) true [] rest with
        | .error f => .error f
        | .ok (members, rest) =>
          match checkCommon members [] with
          | .error cause => .error (.unplaced cause rest)
          | .ok () =>
            if describesKey members then .ok ((), rest)
            else
              let reason := "data did not match any variant of untagged enum AlgorithmParameters"
              .error (.unplaced (.refused reason) rest)
      closeWith endObject contents
    else .error (mismatch "struct Jwk" (b :: rest))

/-! ### The header -/

/-- The fields read so far; of those that are dropped only that they were there. -/
structure Fields where
  algorithm : Option Algorithm := none
  seen : List String := []

/-- A field that is read and dropped. -/
def dropped {α : Type} (name : String) (read : Reader α) : Json.Field Fields where
  name := name
  present s := s.seen.contains name
  read s := fun bytes => (readOptional read bytes).map fun (_, rest) =>
    ({ s with seen := name :: s.seen }, rest)
  optional := false

/-- A header is its algorithm. -/
def header : Record Fields Algorithm where
  name := "Header"
  fields :=
    [dropped "typ" readString,
      .of "alg" false (·.algorithm) (fun s x => { s with algorithm := some x })
        (readChoice algorithms),
      dropped "cty" readString, dropped "jku" readString, dropped "jwk" readKey,
      dropped "kid" readString, dropped "x5u" readString, dropped "x5c" (readArray readString),
      dropped "x5t" readString, dropped "x5t#S256" readString]
  empty := {}
  finish s := required "alg" s.algorithm

/-- The header of every token that is issued. -/
def issuedHeader : String := "\x7b\"typ\":\"JWT\",\"alg\":\"HS256\"\x7d"

end RoomHub.Token
