import RoomHub.Digest.Sha256
import RoomHub.Text.Base64
import RoomHub.Token.Claims
import RoomHub.Token.Header
import RoomHub.Token.Registered

/-!
# Issuing and verifying tokens

A token is a header, claims and a signature, each in base64 and joined by dots.  `issueClaims` signs
claims; `verify` gives back the identity of a token whose signature, time and audience are right.
-/

namespace RoomHub.Token

open Json Text

/-- Why a token is not accepted. -/
inductive TokenFault where
  | malformed
  | base64 (why : Base64.Error)
  | json (why : Json.Report)
  | algorithm
  | signature
  | missingClaim (name : String)
  | expired
  | audience
  deriving DecidableEq, Repr

namespace TokenFault

/-- The wording of a token fault. -/
def message : TokenFault → String
  | .malformed => "InvalidToken"
  | .base64 why => s!"Base64 error: {why.message}"
  | .json why => s!"JSON error: {why.message}"
  | .algorithm => "InvalidAlgorithm"
  | .signature => "InvalidSignature"
  | .missingClaim name => s!"Missing required claim: {name}"
  | .expired => "ExpiredSignature"
  | .audience => "InvalidAudience"

/-- The form of a base64 error in a log. -/
def base64Form : Base64.Error → String
  | .symbol byte offset => s!"InvalidByte({offset}, {byte})"
  | .length n => s!"InvalidLength({n})"
  | .lastSymbol byte offset => s!"InvalidLastSymbol({offset}, {byte})"
  | .padding => "InvalidPadding"

/-- The form of a JSON report in a log. -/
def jsonForm (r : Json.Report) : String :=
  let (line, column) := r.position.getD (0, 0)
  s!"Error({quoted r.cause.describe}, line: {line}, column: {column})"

/-- The form of a token fault in a log. -/
def logForm : TokenFault → String
  | .malformed => "Error(InvalidToken)"
  | .base64 why => s!"Error(Base64({base64Form why}))"
  | .json why => s!"Error(Json({jsonForm why}))"
  | .algorithm => "Error(InvalidAlgorithm)"
  | .signature => "Error(InvalidSignature)"
  | .missingClaim name => s!"Error(MissingRequiredClaim({quoted name}))"
  | .expired => "Error(ExpiredSignature)"
  | .audience => "Error(InvalidAudience)"

/-- An expired token is told apart from all other faults. -/
def toAuthError : TokenFault → AuthError
  | .expired => .tokenExpired
  | fault => .invalidToken fault.message

end TokenFault

/-- The dot between the parts of a token. -/
def dot : UInt8 := 0x2e

/-- What stands before and after the last dot. -/
def splitLast (bytes : List UInt8) : Option (List UInt8 × List UInt8) :=
  let reversed := bytes.reverse
  match reversed.dropWhile (· != dot) with
  | [] => none
  | _ :: before => some (before.reverse, (reversed.takeWhile (· != dot)).reverse)

/-- The signature of the first two parts of a token, in base64. -/
def signature (secret signed : List UInt8) : List UInt8 :=
  Utf8.encode (Base64.encode .url (Digest.hmacSha256 secret signed))

/-- Reads a part of a token. -/
def decodePart (part : List UInt8) : Except TokenFault (List UInt8) :=
  (Base64.decodeUrl part).mapError .base64

/-- Reads bytes of JSON in a token. -/
def decodeJson {α : Type} (read : Reader α) (bytes : List UInt8) : Except TokenFault α :=
  (Json.decode read bytes).mapError .json

/-- The claims part of a token whose header and signature are right. -/
def signedPart (secret token : List UInt8) : Except TokenFault (List UInt8) := do
  let some (signed, sign) := splitLast token | throw .malformed
  let some (head, claims) := splitLast signed | throw .malformed
  let algorithm ← decodeJson header.read (← decodePart head)
  if algorithm ≠ .hs256 then throw .algorithm
  if sign ≠ signature secret signed then throw .signature
  return claims

/-- A token is good up to and including its last second, and only if it names no audience. -/
def checkRegistered (now : Nat) (r : Registered) : Except TokenFault Unit :=
  match r.exp with
  | .usable exp =>
    if exp < now then .error .expired
    else
      match r.aud with
      | .usable _ => .error .audience
      | _ => .ok ()
  | _ => .error (.missingClaim "exp")

/-- The claims of a token that may be used at the second `now`. -/
def verifyClaims (secret : String) (now : Nat) (token : String) : Except TokenFault Claims := do
  let part ← signedPart (Utf8.ofText secret) (Utf8.ofText token)
  let bytes ← decodePart part
  let claims ← decodeJson Claims.record.read bytes
  let registered ← decodeJson Registered.record.read bytes
  checkRegistered now registered
  return claims

/-- The identity of a token that may be used at the second `now`. -/
def verify (secret : String) (now : Nat) (token : String) : Except AuthError Identity :=
  match verifyClaims secret now token with
  | .error fault => .error fault.toAuthError
  | .ok claims => claims.identity

/-- Characters as a part of a token. -/
def encodePart (cs : List Char) : List Char :=
  Base64.encode .url (Utf8.encode cs)

/-- Signs claims. -/
def issueClaims (secret : String) (claims : Claims) : String :=
  let signed := encodePart issuedHeader.toList ++ '.' :: encodePart claims.write
  let sign := Base64.encode .url (Digest.hmacSha256 (Utf8.ofText secret) (Utf8.encode signed))
  String.ofList (signed ++ '.' :: sign)

/-- The greatest number of milliseconds that a span of time has, either way. -/
def maxSpan : Nat := 9223372036854775807

/-- Issues a token for an identity at the time `now` that lives for `ttl`, both in nanoseconds, the
time from 1970 on.  Its last second is the one in which it ends.  There is no token if `ttl` is no
span of time or the end is no instant. -/
def issueLasting? (secret : String) (i : Identity) (now ttl : Int) : Option String :=
  let exp := (now + ttl).fdiv 1000000000
  if ttl.natAbs ≤ maxSpan * 1000000 ∧ Calendar.firstSecond ≤ exp ∧ exp ≤ Calendar.lastSecond then
    some (issueClaims secret (.ofIdentity i exp))
  else none

/-- Issues a token for an identity that lives for `ttl` seconds from the second `now`. -/
def issue? (secret : String) (i : Identity) (now : Nat) (ttl : Int) : Option String :=
  issueLasting? secret i (now * 1000000000) (ttl * 1000000000)

end RoomHub.Token
