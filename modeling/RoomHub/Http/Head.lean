import RoomHub.Http.Request
import RoomHub.Http.Response
import RoomHub.Http.Target
import RoomHub.Text.Integer

/-!
# Request heads

A request as it comes over a connection: a line with the method and the target, a line for each
header, and an empty line.  `writeHead` writes one and `Request.ofHead` reads it.  A head that cannot be read
never becomes a request: it is answered at once, and the connection ends.
-/

namespace RoomHub.Http

open Text

/-- Why a head is no request. -/
inductive HeadFault where
  | malformed
  | targetTooLong
  /-- There are too many headers, or a body would be too long. -/
  | tooLarge
  deriving DecidableEq, Repr

/-- The status of the answer to a faulty head. -/
def HeadFault.status : HeadFault → Nat
  | .malformed => 400
  | .targetTooLong => 414
  | .tooLarge => 431

/-- The answer with which a connection ends, when the answer says so. -/
def Response.closing (r : Response) : Response :=
  match r.headers.lookup "connection" with
  | none => { r with headers := r.headers ++ [("connection", "close")] }
  | some _ =>
    { r with
        headers := r.headers.map fun h => if h.1 = "connection" then (h.1, h.2 ++ ", close") else h }

/-- The answer to a faulty head. -/
def HeadFault.response (f : HeadFault) : Response := (Response.empty f.status).closing

/-- The head of a request. -/
def writeHead (method target : String) (headers : Headers) : List Char :=
  s!"{method} {target} HTTP/1.1\r\n".toList ++
    headers.flatMap (fun h => s!"{h.1}: {h.2}\r\n".toList) ++ ['\r', '\n']

/-! ### Lines -/

/-- The greatest number of headers. -/
def maxHeaders : Nat := 100

/-- The greatest length of a target, in bytes. -/
def maxTargetSize : Nat := 65534

/-- A character of a method or of a header's name. -/
def isTokenChar (c : Char) : Bool :=
  c.isAlphanum || c.toNat = 0x60 || "!#$%&'*+-.^_|~".toList.contains c

/-- A character of a target, as far as the end of the target is concerned. -/
def isTargetChar (c : Char) : Bool := '!' ≤ c && c ≠ '\x7f'

/-- What follows a line break. -/
def afterBreak? : List Char → Option (List Char)
  | '\r' :: '\n' :: rest => some rest
  | '\n' :: rest => some rest
  | _ => none

/-- Drops empty lines. -/
def skipEmptyLines : List Char → List Char
  | '\r' :: '\n' :: rest => skipEmptyLines rest
  | '\n' :: rest => skipEmptyLines rest
  | cs => cs

/-- Reads the first line: the method, the target and what follows. -/
def readRequestLine (cs : List Char) : Option (List Char × List Char × List Char) :=
  let method := cs.takeWhile isTokenChar
  match cs.dropWhile isTokenChar with
  | ' ' :: rest =>
    let target := rest.takeWhile isTargetChar
    match rest.dropWhile isTargetChar with
    | ' ' :: 'H' :: 'T' :: 'T' :: 'P' :: '/' :: '1' :: '.' :: '1' :: rest =>
      if method.isEmpty || target.isEmpty then none
      else (afterBreak? rest).map fun rest => (method, target, rest)
    | _ => none
  | _ => none

/-- Reads headers up to the empty line; there is room for `room` of them. -/
def readHeaders (room : Nat) (cs : List Char) : Except HeadFault Headers :=
  match afterBreak? cs, room with
  | some _, _ => .ok []
  | none, 0 => .error .tooLarge
  | none, room + 1 =>
    let name := String.ofList (cs.takeWhile isTokenChar)
    match cs.dropWhile isTokenChar with
    | ':' :: rest =>
      match afterBreak? (rest.dropWhile isValueChar) with
      | some more =>
        if name = "" then .error .malformed
        else
          let value := String.ofList (rest.takeWhile isValueChar)
          (readHeaders room more).map ((lowerAsciiText name, Request.unpadded value) :: ·)
      | none => .error .malformed
    | _ => .error .malformed

/-! ### The length of the body -/

/-- What the headers so far say about the length of a body. -/
structure BodyLength where
  /-- Whether a transfer coding is named, and whether the last one is in chunks. -/
  coded : Bool := false
  chunked : Bool := false
  bytes : Option Nat := none

/-- Whether the last of the transfer codings is in chunks. -/
def endsInChunks (value : String) : Bool :=
  isPlainValue value &&
    match (pieces ',' value.toList).getLast? with
    | some last => sameAscii (Request.unpadded (String.ofList last)) "chunked"
    | none => false

/-- The greatest length of a body. -/
def maxBodySize : Nat := Decimal.twoTo 64 - 3

/-- Reads what a header says about the length.  A length that is given twice has to be the same, and it
does not count after a transfer coding. -/
def BodyLength.read (b : BodyLength) (h : String × String) : Except HeadFault BodyLength :=
  if h.1 = "transfer-encoding" then .ok { b with coded := true, chunked := endsInChunks h.2 }
  else if h.1 = "content-length" ∧ !b.coded then
    match readUnsigned h.2, h.2.toList.all Char.isDigit with
    | .ok n, true =>
      match b.bytes with
      | some m => if m = n then .ok b else .error .malformed
      | none => if maxBodySize < n then .error .tooLarge else .ok { b with bytes := some n }
    | _, _ => .error .malformed
  else .ok b

/-- Whether the headers are sound about the length of the body. -/
def checkBody (headers : Headers) : Except HeadFault Unit :=
  match headers.foldlM BodyLength.read {} with
  | .error fault => .error fault
  | .ok b => if b.coded && !b.chunked then .error .malformed else .ok ()

/-! ### Requests -/

/-- Reads a head.  Asking for an upgrade makes one possible. -/
def Request.ofHead (cs : List Char) : Except HeadFault Request :=
  match readRequestLine (skipEmptyLines cs) with
  | none => .error .malformed
  | some (method, target, rest) =>
    match readHeaders maxHeaders rest with
    | .error fault => .error fault
    | .ok headers =>
      if maxTargetSize < (String.ofList target).utf8ByteSize then .error .targetTooLong
      else
        match Target.resource? target, checkBody headers with
        | none, _ => .error .malformed
        | _, .error fault => .error fault
        | some resource, .ok () =>
          .ok
            { method := String.ofList method
              resource := resource
              headers := headers
              upgradable := (headers.lookup "upgrade").isSome }

end RoomHub.Http
