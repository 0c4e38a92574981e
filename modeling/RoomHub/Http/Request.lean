import RoomHub.Http.Header
import RoomHub.Http.Target
import RoomHub.Text.Percent

/-!
# HTTP requests

A request has a method, a resource and headers.  The resource is a path and a query.
-/

namespace RoomHub.Http

open Text

/-- A request. -/
structure Request where
  method : String
  /-- The path and the query, as they are written. -/
  resource : List Char
  headers : Headers
  /-- Whether the connection can be used for something else after the answer. -/
  upgradable : Bool
  deriving DecidableEq, Repr

namespace Request

/-- The request with this target and these headers, their names in any case.  A target of an unknown
form is taken for a path. -/
def ofParts (method target : String) (headers : List (String × String)) : Request where
  method := method
  resource := (Target.resource? target.toList).getD (target.toList.takeWhile (· ≠ '#'))
  headers := headers.map fun h => (lowerAsciiText h.1, h.2)
  upgradable := false

/-- The value of the first header of a name. -/
def header? (r : Request) (name : String) : Option String := r.headers.lookup name

/-- The path, as it is written. -/
def path (r : Request) : List Char := r.resource.takeWhile (· ≠ '?')

/-- The query, as it is written; empty if there is none. -/
def query (r : Request) : List Char := (r.resource.dropWhile (· ≠ '?')).drop 1

/-- A blank that does not belong to the value of a header. -/
def isPadding (c : Char) : Bool := c = ' ' || c = '\t'

/-- The value of a header without the padding around it. -/
def unpadded (s : String) : String :=
  String.ofList ((s.toList.dropWhile isPadding).reverse.dropWhile isPadding).reverse

/-- Whether a list of tokens, separated by commas, holds one, in any case. -/
def listsToken (token value : String) : Bool :=
  (pieces ',' value.toList).any fun piece => sameAscii (unpadded (String.ofList piece)) token

/-- Whether the connection is to be kept after the answer: no connection header asks to close it. -/
def keepsConnection (r : Request) : Bool :=
  !r.headers.any fun h => h.1 = "connection" && isPlainValue h.2 && listsToken "close" h.2

end Request
end RoomHub.Http
