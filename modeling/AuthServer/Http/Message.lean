import AuthServer.Problem
import AuthServer.Text.Blank
import AuthServer.Text.Utf8

/-!
Requests and responses. Header names are compared without regard to case; a header value is a
sequence of bytes in a request and a text in a response.
-/

namespace AuthServer

structure Request where
  method : String
  /-- What the request line asks for: a path with its query, or a whole address. -/
  target : String
  headers : List (String × List UInt8)
  body : List UInt8
deriving DecidableEq, Repr

namespace Request

def header? (request : Request) (name : String) : Option (List UInt8) :=
  (request.headers.find? fun header => Text.lowerAscii header.1 == name).map Prod.snd

def trimValue (value : List UInt8) : List UInt8 :=
  let isSpace (byte : UInt8) : Bool := byte == 0x20 || byte == 0x09
  ((value.dropWhile isSpace).reverse.dropWhile isSpace).reverse

/-- A request as it arrives over a network, where the spaces around a header value do not count. -/
def trimmed (request : Request) : Request :=
  { request with headers := request.headers.map fun (name, value) => (name, trimValue value) }

end Request

def headerText? (value : List UInt8) : Option String :=
  if value.all fun byte => (0x20 ≤ byte && byte ≤ 0x7E) || byte == 0x09 then
    some (String.ofList (value.map fun byte => Char.ofNat byte.toNat))
  else none

structure Response where
  status : Nat
  headers : List (String × String)
  body : String
  record : Option ProblemRecord
deriving DecidableEq, Repr

namespace Response

def ofStatus (status : Nat) : Response := ⟨status, [], "", none⟩

def ofBody (status : Nat) (type body : String) : Response :=
  ⟨status, [("content-type", type)], body, none⟩

def ofJson (status : Nat) (document : String) : Response :=
  ofBody status "application/json" document

def ofText (status : Nat) (text : String) : Response :=
  ofBody status "text/plain; charset=utf-8" text

def setHeader (name value : String) (response : Response) : Response :=
  { response with headers := response.headers.filter (·.1 != name) ++ [(name, value)] }

def isServerError (response : Response) : Bool :=
  500 ≤ response.status && response.status < 600

end Response

def Problem.response (problem : Problem) : Response :=
  { Response.ofJson problem.status problem.envelope.json with record := some problem.record }

end AuthServer
