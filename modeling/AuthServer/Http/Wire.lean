import AuthServer.Http.Message
import AuthServer.Text.Numeral

/-!
Requests and responses as bytes. A message has a head of lines, an empty line, and a body whose
length the head tells; requests follow each other without a gap.
-/

namespace AuthServer.Wire

def splitHead : List UInt8 → Option (List UInt8 × List UInt8)
  | 0x0D :: 0x0A :: 0x0D :: 0x0A :: rest => some ([], rest)
  | byte :: rest => (splitHead rest).map fun (head, body) => (byte :: head, body)
  | [] => none

def lines : List UInt8 → List (List UInt8)
  | [] => [[]]
  | 0x0D :: 0x0A :: rest => [] :: lines rest
  | byte :: rest =>
      match lines rest with
      | [] => [[byte]]
      | line :: later => (byte :: line) :: later

example : lines [0x61, 0x0D, 0x0A, 0x62] = [[0x61], [0x62]] := by decide

def header? (line : List UInt8) : Option (String × List UInt8) :=
  let (name, rest) := line.span (· != 0x3A)
  match rest, headerText? name with
  | _ :: value, some name =>
      if name.isEmpty || name.toList.any Text.isBlank then none
      else some (name, Request.trimValue value)
  | _, _ => none

def requestLine? (line : List UInt8) : Option (String × String) := do
  let text ← headerText? line
  match Text.splitAll ' ' text.toList with
  | [method, target, version] =>
      if method.isEmpty || target.isEmpty || String.ofList (version.take 7) != "HTTP/1." then none
      else some (String.ofList method, String.ofList target)
  | _ => none

def head? (head : List UInt8) : Option Request :=
  match lines head with
  | [] => none
  | first :: others => do
      let (method, target) ← requestLine? first
      let headers ← others.mapM header?
      return { method, target, headers, body := [] }

def bodyLength? (request : Request) : Option Nat :=
  if (request.header? "transfer-encoding").isSome then none
  else
    match request.header? "content-length" with
    | none => some 0
    | some value => (headerText? value).bind fun text => Text.readDigits 0 text.toList

inductive Incoming where
  | incomplete
  | malformed
  | request (request : Request) (rest : List UInt8)

def read (bytes : List UInt8) : Incoming :=
  match splitHead bytes with
  | none => .incomplete
  | some (head, rest) =>
      match head? head with
      | none => .malformed
      | some request =>
          match bodyLength? request with
          | none => .malformed
          | some length =>
              if rest.length < length then .incomplete
              else .request { request with body := rest.take length } (rest.drop length)

def reason : Nat → String
  | 200 => "OK"
  | 201 => "Created"
  | 204 => "No Content"
  | 303 => "See Other"
  | 307 => "Temporary Redirect"
  | 400 => "Bad Request"
  | 401 => "Unauthorized"
  | 403 => "Forbidden"
  | 404 => "Not Found"
  | 405 => "Method Not Allowed"
  | 409 => "Conflict"
  | 500 => "Internal Server Error"
  | 503 => "Service Unavailable"
  | _ => "Other"

def render (response : Response) : List UInt8 :=
  let headers := response.headers.map fun (name, value) => s!"{name}: {value}\r\n"
  Utf8.encode (s!"HTTP/1.1 {response.status} {reason response.status}\r\n" ++
    String.join headers ++ "\r\n" ++ response.body)

end AuthServer.Wire
