import AuthServer.Http.MediaType
import AuthServer.Http.Message
import AuthServer.Json.Typed

/-!
JSON bodies. A body must be declared as JSON, must not be too long, and must fit the type that is
read from it; everything that is wrong with one is a problem with the field "body".
-/

namespace AuthServer.JsonBody

open Json

def lengthLimit : Nat := 2097152

def isDeclared (request : Request) : Bool :=
  ((request.header? "content-type").bind headerText?).any MediaType.isJson

/-- What is said of a document that cannot be read: one that is JSON has the wrong type. -/
def failureMessage (document : List UInt8) (failure : Failure) : String :=
  let complaint :=
    match failure.cause.category with
    | .data => "Failed to deserialize the JSON body into the target type: "
    | .syntactic | .ended => "Failed to parse the request body as JSON: "
  complaint ++ failure.locatedMessage document

def read {α : Type} (reader : (depth : Nat) → Reader α) (request : Request) : Except Problem α :=
  let refuse (reason : String) : Except Problem α := .error (.ofField "body" reason)
  if !isDeclared request then refuse "Expected request with `Content-Type: application/json`"
  else if lengthLimit < request.body.length then
    refuse "Failed to buffer the request body: length limit exceeded"
  else
    match readDocument reader request.body with
    | .ok value => .ok value
    | .error failure => refuse (failureMessage request.body failure)

end AuthServer.JsonBody
