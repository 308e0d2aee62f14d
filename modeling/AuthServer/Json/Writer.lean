import AuthServer.Json.String

/-!
Writing compact JSON: objects from their members and lists from their items, without blanks.
-/

namespace AuthServer.Json

def objectText (members : List (String × String)) : String :=
  "\x7b" ++ ",".intercalate (members.map fun (name, value) => stringText name ++ ":" ++ value) ++
    "\x7d"

def listText (items : List String) : String :=
  "[" ++ ",".intercalate items ++ "]"

end AuthServer.Json
