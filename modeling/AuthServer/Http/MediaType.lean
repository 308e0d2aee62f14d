import AuthServer.Text.Blank

/-!
Media types: a type, a subtype that may end in a suffix after a plus sign, and parameters. All that
is asked of one here is whether it stands for JSON.
-/

namespace AuthServer.MediaType

open Text

def isNameChar (char : Char) : Bool :=
  char.isAlphanum || "!#$%&'*+-.^_`|~".toList.contains char

/-! ## Parameters -/

inductive Place where
  | beforeName
  | inName
  | beforeValue
  | inValue
  | beforeQuoted
  | inQuoted
  | afterQuoted
deriving DecidableEq, Repr

def Place.next (place : Place) (char : Char) : Option Place :=
  let quotable := ' ' ≤ char && char != '\x7f'
  match place with
  | .beforeName =>
      if char == ' ' || char == ';' then some .beforeName
      else if isNameChar char then some .inName
      else none
  | .inName =>
      if isNameChar char then some .inName else if char == '=' then some .beforeValue else none
  | .beforeValue =>
      if char == '"' then some .beforeQuoted else if isNameChar char then some .inValue else none
  | .inValue =>
      if char == ';' then some .beforeName else if isNameChar char then some .inValue else none
  | .beforeQuoted => if quotable then some .inQuoted else none
  | .inQuoted =>
      if char == '"' then some .afterQuoted else if quotable then some .inQuoted else none
  | .afterQuoted =>
      if char == ';' then some .beforeName else if char == ' ' then some .afterQuoted else none

/-- Whether parameters may end here: not within a name or a quoted value. -/
def Place.isEnd : Place → Bool
  | .beforeName | .beforeValue | .inValue | .afterQuoted => true
  | .inName | .beforeQuoted | .inQuoted => false

def areParameters (chars : List Char) : Bool :=
  (chars.foldlM Place.next .beforeName).any Place.isEnd

/-! ## Essence -/

/-- A subtype stands for JSON if what comes before or after its last plus sign does. A plus sign at
the front is part of the name. -/
def isJsonSubtype (subtype : List Char) : Bool :=
  match splitOnce '+' subtype.reverse with
  | some (suffix, stem) =>
      !stem.isEmpty && (stem.reverse == "json".toList || suffix.reverse == "json".toList)
  | none => subtype == "json".toList

def isJson (text : String) : Bool :=
  let (type, rest) := (text.toList.map Char.toLower).span isNameChar
  match rest with
  | '/' :: rest =>
      let (subtype, rest) := rest.span isNameChar
      type == "application".toList && isJsonSubtype subtype &&
        match rest with
        | [] => true
        | ';' :: parameters => areParameters parameters
        | _ => false
  | _ => false

example : isJson "Application/problem+JSON; charset=utf-8" = true := by decide +kernel
example : isJson "application/json," = false := by decide +kernel

end AuthServer.MediaType
