import AuthServer.Text.Blank
import AuthServer.Text.Numeral
import AuthServer.Text.Utf8

/-!
Request targets: the path in a target, its segments, and the text that a segment stands for.
-/

namespace AuthServer.Target

open Text

def dropQuery (chars : List Char) : List Char :=
  chars.takeWhile fun char => char != '?' && char != '#'

def afterScheme : List Char → Option (List Char)
  | ':' :: '/' :: '/' :: rest => some rest
  | _ :: rest => afterScheme rest
  | [] => none

/-- The path of a target. A whole address without a path has the path of the root; an asterisk is a
path of its own, and a lone host has none. -/
def path (target : String) : String :=
  let chars := target.toList
  match chars with
  | '/' :: _ => String.ofList (dropQuery chars)
  | ['*'] => "*"
  | _ =>
      match afterScheme chars with
      | none => ""
      | some rest =>
          let path := (dropQuery rest).dropWhile (· != '/')
          if path.isEmpty then "/" else String.ofList path

/-- The segments of a path after its first slash; a path that does not start with one has none. -/
def segments? (path : String) : Option (List String) :=
  match path.toList with
  | '/' :: rest => some ((splitAll '/' rest).map String.ofList)
  | _ => none

def hexByte? (high low : UInt8) : Option UInt8 := do
  let high ← hexValue? (Char.ofNat high.toNat)
  let low ← hexValue? (Char.ofNat low.toNat)
  return UInt8.ofNat (high * 16 + low)

/-- Replace every percent sign with two hexadecimal digits by the byte they stand for. Any other
percent sign stays. -/
def percentDecodeBytes : List UInt8 → List UInt8
  | 0x25 :: high :: low :: rest =>
      match hexByte? high low with
      | some byte => byte :: percentDecodeBytes rest
      | none => 0x25 :: percentDecodeBytes (high :: low :: rest)
  | byte :: rest => byte :: percentDecodeBytes rest
  | [] => []
termination_by bytes => bytes.length

def percentDecode? (segment : String) : Option String :=
  Utf8.decode (percentDecodeBytes (Utf8.encode segment))

example : path "/users/me?x=1" = "/users/me" := by decide +kernel
example : path "http://host:80?x" = "/" := by decide +kernel
example : percentDecodeBytes [0x25, 0x34, 0x31, 0x25, 0x34] = [0x41, 0x25, 0x34] := by
  decide +kernel

end AuthServer.Target
