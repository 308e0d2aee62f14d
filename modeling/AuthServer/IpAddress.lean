import AuthServer.Text.Blank
import AuthServer.Text.Numeral

/-!
Network addresses of both families: reading the written form and printing the shortest one.
-/

namespace AuthServer

structure Octets where
  first : UInt8
  second : UInt8
  third : UInt8
  fourth : UInt8
deriving DecidableEq, Repr

inductive IpAddress where
  | v4 (octets : Octets)
  | v6 (groups : List UInt16) (eight : groups.length = 8)
deriving DecidableEq, Repr

namespace Octets

open Text (splitAll)

/-- An octet has one to three digits, no leading zero and a value below 256. -/
def readOne (chars : List Char) : Option UInt8 :=
  match chars with
  | [] => none
  | '0' :: _ :: _ => none
  | _ =>
      if chars.length ≤ 3 then ((Text.readDigits 0 chars).filter (· < 256)).map UInt8.ofNat
      else none

def read (chars : List Char) : Option Octets :=
  match (splitAll '.' chars).mapM readOne with
  | some [first, second, third, fourth] => some ⟨first, second, third, fourth⟩
  | _ => none

def text (octets : Octets) : String :=
  ".".intercalate ([octets.first, octets.second, octets.third, octets.fourth].map
    fun octet => toString octet.toNat)

def ofGroups (high low : UInt16) : Octets where
  first := .ofNat (high.toNat / 256)
  second := .ofNat (high.toNat % 256)
  third := .ofNat (low.toNat / 256)
  fourth := .ofNat (low.toNat % 256)

def groups (octets : Octets) : List UInt16 := [
  .ofNat (256 * octets.first.toNat + octets.second.toNat),
  .ofNat (256 * octets.third.toNat + octets.fourth.toNat)]

end Octets

namespace IpAddress

open Text (splitAll)

/-! ## Reading -/

def readGroup (chars : List Char) : Option UInt16 :=
  if chars.isEmpty || 4 < chars.length then none
  else (Text.readHexDigits 0 chars).map UInt16.ofNat

/-- Groups between colons, where four octets may stand for the last two groups. -/
def readGroups : List (List Char) → Option (List UInt16)
  | [] => some []
  | [last] =>
      match Octets.read last with
      | some octets => some octets.groups
      | none => (readGroup last).map ([·])
  | piece :: rest => do return (← readGroup piece) :: (← readGroups rest)

/-- The groups before a double colon, where octets cannot stand. -/
def readFront (chars : List Char) : Option (List UInt16) :=
  if chars.isEmpty then some [] else (splitAll ':' chars).mapM readGroup

/-- The groups after a double colon, or all groups if there is none. -/
def readBack (chars : List Char) : Option (List UInt16) :=
  if chars.isEmpty then some [] else readGroups (splitAll ':' chars)

def splitGap : List Char → Option (List Char × List Char)
  | ':' :: ':' :: rest => some ([], rest)
  | char :: rest => (splitGap rest).map fun (before, after) => (char :: before, after)
  | [] => none

/-- Eight groups, or fewer with a double colon for at least one group of zeros. -/
def readV6 (chars : List Char) : Option IpAddress :=
  match splitGap chars with
  | none => do
      let groups ← readBack chars
      if eight : groups.length = 8 then some (.v6 groups eight) else none
  | some (before, after) => do
      let front ← readFront before
      let back ← readBack after
      if few : front.length + back.length ≤ 7 then
        let zeros := List.replicate (8 - front.length - back.length) 0
        some (.v6 (front ++ zeros ++ back) (by simp [zeros]; omega))
      else none

def read (text : String) : Option IpAddress :=
  match Octets.read text.toList with
  | some octets => some (.v4 octets)
  | none => readV6 text.toList

/-! ## Writing -/

def leadingZeros (groups : List UInt16) : Nat :=
  (groups.takeWhile (· == 0)).length

/-- Where the first of the longest runs of zeros starts, and its length. -/
def longestGap (groups : List UInt16) : Nat × Nat :=
  (List.range groups.length).foldl
    (fun best start =>
      let length := leadingZeros (groups.drop start)
      if best.2 < length then (start, length) else best)
    (0, 0)

def groupsText (groups : List UInt16) : String :=
  ":".intercalate (groups.map fun group => Text.hexText group.toNat)

/-- The longest run of two or more zero groups becomes a double colon, and the last two groups of a
mapped address are written as octets. -/
def v6Text : List UInt16 → String
  | [0, 0, 0, 0, 0, 0xFFFF, high, low] => "::ffff:" ++ (Octets.ofGroups high low).text
  | groups =>
      let (start, length) := longestGap groups
      if 1 < length then
        groupsText (groups.take start) ++ "::" ++ groupsText (groups.drop (start + length))
      else groupsText groups

def text : IpAddress → String
  | .v4 octets => octets.text
  | .v6 groups _ => v6Text groups

def withPort (address : IpAddress) (port : Nat) : String :=
  match address with
  | .v4 _ => s!"{address.text}:{port}"
  | .v6 .. => s!"[{address.text}]:{port}"

end IpAddress

end AuthServer
