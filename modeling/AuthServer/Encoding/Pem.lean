import AuthServer.Encoding.Base64
import AuthServer.Text.Blank
import AuthServer.Text.Utf8

/-!
Armoured keys: a block of base 64 between a BEGIN line and an END line with the same label. Header
lines may come before the data, and anything before and after the block.
-/

namespace AuthServer

structure Pem where
  label : String
  contents : List UInt8
deriving DecidableEq, Repr

namespace Pem

/-- The bytes before the first place where `marker` is found, and those after it. A search that is
disappointed goes on after the disappointing byte. -/
def splitAt (marker : List UInt8) (bytes : List UInt8) : Option (List UInt8 × List UInt8) :=
  go marker [] bytes
where
  /-- Search with `wanted` still to come and the bytes before it in reverse. -/
  go (wanted reversed : List UInt8) : List UInt8 → Option (List UInt8 × List UInt8)
    | [] => none
    | byte :: rest =>
        match wanted with
        | [] => none
        | [last] =>
            if byte = last then
              some (((byte :: reversed).drop marker.length).reverse, rest)
            else go marker (byte :: reversed) rest
        | next :: later =>
            if byte = next then go later (byte :: reversed) rest
            else go marker (byte :: reversed) rest

def marker (text : String) : List UInt8 := Utf8.encode text

def dropBlanks (bytes : List UInt8) : List UInt8 :=
  bytes.dropWhile fun byte => byte == 0x20 || byte == 0x09 || byte == 0x0A || byte == 0x0D

/-- Split a block into header lines and data: the first empty line ends the headers. -/
def splitHeaders (body : List UInt8) : List UInt8 × List UInt8 :=
  match splitAt [0x0A, 0x0A] body with
  | some parts => parts
  | none =>
      match splitAt [0x0D, 0x0A, 0x0D, 0x0A] body with
      | some parts => parts
      | none => ([], body)

/-- The lines of a text; a line end at its end starts no further line. -/
def lines (text : List Char) : List (List Char) :=
  match (Text.splitAll '\n' text).reverse with
  | [] :: others => others.reverse
  | all => all.reverse

def headersAreValid (text : String) : Bool :=
  (lines text.toList).all (·.contains ':')

def read (bytes : List UInt8) : Option Pem := do
  let (_, rest) ← splitAt (marker "-----BEGIN ") bytes
  let (beginLabel, rest) ← splitAt (marker "-----") rest
  let (body, rest) ← splitAt (marker "-----END ") (dropBlanks rest)
  let (endLabel, _) ← splitAt (marker "-----") rest
  let (headers, data) := splitHeaders body
  let label ← Utf8.decode beginLabel
  guard (!label.isEmpty && beginLabel == endLabel)
  let data ← Utf8.decode data
  let headers ← Utf8.decode headers
  guard (headersAreValid headers)
  let contents ← Base64.decodePadded .standard (data.toList.filter fun char => !Text.isBlank char)
  return { label, contents }

end Pem

end AuthServer
