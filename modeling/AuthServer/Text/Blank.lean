/-!
Blank characters and the trimming of text. Blank means the Unicode property White_Space, which has
members outside ASCII; case folding, by contrast, is ASCII only.
-/

namespace AuthServer.Text

/-- The characters with the Unicode property White_Space. -/
def isBlank (char : Char) : Bool :=
  let code := char.toNat
  (0x09 ≤ code && code ≤ 0x0D) || code == 0x20 || code == 0x85 || code == 0xA0 ||
    code == 0x1680 || (0x2000 ≤ code && code ≤ 0x200A) || code == 0x2028 || code == 0x2029 ||
    code == 0x202F || code == 0x205F || code == 0x3000

example : isBlank '\u200b' = false := rfl

example : isBlank '\u0085' = true := rfl

def trimFront (chars : List Char) : List Char :=
  chars.dropWhile isBlank

def trimBack (chars : List Char) : List Char :=
  (chars.reverse.dropWhile isBlank).reverse

def trimChars (chars : List Char) : List Char :=
  trimBack (trimFront chars)

def trim (text : String) : String :=
  String.ofList (trimChars text.toList)

def isBlankText (text : String) : Bool :=
  text.toList.all isBlank

def lowerAscii (text : String) : String :=
  String.ofList (text.toList.map Char.toLower)

/-- The characters before the first `mark` and those after it, if it occurs. -/
def splitOnce (mark : Char) : List Char → Option (List Char × List Char)
  | [] => none
  | char :: rest =>
      if char = mark then some ([], rest)
      else (splitOnce mark rest).map fun (before, after) => (char :: before, after)

example : splitOnce '@' ['a', '@', 'b', '@'] = some (['a'], ['b', '@']) := rfl

/-- The pieces between the occurrences of `mark`; a text without it is one piece. -/
def splitAll (mark : Char) : List Char → List (List Char)
  | [] => [[]]
  | char :: rest =>
      if char = mark then [] :: splitAll mark rest
      else
        match splitAll mark rest with
        | [] => [[char]]
        | piece :: pieces => (char :: piece) :: pieces

example : splitAll ',' ['a', ',', ',', 'b'] = [['a'], [], ['b']] := rfl

end AuthServer.Text
