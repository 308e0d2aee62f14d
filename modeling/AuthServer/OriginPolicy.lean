import AuthServer.Text.Blank

/-!
Which origins may read the answers: every origin, or those of a list. The wildcard stands alone.
-/

namespace AuthServer

inductive OriginPolicy where
  | any
  | list (origins : List String)
deriving DecidableEq, Repr

namespace OriginPolicy

open Text

/-- Read a policy. A blank text and a lone asterisk mean every origin; otherwise the pieces between
commas are the origins, blank pieces left out, and an asterisk among them is refused with the
trimmed text. -/
def read (text : String) : Except String OriginPolicy :=
  let trimmed := trimChars text.toList
  if trimmed = [] ∨ trimmed = ['*'] then .ok .any
  else
    let origins := ((splitAll ',' trimmed).map trimChars).filter fun piece => !piece.isEmpty
    if ['*'] ∈ origins then .error (String.ofList trimmed)
    else .ok (.list (origins.map String.ofList))

def isHeaderText (origin : String) : Bool :=
  origin.toList.all fun char => (' ' ≤ char && char != '\x7f') || char == '\t'

end OriginPolicy

end AuthServer
