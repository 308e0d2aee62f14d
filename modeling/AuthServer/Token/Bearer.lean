import AuthServer.Text.Blank
import AuthServer.Token.Error

/-!
The authorization header: the word "bearer" in any case, a space, and the token.
-/

namespace AuthServer.Bearer

open Text

/-- The token of an authorization header. Blanks around the header and around the token do not
count; an absent or blank header is missing, and every other text that does not fit is malformed. -/
def token (header : Option String) : Except AuthError String :=
  match header.map fun text => trimChars text.toList with
  | none | some [] => .error .missingToken
  | some trimmed =>
      match splitOnce ' ' trimmed with
      | none => .error .malformedToken
      | some (scheme, rest) =>
          let token := trimChars rest
          if scheme.map Char.toLower = "bearer".toList ∧ token ≠ [] then
            .ok (String.ofList token)
          else .error .malformedToken

end AuthServer.Bearer
