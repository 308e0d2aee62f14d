import AuthServer.Text.Blank

/-!
E-mail addresses: a loose check of their form, and the spelling under which an account is stored.
-/

namespace AuthServer.Email

open Text

/-- Whether an address has a local part, one at sign and a domain with a dot inside it. -/
def isValid (address : String) : Bool :=
  let chars := address.toList
  if chars.any isBlank then false
  else
    match splitOnce '@' chars with
    | none => false
    | some (localPart, domain) =>
        !localPart.isEmpty && !domain.contains '@' &&
          (match splitOnce '.' domain with
            | none => false
            | some (host, top) => !host.isEmpty && !top.isEmpty) &&
          domain.getLast? != some '.'

/-- Two spellings name the same account when they agree after trimming and ASCII folding. -/
def normalize (address : String) : String :=
  lowerAscii (trim address)

end AuthServer.Email
