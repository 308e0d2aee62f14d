import AuthServer.Json.Value

/-!
Token headers: the algorithm, the key id, and other fields that must have their types. A header that
does not fit is of no further interest, so that reading one gives no reason for a failure.
-/

namespace AuthServer

open Json

inductive Algorithm where
  | hs256
  | hs384
  | hs512
  | es256
  | es384
  | rs256
  | rs384
  | rs512
  | ps256
  | ps384
  | ps512
  | edDsa
deriving DecidableEq, Repr

namespace Algorithm

def all : List Algorithm :=
  [.hs256, .hs384, .hs512, .es256, .es384, .rs256, .rs384, .rs512, .ps256, .ps384, .ps512, .edDsa]

def name : Algorithm → String
  | .hs256 => "HS256"
  | .hs384 => "HS384"
  | .hs512 => "HS512"
  | .es256 => "ES256"
  | .es384 => "ES384"
  | .rs256 => "RS256"
  | .rs384 => "RS384"
  | .rs512 => "RS512"
  | .ps256 => "PS256"
  | .ps384 => "PS384"
  | .ps512 => "PS512"
  | .edDsa => "EdDSA"

def choice : Choice Algorithm where
  ofName? text := all.find? (·.name == text)
  nameOf := name
  names := ", ".intercalate (all.map fun algorithm => s!"`{algorithm.name}`")

end Algorithm

structure TokenHeader where
  algorithm : Algorithm
  kid : Option String
deriving DecidableEq, Repr

/-! ## Embedded keys -/

namespace EmbeddedKey

def isText : Value → Bool
  | .string _ => true
  | _ => false

def isTextOrNull : Value → Bool
  | .string _ | .null => true
  | _ => false

def isTextsOrNull : Value → Bool
  | .list items => items.all isText
  | .null => true
  | _ => false

def isOneOf (texts : List String) : Value → Bool
  | .string text => texts.contains text
  | _ => false

def fits (members : List (String × Value)) (name : String) (check : Value → Bool) : Bool :=
  match members.filter (·.1 == name) with
  | [] => true
  | [(_, value)] => check value
  | _ => false

def has (members : List (String × Value)) (name : String) (check : Value → Bool) : Bool :=
  members.any (·.1 == name) && fits members name check

def curves : List String := ["P-256", "P-384", "P-521", "Ed25519"]

/-- Whether the members describe a key of one of the four types. -/
def hasParameters (members : List (String × Value)) : Bool :=
  (has members "kty" (isOneOf ["EC"]) && has members "crv" (isOneOf curves) &&
      has members "x" isText && has members "y" isText) ||
    (has members "kty" (isOneOf ["RSA"]) && has members "n" isText && has members "e" isText) ||
    (has members "kty" (isOneOf ["oct"]) && has members "k" isText) ||
    (has members "kty" (isOneOf ["OKP"]) && has members "crv" (isOneOf curves) &&
      has members "x" isText)

def isValid : Value → Bool
  | .object members =>
      ["use", "alg", "kid", "x5u", "x5t", "x5t#S256"].all (fits members · isTextOrNull) &&
        ["key_ops", "x5c"].all (fits members · isTextsOrNull) && hasParameters members
  | _ => false

def read (depth : Nat) : Reader Unit := fun bytes =>
  match Value.read depth bytes with
  | .error failure => .error failure
  | .ok (value, rest) =>
      if isValid value then .ok ((), rest) else failBefore (.refused "no key") rest

end EmbeddedKey

namespace TokenHeader

/-- A header of which some fields were read. Of the fields that are only checked, the names are
kept. -/
structure Draft where
  algorithm : Option Algorithm
  kid : Option (Option String)
  checked : List String

def checkedField {α : Type} (read : (depth : Nat) → Reader α) (name : String) :
    RecordField Draft where
  name := name
  mayMiss := true
  isRead draft := draft.checked.contains name
  read depth bytes :=
    match readOptional (read depth) bytes with
    | .error failure => .error failure
    | .ok (_, rest) => .ok (fun draft => { draft with checked := name :: draft.checked }, rest)

/-- Pass over a text, the only type that a field of another name may have. -/
def passOverText (bytes : List UInt8) : Except Failure (List UInt8) :=
  (readText "a string" bytes).map Prod.snd

def shape : Shape Draft TokenHeader where
  name := "Header"
  fields := [
    .of "alg" (·.algorithm) (fun value draft => { draft with algorithm := some value })
      Algorithm.choice.read,
    .of "kid" (·.kid) (fun value draft => { draft with kid := some value })
      (fun _ => readOptional (readText "a string"))] ++
    (["typ", "cty", "jku", "x5u", "x5t", "x5t#S256", "url", "nonce", "enc", "zip"].map
      (checkedField fun _ => readText "a string")) ++
    (["x5c", "crit"].map (checkedField (readList fun _ => readText "a string"))) ++
    [checkedField EmbeddedKey.read "jwk"]
  passOver := passOverText
  start := ⟨none, none, []⟩
  finish draft := do
    return { algorithm := ← required "alg" draft.algorithm, kid := draft.kid.getD none }

def read (depth : Nat) : Reader TokenHeader := fun bytes =>
  match skipBlanks bytes with
  | 0x7B :: rest => enter depth (0x7B :: rest) fun depth => shape.readObject depth rest
  | rest => failAt .expectedValue rest

def ofJson (document : List UInt8) : Except Failure TokenHeader :=
  readDocument read document

def json (kid : String) : String :=
  objectText [("typ", stringText "JWT"), ("alg", stringText "RS256"), ("kid", stringText kid)]

end TokenHeader

end AuthServer
