import AuthServer.Endpoint.Probes
import AuthServer.Endpoint.Tokens
import AuthServer.Proofs.Claims.Codec

/-!
What the bodies of tokens and identities say, and which bodies hand out a token. A client that reads
them gets the token or the identity back, and none of the other bodies is one of a token: their
third characters tell them apart.
-/

namespace AuthServer

open Json

/-! ## What a client reads -/

def tokenShape : Shape (Option String) String where
  name := "TokenResponse"
  fields := [.of "token" id (fun value _ => some value) (fun _ => readText "a string")]
  passOver := skipValue
  start := none
  finish draft := required "token" draft

def tokenOfJson (document : List UInt8) : Except Failure String :=
  readDocument tokenShape.read document

/-- What a caller is told about itself. -/
structure Identity where
  userId : String
  name : String
  roles : Roles
  issuer : String
  expiresAt : Int64
deriving DecidableEq

namespace Identity

structure Draft where
  userId : Option String
  name : Option String
  roles : Option Roles
  issuer : Option String
  expiresAt : Option Int64

def shape : Shape Draft Identity where
  name := "UserMeResponse"
  fields := [
    .of "user_id" (·.userId) (fun value draft => { draft with userId := some value })
      (fun _ => readText "a string"),
    .of "name" (·.name) (fun value draft => { draft with name := some value })
      (fun _ => readText "a string"),
    .of "roles" (·.roles) (fun value draft => { draft with roles := some value }) Roles.read,
    .of "issuer" (·.issuer) (fun value draft => { draft with issuer := some value })
      (fun _ => readText "a string"),
    .of "expires_at" (·.expiresAt) (fun value draft => { draft with expiresAt := some value })
      (fun _ => readInt64)]
  passOver := skipValue
  start := ⟨none, none, none, none, none⟩
  finish draft := do
    return {
      userId := ← required "user_id" draft.userId
      name := ← required "name" draft.name
      roles := ← required "roles" draft.roles
      issuer := ← required "issuer" draft.issuer
      expiresAt := ← required "expires_at" draft.expiresAt }

def ofJson (document : List UInt8) : Except Failure Identity :=
  readDocument shape.read document

end Identity

@[simp] theorem tokenOfJson_tokenJson (token : String) :
    tokenOfJson (Utf8.encode (tokenJson token)) = .ok token := by
  have fills : tokenShape.Fills (depthLimit - 1) none [("token", stringText token)]
      (some token) := by
    apply Shape.Fills.required rfl rfl fun rest _ => readText_written "a string" token rest
    exact .done _
  have read := Shape.read_written (by decide : 1 < depthLimit) fills rfl []
  exact readDocument_written (by simpa [tokenJson] using read)

namespace Claims

def identity (claims : Claims) : Identity :=
  ⟨claims.subject, claims.name, claims.roles, claims.issuer, claims.expiresAt⟩

theorem fills_identity (claims : Claims) (depth : Nat) (levels : 1 < depth) :
    Identity.shape.Fills depth Identity.shape.start
      [("user_id", stringText claims.subject),
        ("name", stringText claims.name),
        ("roles", claims.roles.json),
        ("issuer", stringText claims.issuer),
        ("expires_at", toString claims.expiresAt.toInt)]
      ⟨claims.subject, claims.name, claims.roles, claims.issuer, claims.expiresAt⟩ := by
  apply Shape.Fills.required rfl rfl fun rest _ => readText_written "a string" claims.subject rest
  apply Shape.Fills.required rfl rfl fun rest _ => readText_written "a string" claims.name rest
  apply Shape.Fills.required rfl rfl fun rest _ => Roles.read_written claims.roles depth levels rest
  apply Shape.Fills.required rfl rfl fun rest _ => readText_written "a string" claims.issuer rest
  apply Shape.Fills.required rfl rfl fun rest after => readInt64_written claims.expiresAt after
  exact .done _

@[simp] theorem ofJson_selfJson (claims : Claims) :
    Identity.ofJson (Utf8.encode claims.selfJson) = .ok claims.identity := by
  have read := Shape.read_written (by decide : 1 < depthLimit)
    (fills_identity claims (depthLimit - 1) (by decide)) rfl []
  exact readDocument_written (by simpa [selfJson, identity] using read)

end Claims

/-! ## Bodies of tokens -/

theorem tokenJson_injective {token other : String} (same : tokenJson token = tokenJson other) :
    token = other := by
  have read := tokenOfJson_tokenJson token
  rw [same, tokenOfJson_tokenJson] at read
  cases read
  rfl

def IsTokenless (body : String) : Prop :=
  ∀ token, body ≠ tokenJson token

theorem toList_objectText {name value : String} {members : List (String × String)} {first : Char}
    {chars : List Char} (named : (stringText name).toList = '"' :: first :: chars) :
    (objectText ((name, value) :: members)).toList[2]? = some first := by
  cases members with
  | nil => simp [objectText, named]
  | cons member members => simp [objectText, String.intercalate_cons_cons, named]

theorem isTokenless_of_third {body : String} (other : body.toList[2]? ≠ some 't') :
    IsTokenless body := by
  rintro token rfl
  exact other (toList_objectText rfl)

theorem isTokenless_objectText {name value : String} {members : List (String × String)}
    {first : Char} {chars : List Char}
    (named : (stringText name).toList = '"' :: first :: chars) (other : first ≠ 't') :
    IsTokenless (objectText ((name, value) :: members)) := by
  apply isTokenless_of_third
  rw [toList_objectText named]
  simpa using other

theorem isTokenless_empty : IsTokenless "" :=
  isTokenless_of_third (by decide)

theorem isTokenless_problem (problem : Problem) : IsTokenless problem.response.body :=
  isTokenless_objectText rfl (by decide)

theorem User.isTokenless_json (user : User) : IsTokenless user.json :=
  isTokenless_objectText rfl (by decide)

theorem Claims.isTokenless_json (claims : Claims) : IsTokenless claims.json :=
  isTokenless_objectText rfl (by decide)

theorem Claims.isTokenless_selfJson (claims : Claims) : IsTokenless claims.selfJson :=
  isTokenless_objectText rfl (by decide)

theorem isTokenless_illFormedParam (param : String) :
    IsTokenless s!"Invalid URL: {Exchange.illFormedParam param}" := by
  change IsTokenless ("Invalid URL: " ++ _)
  exact isTokenless_of_third (by simp)

/-- The exposition starts with the help on the first series. -/
theorem Metrics.isTokenless_exposition (metrics : Metrics) : IsTokenless metrics.exposition := by
  have starts : ∃ rest, metrics.exposition = "# HELP " ++ rest := by
    apply Exists.intro
    simp only [exposition, series, List.map_cons, String.join, List.foldl_cons, Series.lines,
      String.intercalate_cons_cons, String.empty_append, String.append_assoc]
    rfl
  rcases starts with ⟨rest, starts⟩
  rw [starts]
  exact isTokenless_of_third (by simp)

end AuthServer
