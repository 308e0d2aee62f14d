import AuthServer.Endpoint.Tokens
import AuthServer.Proofs.Claims.Codec
import AuthServer.Proofs.Endpoint.Validation
import AuthServer.Proofs.Json.Part

/-!
Decisions that are left to the authorization endpoint. Claims that were written into a body letter
by letter are read back whatever surrounds them, and the rule is then applied to them as a guard
would apply it.
-/

namespace AuthServer

open Json

/-! ## Documents within bodies -/

namespace Json

/-- Read a value that stands there letter by letter, and that nests to some levels. -/
def readVerbatim (text : String) (levels depth : Nat) : Reader Unit := fun bytes =>
  if depth ≤ levels then failAt .tooDeep bytes
  else
    match (Utf8.encode text).isPrefixOf? (skipBlanks bytes) with
    | some rest => .ok ((), rest)
    | none => failAt .expectedValue bytes

variable {text : String} {levels depth : Nat} {bytes rest : List UInt8}

theorem of_readVerbatim (done : readVerbatim text levels depth bytes = .ok ((), rest)) :
    levels < depth ∧ skipBlanks bytes = Utf8.encode text ++ rest := by
  unfold readVerbatim at done
  split at done
  · cases done
  · rename_i room
    split at done
    · rename_i after found
      cases done
      exact ⟨Nat.lt_of_not_le room, (List.isPrefixOf?_eq_some_iff_append_eq.mp found).symm⟩
    · cases done

theorem readVerbatim_written (starts : StartsValue text) (room : levels < depth)
    (rest : List UInt8) :
    readVerbatim text levels depth (Utf8.encode text ++ rest) = .ok ((), rest) := by
  rcases starts with ⟨byte, inner, written, notBlank, -⟩
  have first : skipBlanks (Utf8.encode text ++ rest) = Utf8.encode text ++ rest := by
    rw [written, List.cons_append, skipBlanks_of_not_blank notBlank]
  have found : (Utf8.encode text).isPrefixOf? (Utf8.encode text ++ rest) = some rest :=
    List.isPrefixOf?_eq_some_iff_append_eq.mpr rfl
  rw [readVerbatim, if_neg (Nat.not_le_of_lt room), first, found]

theorem Shape.read_skipBlanks {δ α : Type} (shape : Shape δ α) (depth : Nat)
    (bytes : List UInt8) : shape.read depth (skipBlanks bytes) = shape.read depth bytes := by
  rw [Shape.read, Shape.read, skipBlanks_skipBlanks]

end Json

structure Delegation where
  owner : String
  rule : String

namespace Delegation

structure Draft where
  owner : Option String
  rule : Option String
  claims : Option Unit

/-- How a body is read that has a document for the claims, letter by letter. -/
def shape (document : String) : Shape Draft Delegation where
  name := "AuthorizeRequest"
  fields := [
    (RecordField.of "userID" (·.owner) (fun value draft => { draft with owner := some value })
      (fun _ => readText "a string")).optional,
    .of "rule" (·.rule) (fun value draft => { draft with rule := some value })
      (fun _ => readText "a string"),
    .of "claims" (·.claims) (fun value draft => { draft with claims := some value })
      (readVerbatim document 2)]
  passOver := skipValue
  start := ⟨none, none, none⟩
  finish draft := do
    let rule ← required "rule" draft.rule
    let () ← required "claims" draft.claims
    return { owner := draft.owner.getD "", rule }

def about (delegation : Delegation) (claims : Claims) : AuthorizeRequest :=
  ⟨delegation.owner, delegation.rule, claims⟩

/-! ## Reading -/

section Reading

variable (claims : Claims)

def Draft.withClaims (draft : Draft) : AuthorizeRequest.Draft :=
  ⟨draft.owner, draft.rule, draft.claims.map fun _ => claims⟩

variable {claims} in
theorem read_of_readVerbatim {depth : Nat} {bytes rest : List UInt8} {found : Unit}
    (done : readVerbatim claims.json 2 depth bytes = .ok (found, rest)) :
    Claims.shape.read depth bytes = .ok (claims, rest) := by
  -- Claims nest to two levels: an object, and the list of roles in it.
  rcases of_readVerbatim done with ⟨room, first⟩
  rw [← Shape.read_skipBlanks, first]
  exact claims.read_written depth room rest

theorem inStep : Shape.InStep (Draft.withClaims claims) (shape claims.json).fields
    AuthorizeRequest.shape.fields := by
  refine .cons ⟨rfl, ?_⟩ (.cons ⟨rfl, ?_⟩ (.cons ⟨rfl, ?_⟩ .nil))
  · exact .optional (Shape.leadsTo_of_same (fun _ => rfl) fun _ _ => rfl)
  · exact Shape.leadsTo_of_same (fun _ => rfl) fun _ _ => rfl
  · apply Shape.leadsTo_of (fun _ => claims) (fun _ _ _ _ => read_of_readVerbatim)
    · rintro ⟨owner, rule, _ | found⟩ <;> rfl
    · exact fun _ _ => rfl

theorem isPart : AuthorizeRequest.shape.IsPart (shape claims.json) (Draft.withClaims claims) where
  start := rfl
  passOver := rfl
  unknown name unknown := by
    simp only [shape, List.find?_eq_none, List.mem_cons, forall_eq_or_imp] at unknown
    simp only [AuthorizeRequest.shape, List.find?_eq_none, List.mem_cons, forall_eq_or_imp]
    exact ⟨unknown.1, unknown.2.1, unknown.2.2.1, by simp⟩
  known field member := by
    rcases List.forall₂_cons.mp (inStep claims) with ⟨owner, others⟩
    rcases List.forall₂_cons.mp others with ⟨rule, others⟩
    rcases List.forall₂_cons.mp others with ⟨document, -⟩
    simp only [shape, List.mem_cons, List.not_mem_nil, or_false] at member
    rcases member with rfl | rfl | rfl
    · exact .shared _ rfl owner.2
    · exact .shared _ rfl rule.2
    · exact .shared _ rfl document.2

theorem finish_withClaims (draft : Draft) (delegation : Delegation)
    (complete : (shape claims.json).finish draft = .ok delegation) :
    AuthorizeRequest.shape.finish (draft.withClaims claims) = .ok (delegation.about claims) := by
  rcases draft with ⟨owner, _ | rule, _ | found⟩
  all_goals cases complete
  rfl

variable {claims} in
/-- Wherever the document of some claims is sent for the claims, these are the claims that are
read. -/
theorem read_about {request : Request} {delegation : Delegation}
    (posed : JsonBody.read (shape claims.json).read request = .ok delegation) :
    JsonBody.read AuthorizeRequest.shape.read request = .ok (delegation.about claims) := by
  rcases JsonBody.read_eq_ok_iff.mp posed with ⟨declared, short, document⟩
  have reads : ∀ depth bytes value rest, (shape claims.json).read depth bytes = .ok (value, rest) →
      AuthorizeRequest.shape.read depth bytes = .ok (value.about claims, rest) :=
    fun _ _ _ _ => (isPart claims).read (inStep claims) (finish_withClaims claims)
  have whole := readDocument_of reads document
  exact JsonBody.read_eq_ok_iff.mpr ⟨declared, short, whole⟩

end Reading

/-! ## Writing -/

def json (delegation : Delegation) (document : String) : String :=
  objectText [
    ("userID", stringText delegation.owner),
    ("rule", stringText delegation.rule),
    ("claims", document)]

theorem read_json {request : Request} {delegation : Delegation} {document : String}
    (starts : StartsValue document) (declared : JsonBody.isDeclared request)
    (body : request.body = Utf8.encode (delegation.json document))
    (short : request.body.length ≤ JsonBody.lengthLimit) :
    JsonBody.read (shape document).read request = .ok delegation := by
  have fills : (shape document).Fills (depthLimit - 1) (shape document).start
      [("userID", stringText delegation.owner), ("rule", stringText delegation.rule),
        ("claims", document)] ⟨delegation.owner, delegation.rule, some ()⟩ := by
    apply Shape.Fills.optional rfl rfl fun rest _ =>
      readText_written "a string" delegation.owner rest
    apply Shape.Fills.required rfl rfl fun rest _ =>
      readText_written "a string" delegation.rule rest
    apply Shape.Fills.required rfl rfl fun rest _ =>
      readVerbatim_written starts (by decide) rest
    exact .done _
  have read : readDocument (shape document).read (Utf8.encode (delegation.json document)) =
      .ok delegation :=
    readDocument_written (by simpa [json] using Shape.read_written (by decide) fills rfl [])
  rw [← body] at read
  exact JsonBody.read_eq_ok_iff.mpr ⟨declared, short, read⟩

end Delegation

/-! ## Deciding -/

theorem Claims.hasRole_admin (claims : Claims) : claims.hasRole .admin = claims.isAdmin := by
  rcases claims with ⟨subject, issuer, issuedAt, expiresAt, ⟨_ | _, _ | _⟩, name⟩ <;> rfl

namespace AuthorizeRequest

variable {owner rule : String} (claims : Claims)

theorem decide_owned (named : owner ≠ "") :
    decide ⟨owner, "user-only", claims⟩ =
      if claims.ownsOrAdmin owner then .ok ()
      else .error (.ofDenied ⟨.userOnly, claims.subject⟩) := by
  have some : owner.isEmpty = false := by simpa using named
  simp only [decide, Rule.ofText?, some, Bool.false_eq_true, if_false, Rule.check]
  split <;> rfl

theorem decide_unowned : decide ⟨"", "user-only", claims⟩ = .ok () := rfl

theorem decide_adminOnly (owner : String) :
    decide ⟨owner, "admin-only", claims⟩ =
      if claims.isAdmin then .ok () else .error (.ofDenied ⟨.adminOnly, claims.subject⟩) := by
  simp only [decide, Rule.ofText?, Rule.check, claims.hasRole_admin]
  split <;> rfl

theorem decide_unknown (owner : String) (notUser : rule ≠ "user-only")
    (notAdmin : rule ≠ "admin-only") :
    decide ⟨owner, rule, claims⟩ = .error (.ofField "rule" (Rule.unknownMessage rule)) := by
  have unknown : Rule.ofText? rule = none := by
    unfold Rule.ofText?
    split
    · exact absurd rfl notAdmin
    · exact absurd rfl notUser
    · rfl
  simp only [decide, unknown]

end AuthorizeRequest

end AuthServer
