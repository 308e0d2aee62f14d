import AuthServer.Proofs.Claims.Codec
import AuthServer.Proofs.Json.Part
import AuthServer.Token.Codec

/-!
The lifetime of a token is read from its payload before the signature is looked at, and the claims
after it, by readers of their own. Wherever both succeed they agree: in an object, reading the
lifetime follows reading the claims member by member, and no array suits both.
-/

namespace AuthServer

open Json

/-! ## Lifetimes and claims -/

theorem passesOver_of_readRoles {depth : Nat} {bytes rest : List UInt8} {roles : Roles}
    (read : Roles.read depth bytes = .ok (roles, rest)) : PassesOver bytes rest := by
  unfold Roles.read at read
  cases list : readList Role.choice.read depth bytes with
  | error failure => simp [list] at read
  | ok pair =>
      simp only [list] at read
      cases read
      exact passesOver_of_readList (fun _ _ _ _ => passesOver_of_readChoice) list

namespace Lifetime

def Draft.ofClaims (draft : Claims.Draft) : Draft :=
  ⟨draft.issuedAt, draft.expiresAt⟩

theorem isPart_claims : shape.IsPart Claims.shape Draft.ofClaims where
  start := rfl
  passOver := rfl
  unknown name unknown := by
    simp only [Claims.shape, List.find?_eq_none, List.mem_cons, forall_eq_or_imp] at unknown
    simp only [shape, List.find?_eq_none, List.mem_cons, forall_eq_or_imp]
    exact ⟨unknown.2.2.1, unknown.2.2.2.1, by simp⟩
  known field member := by
    simp only [Claims.shape, List.mem_cons, List.not_mem_nil, or_false] at member
    rcases member with rfl | rfl | rfl | rfl | rfl | rfl
    · exact .of_passed rfl rfl (fun _ _ _ _ => passesOver_of_readText) fun _ _ => rfl
    · exact .of_passed rfl rfl (fun _ _ _ _ => passesOver_of_readText) fun _ _ => rfl
    · exact .shared _ rfl (Shape.leadsTo_of_same (fun _ => rfl) fun _ _ => rfl)
    · exact .shared _ rfl (Shape.leadsTo_of_same (fun _ => rfl) fun _ _ => rfl)
    · exact .of_passed rfl rfl (fun _ _ _ _ => passesOver_of_readRoles) fun _ _ => rfl
    · refine .optional (.of_passed rfl rfl (fun _ _ _ _ => passesOver_of_readText) ?_)
      exact fun _ _ => rfl

theorem finish_ofClaims {draft : Claims.Draft} {claims : Claims}
    (complete : Claims.shape.finish draft = .ok claims) :
    shape.finish (.ofClaims draft) = .ok ⟨claims.issuedAt, claims.expiresAt⟩ := by
  rcases draft with ⟨subject, issuer, issuedAt, expiresAt, roles, name⟩
  cases subject <;> cases issuer <;> cases issuedAt <;> cases expiresAt <;> cases roles
  all_goals cases complete
  rfl

/-- Claims in an object have their lifetime read from it, too. -/
theorem readObject_of_claims {depth : Nat} {bytes rest : List UInt8} {claims : Claims}
    (read : Claims.shape.readObject depth bytes = .ok (claims, rest)) :
    shape.readObject depth bytes = .ok (⟨claims.issuedAt, claims.expiresAt⟩, rest) := by
  rcases isPart_claims.readObject read with ⟨final, complete, reads⟩
  exact reads _ (finish_ofClaims complete)

/-- The claims in an array start with a text, and a lifetime in an array with an integer. -/
theorem readArray_ne_ok_of_claims {depth : Nat} {bytes rest : List UInt8} {claims : Claims}
    (read : Claims.shape.readArray depth bytes = .ok (claims, rest)) (lifetime : Lifetime)
    (after : List UInt8) : shape.readArray depth bytes ≠ .ok (lifetime, after) := by
  intro lifetimeRead
  rcases Shape.readArray_first rfl rfl read with ⟨value, _, _, next, subjectRead⟩
  rcases Shape.readArray_first rfl rfl lifetimeRead with ⟨other, _, _, otherNext, issuedRead⟩
  rw [next] at otherNext
  cases otherNext
  rcases Shape.of_read_cases subjectRead with ⟨subject, text, -⟩
  rcases Shape.of_read_cases issuedRead with ⟨issued, integer, -⟩
  rcases readText_cases text with ⟨inner, first, -⟩
  unfold readInt64 at integer
  simp only [first, show startsNumber 0x22 = false by decide, Bool.false_eq_true, if_false]
    at integer
  exact wrongType_ne_ok _ _ _ _ integer

theorem read_of_object {depth : Nat} {bytes rest inner : List UInt8} {claims : Claims}
    (first : skipBlanks bytes = 0x7B :: inner)
    (read : Claims.shape.read depth bytes = .ok (claims, rest)) :
    shape.read depth bytes = .ok (⟨claims.issuedAt, claims.expiresAt⟩, rest) := by
  rcases Shape.read_cases read with ⟨levels, _, ⟨brace, object⟩ | ⟨bracket, -⟩⟩
  · rw [shape.read_eq_readObject levels brace]
    exact readObject_of_claims object
  · cases first.symm.trans bracket

theorem read_of_claims {depth : Nat} {bytes rest after : List UInt8} {claims : Claims}
    {lifetime : Lifetime} (read : Claims.shape.read depth bytes = .ok (claims, rest))
    (lifetimeRead : shape.read depth bytes = .ok (lifetime, after)) :
    ∃ inner, skipBlanks bytes = 0x7B :: inner ∧
      lifetime = ⟨claims.issuedAt, claims.expiresAt⟩ ∧ after = rest := by
  rcases Shape.read_cases read with ⟨levels, inner, ⟨first, -⟩ | ⟨first, array⟩⟩
  · rw [read_of_object first read] at lifetimeRead
    cases lifetimeRead
    exact ⟨inner, first, rfl, rfl⟩
  · rw [shape.read_eq_readArray levels first] at lifetimeRead
    exact absurd lifetimeRead (readArray_ne_ok_of_claims array _ _)

/-- Where claims and a lifetime are both read from a document, the lifetime is that of the
claims. -/
theorem ofJson_of_claims {document : List UInt8} {claims : Claims} {lifetime : Lifetime}
    (read : Claims.ofJson document = .ok claims) (lifetimeRead : ofJson document = .ok lifetime) :
    lifetime = ⟨claims.issuedAt, claims.expiresAt⟩ := by
  rcases readDocument_eq_ok_iff.mp read with ⟨_, whole, -⟩
  rcases readDocument_eq_ok_iff.mp lifetimeRead with ⟨_, part, -⟩
  rcases read_of_claims whole part with ⟨_, -, same, -⟩
  exact same

end Lifetime

/-! ## Claims that were written -/

theorem skipValue_stringText (text : String) (rest : List UInt8) :
    skipValue (Utf8.encode (stringText text) ++ rest) = .ok rest :=
  (passesOver_of_readText (readText_written "a string" text rest)).skipValue

theorem skipValue_toString (value : Int) {rest : List UInt8} (after : AfterValue rest) :
    skipValue (Utf8.encode (toString value) ++ rest) = .ok rest :=
  (passesOver_toString value after).skipValue

theorem skipValue_roles (roles : Roles) (rest : List UInt8) :
    skipValue (Utf8.encode roles.json ++ rest) = .ok rest :=
  (passesOver_of_readRoles (Roles.read_written roles depthLimit (by decide) rest)).skipValue

@[simp] theorem Lifetime.ofJson_json (claims : Claims) :
    ofJson (Utf8.encode claims.json) = .ok ⟨claims.issuedAt, claims.expiresAt⟩ := by
  have fills : shape.Fills (depthLimit - 1) shape.start claims.members
      ⟨claims.issuedAt, claims.expiresAt⟩ := by
    apply Shape.Fills.other rfl fun rest _ => skipValue_stringText claims.subject rest
    apply Shape.Fills.other rfl fun rest _ => skipValue_stringText claims.issuer rest
    apply Shape.Fills.required rfl rfl fun rest after => readInt64_written claims.issuedAt after
    apply Shape.Fills.required rfl rfl fun rest after => readInt64_written claims.expiresAt after
    apply Shape.Fills.other rfl fun rest _ => skipValue_roles claims.roles rest
    apply Shape.Fills.other rfl fun rest _ => skipValue_stringText claims.name rest
    exact .done _
  rw [Claims.json_eq_objectText]
  exact readDocument_written (by simpa using Shape.read_written (by decide) fills rfl [])

/-- Claims have none of the members that the last check of a token looks for. -/
@[simp] theorem RegisteredClaims.areValid_json (claims : Claims) :
    areValid (Utf8.encode claims.json) = true := by
  have fills : shape.Fills (depthLimit - 1) shape.start claims.members shape.start := by
    apply Shape.Fills.other rfl fun rest _ => skipValue_stringText claims.subject rest
    apply Shape.Fills.other rfl fun rest _ => skipValue_stringText claims.issuer rest
    apply Shape.Fills.other rfl fun rest after => skipValue_toString claims.issuedAt.toInt after
    apply Shape.Fills.other rfl fun rest after => skipValue_toString claims.expiresAt.toInt after
    apply Shape.Fills.other rfl fun rest _ => skipValue_roles claims.roles rest
    apply Shape.Fills.other rfl fun rest _ => skipValue_stringText claims.name rest
    exact .done _
  have read : readDocument shape.read (Utf8.encode (objectText claims.members)) = .ok () :=
    readDocument_written (by simpa using Shape.read_written (by decide) fills rfl [])
  rw [areValid, Claims.json_eq_objectText, read]
  rfl

end AuthServer
