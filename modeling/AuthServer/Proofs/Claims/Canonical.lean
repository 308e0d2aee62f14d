import AuthServer.Proofs.Claims.Codec
import Mathlib.Control.Monad.Basic

/-!
The one text that claims are written as, among all that they are read from. Members come in any
order, with others in between; a role is repeated, or is the key of an object; an empty name is left
out; and there are no keys at all in an array. Whatever form a document has, writing what was read
gives a text that depends on the claims alone, and is read as the same claims.
-/

namespace AuthServer

open Json

/-! ## Roles -/

/-- The texts of a role: its name, or an object that has the name as its only key. -/
inductive Role.IsText (role : Role) : String → Prop
  | name : role.IsText (stringText role.text)
  | key : role.IsText (objectText [(role.text, "null")])

namespace Role.IsText

variable {role : Role} {text : String}

theorem startsValue (isText : role.IsText text) : StartsValue text := by
  cases isText with
  | name => exact startsValue_stringText _
  | key => exact startsValue_objectText _

theorem read (isText : role.IsText text) {depth : Nat} (levels : 1 < depth) (rest : List UInt8) :
    choice.read depth (Utf8.encode text ++ rest) = .ok (role, rest) := by
  cases isText with
  | name => exact Role.read_written role depth rest
  | key => exact Choice.read_keyed (ofText?_text role) levels rest

end Role.IsText

/-- The texts of a set of roles: lists in which each of them stands at least once, in any order. -/
inductive Roles.IsText (roles : Roles) : String → Prop
  | list (items : List (Role × String)) (each : ∀ item ∈ items, item.1.IsText item.2)
      (same : ofList (items.map (·.1)) = roles) : roles.IsText (listText (items.map (·.2)))

namespace Roles.IsText

variable {roles : Roles} {text : String}

theorem startsValue (isText : roles.IsText text) : StartsValue text := by
  rcases isText with ⟨items, -, -⟩
  exact ⟨0x5B, _, encode_listText _, by decide, by decide⟩

theorem read (isText : roles.IsText text) {depth : Nat} (levels : 2 < depth) (rest : List UInt8) :
    Roles.read depth (Utf8.encode text ++ rest) = .ok (roles, rest) := by
  rcases isText with ⟨items, each, same⟩
  have list := readList_written Role.choice.read depth (by omega) (·.2) (·.1) items
    (fun item member => (each item member).startsValue)
    (fun item member rest _ => (each item member).read (by omega) rest) rest
  simp only [Roles.read, list, same]

theorem json (roles : Roles) : roles.IsText roles.json := by
  have texts : roles.json =
      listText ((roles.toList.map fun role => (role, stringText role.text)).map (·.2)) := by
    rw [Roles.json, List.map_map]
    rfl
  rw [texts]
  refine .list _ ?_ ?_
  · intro item member
    rcases List.mem_map.mp member with ⟨role, -, rfl⟩
    exact .name
  · rw [List.map_map]
    exact (congrArg ofList (List.map_id _)).trans (ofList_toList roles)

end Roles.IsText

namespace Claims

/-! ## Members in any order -/

def requiredNames : List String := ["sub", "iss", "iat", "exp", "roles"]

def fieldNames : List String := requiredNames ++ ["name"]

/-- What may stand under a name in claims. Under a name that is not known it may be any value. -/
inductive IsMember (claims : Claims) : String → String → Prop
  | subject : claims.IsMember "sub" (stringText claims.subject)
  | issuer : claims.IsMember "iss" (stringText claims.issuer)
  | issuedAt : claims.IsMember "iat" (toString claims.issuedAt.toInt)
  | expiresAt : claims.IsMember "exp" (toString claims.expiresAt.toInt)
  | roles {text : String} (isText : claims.roles.IsText text) : claims.IsMember "roles" text
  | name : claims.IsMember "name" (stringText claims.name)
  | other {name text : String} (unknown : name ∉ fieldNames)
      (value : ∀ rest, AfterValue rest → skipValue (Utf8.encode text ++ rest) = .ok rest) :
      claims.IsMember name text

/-- The draft of claims after the members with the given names were read. -/
def draft (claims : Claims) (names : List String) : Draft where
  subject := if "sub" ∈ names then some claims.subject else none
  issuer := if "iss" ∈ names then some claims.issuer else none
  issuedAt := if "iat" ∈ names then some claims.issuedAt else none
  expiresAt := if "exp" ∈ names then some claims.expiresAt else none
  roles := if "roles" ∈ names then some claims.roles else none
  name := if "name" ∈ names then some claims.name else none

variable {claims : Claims}

theorem draft_append_of_unknown {names : List String} {name : String}
    (unknown : name ∉ fieldNames) : claims.draft (names ++ [name]) = claims.draft names := by
  simp only [fieldNames, requiredNames, List.mem_append, List.mem_cons, List.not_mem_nil, or_false,
    not_or, @eq_comm _ name] at unknown
  simp [draft, unknown]

theorem finish_draft {names : List String} (needed : requiredNames ⊆ names)
    (named : "name" ∈ names ∨ claims.name = "") :
    shape.finish (claims.draft names) = .ok claims := by
  have name : (claims.draft names).name.getD "" = claims.name := by
    rcases named with given | empty
    · simp [draft, given]
    · by_cases given : "name" ∈ names <;> simp [draft, given, empty]
  have subject : "sub" ∈ names := needed (by decide)
  have issuer : "iss" ∈ names := needed (by decide)
  have issuedAt : "iat" ∈ names := needed (by decide)
  have expiresAt : "exp" ∈ names := needed (by decide)
  have roles : "roles" ∈ names := needed (by decide)
  simp only [shape, name]
  simp only [draft, subject, issuer, issuedAt, expiresAt, roles, if_true, required]
  rfl

section Members

variable {depth : Nat} (levels : 2 < depth)
include levels

theorem IsMember.fills {name text : String} (isMember : claims.IsMember name text)
    {names : List String} (fresh : name ∈ fieldNames → name ∉ names)
    {members : List (String × String)} {final : Draft}
    (others : shape.Fills depth (claims.draft (names ++ [name])) members final) :
    shape.Fills depth (claims.draft names) ((name, text) :: members) final := by
  -- Whatever comes under a known name sets the one field that was not read before.
  cases isMember with
  | subject =>
      refine .required rfl ?_ (fun rest _ => readText_written "a string" _ rest) ?_
      · simp [draft, fresh (by decide)]
      · simpa [draft] using others
  | issuer =>
      refine .required rfl ?_ (fun rest _ => readText_written "a string" _ rest) ?_
      · simp [draft, fresh (by decide)]
      · simpa [draft] using others
  | issuedAt =>
      refine .required rfl ?_ (fun rest after => readInt64_written _ after) ?_
      · simp [draft, fresh (by decide)]
      · simpa [draft] using others
  | expiresAt =>
      refine .required rfl ?_ (fun rest after => readInt64_written _ after) ?_
      · simp [draft, fresh (by decide)]
      · simpa [draft] using others
  | roles isText =>
      refine .required rfl ?_ (fun rest _ => isText.read levels rest) ?_
      · simp [draft, fresh (by decide)]
      · simpa [draft] using others
  | name =>
      refine .optional rfl ?_ (fun rest _ => readText_written "a string" _ rest) ?_
      · simp [draft, fresh (by decide)]
      · simpa [draft] using others
  | other unknown value =>
      refine .other ?_ value (draft_append_of_unknown unknown ▸ others)
      rw [List.find?_eq_none]
      intro field member same
      apply unknown
      rw [← eq_of_beq same]
      exact List.mem_map_of_mem (f := (·.name)) member

/-- Members in any order fill the draft, if none that is known comes twice. -/
theorem fills_of_members {members : List (String × String)}
    (each : ∀ member ∈ members, claims.IsMember member.1 member.2) (names : List String)
    (once : ∀ name ∈ fieldNames, (names ++ members.map (·.1)).count name ≤ 1) :
    shape.Fills depth (claims.draft names) members
      (claims.draft (names ++ members.map (·.1))) := by
  induction members generalizing names with
  | nil =>
      rw [List.map_nil, List.append_nil]
      exact .done _
  | cons member members induction =>
      have others := induction (fun other found => each other (List.mem_cons_of_mem _ found))
        (names ++ [member.1]) (by simpa using once)
      rw [List.append_assoc, List.singleton_append, ← List.map_cons] at others
      refine (each member List.mem_cons_self).fills levels ?_ others
      intro known found
      have twice := once member.1 known
      have before := List.count_pos_iff.mpr found
      simp only [List.map_cons, List.count_append, List.count_cons_self] at twice
      omega

end Members

/-! ## The forms of claims -/

def values (claims : Claims) (roles : String) : List String :=
  [stringText claims.subject, stringText claims.issuer, toString claims.issuedAt.toInt,
    toString claims.expiresAt.toInt, roles]

/-- The texts of claims: objects and arrays, in which a name that is empty may be missing. -/
inductive IsText (claims : Claims) : String → Prop
  | object {members : List (String × String)}
      (each : ∀ member ∈ members, claims.IsMember member.1 member.2)
      (once : ∀ name ∈ fieldNames, (members.map (·.1)).count name ≤ 1)
      (needed : requiredNames ⊆ members.map (·.1))
      (named : "name" ∈ members.map (·.1) ∨ claims.name = "") :
      claims.IsText (objectText members)
  | array {roles : String} (isText : claims.roles.IsText roles) :
      claims.IsText (listText (claims.values roles ++ [stringText claims.name]))
  | nameless {roles : String} (isText : claims.roles.IsText roles) (unnamed : claims.name = "") :
      claims.IsText (listText (claims.values roles))

theorem places_values {roles : String} (isText : claims.roles.IsText roles) {depth : Nat}
    (levels : 2 < depth) {texts : List String} {final : Draft}
    (name : Shape.Places depth (shape.fields.drop 5) (claims.draft requiredNames) texts final) :
    Shape.Places depth shape.fields shape.start (claims.values roles ++ texts) final := by
  apply Shape.Places.required (startsValue_stringText _) fun rest _ =>
    readText_written "a string" claims.subject rest
  apply Shape.Places.required (startsValue_stringText _) fun rest _ =>
    readText_written "a string" claims.issuer rest
  apply Shape.Places.required (startsValue_toString _) fun rest after =>
    readInt64_written claims.issuedAt after
  apply Shape.Places.required (startsValue_toString _) fun rest after =>
    readInt64_written claims.expiresAt after
  apply Shape.Places.required isText.startsValue fun rest _ => isText.read levels rest
  exact name

theorem ofJson_of_isText {text : String} (isText : claims.IsText text) :
    ofJson (Utf8.encode text) = .ok claims := by
  have levels : 2 < depthLimit - 1 := by decide
  refine readDocument_written ?_
  cases isText with
  | object each once needed named =>
      have fills := fills_of_members levels each [] (by simpa using once)
      simpa using Shape.read_written (by decide) fills (finish_draft needed named) []
  | array isText =>
      have name : Shape.Places (depthLimit - 1) (shape.fields.drop 5) (claims.draft requiredNames)
          [stringText claims.name] (claims.draft fieldNames) :=
        .optional (startsValue_stringText _)
          (fun rest _ => readText_written "a string" claims.name rest) (.done _)
      have complete : shape.finish (claims.draft fieldNames) = .ok claims :=
        finish_draft (List.subset_append_left _ _) (.inl (by decide))
      have places := places_values isText levels name
      simpa using Shape.read_array_written (by decide) places complete []
  | nameless isText unnamed =>
      have name : Shape.Places (depthLimit - 1) (shape.fields.drop 5) (claims.draft requiredNames)
          [] (claims.draft requiredNames) := .missing rfl (.done _)
      have complete : shape.finish (claims.draft requiredNames) = .ok claims :=
        finish_draft (List.Subset.refl _) (.inr unnamed)
      have places := places_values isText levels name
      simpa using Shape.read_array_written (by decide) places complete []

theorem isText_json (claims : Claims) : claims.IsText claims.json := by
  have names : claims.members.map (·.1) = fieldNames := rfl
  rw [json_eq_objectText]
  refine .object ?_ ?_ ?_ ?_
  · simp only [members, List.forall_mem_cons]
    exact ⟨.subject, .issuer, .issuedAt, .expiresAt, .roles (.json _), .name, by simp⟩
  · rw [names]
    decide
  · rw [names]
    exact List.subset_append_left _ _
  · rw [names]
    exact .inl (by decide)

/-! ## The canonical form -/

def canonical (document : List UInt8) : Except Failure String :=
  (ofJson document).map json

theorem canonical_of_ofJson {document : List UInt8} (read : ofJson document = .ok claims) :
    canonical document = .ok claims.json := by
  rw [canonical, read, Except.map]

theorem ofJson_of_canonical {document : List UInt8} {text : String}
    (written : canonical document = .ok text) :
    ∃ claims, ofJson document = .ok claims ∧ claims.json = text := by
  unfold canonical at written
  cases read : ofJson document with
  | error failure => simp [read, Except.map] at written
  | ok claims => exact ⟨claims, rfl, by simpa [read, Except.map] using written⟩

theorem json_injective : Function.Injective json := by
  intro claims others same
  have read := ofJson_json claims
  rw [same, ofJson_json others] at read
  cases read
  rfl

/-- Claims are written without loss and in one form only. They are read back from what is written,
as they are from every other text of theirs. The canonical form of whatever was read is read as the
same claims and is its own canonical form, so that two documents that are accepted have it in common
exactly when they denote equal claims. -/
theorem json_canonical :
    (∀ claims, ofJson (Utf8.encode claims.json) = .ok claims) ∧
    (∀ claims, claims.IsText claims.json ∧
      ∀ text, claims.IsText text → ofJson (Utf8.encode text) = .ok claims) ∧
    (∀ document claims, ofJson document = .ok claims →
      canonical document = .ok claims.json ∧ ofJson (Utf8.encode claims.json) = .ok claims) ∧
    (∀ document text, canonical document = .ok text → canonical (Utf8.encode text) = .ok text) ∧
    ∀ document other claims others, ofJson document = .ok claims → ofJson other = .ok others →
      (canonical document = canonical other ↔ claims = others) := by
  refine ⟨ofJson_json, fun claims => ⟨isText_json claims, fun _ => ofJson_of_isText⟩, ?_, ?_, ?_⟩
  · intro document claims read
    exact ⟨canonical_of_ofJson read, ofJson_json claims⟩
  · intro document text written
    rcases ofJson_of_canonical written with ⟨claims, -, rfl⟩
    exact canonical_of_ofJson (ofJson_json claims)
  · intro document other claims others read otherRead
    rw [canonical_of_ofJson read, canonical_of_ofJson otherRead, Except.ok.injEq]
    exact json_injective.eq_iff

theorem json_canonical_sample :
    let document := Utf8.encode ("\x7b\"exp\":2,\"x\":[\x7b\x7d],\"roles\":[" ++
      "\x7b\"USER\":null\x7d,\"ADMIN\",\"USER\"], \"iat\":-1,\"iss\":\"i\"," ++
      "\"sub\":\"\\u00e9\\ud83d\\ude00\\n\"\x7d")
    let array := Utf8.encode "[\"é😀\\u000a\",\"i\",-1,2,[\"ADMIN\",\"USER\"],\"\"]"
    let claims : Claims := ⟨"é😀\n", "i", -1, 2, ⟨true, true⟩, ""⟩
    canonical document = .ok claims.json ∧
      canonical (Utf8.encode claims.json) = .ok claims.json ∧
      canonical document = canonical array ∧
      ofJson (Utf8.encode (listText (claims.values
        (listText [objectText [("USER", "null")], stringText "ADMIN", stringText "USER"])))) =
        .ok claims := by
  intro document array claims
  have read : ofJson document = .ok claims := by decide +kernel
  have written := (json_canonical.2.2.1 document claims read).1
  have same := json_canonical.2.2.2.2 document array claims claims read (by decide +kernel)
  have roles : claims.roles.IsText
      (listText [objectText [("USER", "null")], stringText "ADMIN", stringText "USER"]) := by
    refine .list [(.user, _), (.admin, _), (.user, _)] ?_ rfl
    simp only [List.forall_mem_cons]
    exact ⟨.key, .name, .name, by simp⟩
  exact ⟨written, json_canonical.2.2.2.1 document _ written, same.mpr rfl,
    (json_canonical.2.1 claims).2 _ (.nameless roles rfl)⟩

end Claims

end AuthServer
