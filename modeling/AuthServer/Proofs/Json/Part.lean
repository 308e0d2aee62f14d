import AuthServer.Proofs.Json.Skip
import Mathlib.Data.List.Forall2

/-!
Two ways of reading a record that go together: wherever the whole of it is read by one shape, part
of it, or the same in another form, is read by another. In an object the second follows the first
member by member, whatever order they have, and in an array item by item.
-/

namespace AuthServer.Json

/-- Wherever a field is read, so is another one, which does to its draft what the first does to the
whole. -/
structure RecordField.LeadsTo {δ δ' : Type} (project : δ → δ') (field : RecordField δ)
    (other : RecordField δ') : Prop where
  fresh : ∀ draft, other.isRead (project draft) = field.isRead draft
  alike : ∀ depth bytes update rest, field.read depth bytes = .ok (update, rest) →
    ∃ otherUpdate, other.read depth bytes = .ok (otherUpdate, rest) ∧
      ∀ draft, project (update draft) = otherUpdate (project draft)

theorem RecordField.LeadsTo.optional {δ δ' : Type} {project : δ → δ'} {field : RecordField δ}
    {other : RecordField δ'} (leads : field.LeadsTo project other) :
    field.optional.LeadsTo project other.optional :=
  ⟨leads.fresh, leads.alike⟩

namespace Shape

variable {δ α δ' α' : Type}

/-! ## Fields -/

theorem of_read_cases {β : Type} {name : String} {get : δ → Option β} {set : β → δ → δ}
    {read : (depth : Nat) → Reader β} {depth : Nat} {bytes rest : List UInt8} {update : δ → δ}
    (done : (RecordField.of name get set read).read depth bytes = .ok (update, rest)) :
    ∃ value, read depth bytes = .ok (value, rest) ∧ update = set value := by
  simp only [RecordField.of] at done
  cases field : read depth bytes with
  | error failure => simp [field] at done
  | ok pair =>
      simp only [field, Except.ok.injEq, Prod.mk.injEq] at done
      rcases done with ⟨rfl, rfl⟩
      exact ⟨pair.1, rfl, rfl⟩

/-- How a field of a record fares when only part of the record is read. -/
inductive ReadsAlong (part : Shape δ' α') (project : δ → δ') (field : RecordField δ) : Prop
  | passed (unknown : part.fields.find? (·.name == field.name) = none)
      (passes : ∀ depth bytes update rest, field.read depth bytes = .ok (update, rest) →
        part.passOver bytes = .ok rest)
      (unchanged : ∀ depth bytes update rest draft, field.read depth bytes = .ok (update, rest) →
        project (update draft) = project draft)
  | shared (other : RecordField δ')
      (known : part.fields.find? (·.name == field.name) = some other)
      (leads : field.LeadsTo project other)

section Values

variable {β γ : Type} {part : Shape δ' α'} {project : δ → δ'} {name : String}
variable {get : δ → Option β} {set : β → δ → δ} {read : (depth : Nat) → Reader β}
variable {otherGet : δ' → Option γ} {otherSet : γ → δ' → δ'} {otherRead : (depth : Nat) → Reader γ}

theorem leadsTo_of (convert : β → γ)
    (reads : ∀ depth bytes value rest, read depth bytes = .ok (value, rest) →
      otherRead depth bytes = .ok (convert value, rest))
    (fresh : ∀ draft, (otherGet (project draft)).isSome = (get draft).isSome)
    (alike : ∀ value draft, project (set value draft) = otherSet (convert value) (project draft)) :
    (RecordField.of name get set read).LeadsTo project (.of name otherGet otherSet otherRead) where
  fresh := fresh
  alike := by
    intro depth bytes update rest done
    rcases of_read_cases done with ⟨value, valueRead, rfl⟩
    have converted := reads depth bytes value rest valueRead
    exact ⟨otherSet (convert value), by simp only [RecordField.of, converted], alike value⟩

theorem leadsTo_of_same {otherGet : δ' → Option β} {otherSet : β → δ' → δ'}
    (fresh : ∀ draft, (otherGet (project draft)).isSome = (get draft).isSome)
    (alike : ∀ value draft, project (set value draft) = otherSet value (project draft)) :
    (RecordField.of name get set read).LeadsTo project (.of name otherGet otherSet read) :=
  leadsTo_of id (fun _ _ _ _ done => done) fresh alike

namespace ReadsAlong

theorem of_passed (unknown : part.fields.find? (·.name == name) = none)
    (skips : part.passOver = skipValue)
    (passes : ∀ depth bytes value rest, read depth bytes = .ok (value, rest) →
      PassesOver bytes rest)
    (unchanged : ∀ value draft, project (set value draft) = project draft) :
    part.ReadsAlong project (.of name get set read) := by
  refine .passed unknown ?_ ?_
  · intro depth bytes update rest done
    rcases of_read_cases done with ⟨value, valueRead, -⟩
    rw [skips]
    exact (passes _ _ _ _ valueRead).skipValue
  · intro depth bytes update rest draft done
    rcases of_read_cases done with ⟨value, -, rfl⟩
    exact unchanged value draft

theorem optional {field : RecordField δ} (along : part.ReadsAlong project field) :
    part.ReadsAlong project field.optional := by
  cases along with
  | passed unknown passes unchanged => exact .passed unknown passes unchanged
  | shared other known leads => exact .shared other known ⟨leads.fresh, leads.alike⟩

end ReadsAlong

end Values

/-! ## Objects -/

/-- One shape reads part of what another one reads. -/
structure IsPart (part : Shape δ' α') (whole : Shape δ α) (project : δ → δ') : Prop where
  start : project whole.start = part.start
  passOver : part.passOver = whole.passOver
  unknown : ∀ name, whole.fields.find? (·.name == name) = none →
    part.fields.find? (·.name == name) = none
  known : ∀ field ∈ whole.fields, part.ReadsAlong project field

theorem of_settle {shape : Shape δ α} {members : Members δ} {left : Option Failure × List UInt8}
    {record : α} {rest : List UInt8} (settled : shape.settle members left = .ok (record, rest)) :
    ∃ final, members = .ok final ∧ shape.finish final = .ok record ∧ left = (none, rest) := by
  cases members with
  | error cause => simp [settle, Except.bind, failBefore] at settled
  | ok final =>
      cases complete : shape.finish final with
      | error name => simp [settle, Except.bind, close, complete, failBefore] at settled
      | ok finished =>
          rcases left with ⟨_ | failure, after⟩
          · simp only [settle, Except.bind, close, complete, mapError_ok, Except.ok.injEq,
              Prod.mk.injEq] at settled
            rcases settled with ⟨rfl, rfl⟩
            exact ⟨final, rfl, complete, rfl⟩
          · simp [settle, Except.bind, close, complete] at settled

theorem settle_of_finish {shape : Shape δ α} {final : δ} {record : α}
    (complete : shape.finish final = .ok record) (rest : List UInt8) :
    shape.settle (.ok final) (none, rest) = .ok (record, rest) := by
  simp only [settle, Except.bind, close, complete, mapError_ok]

variable {part : Shape δ' α'} {whole : Shape δ α} {project : δ → δ'}

theorem IsPart.readMember (isPart : part.IsPart whole project) {name : String} {depth : Nat}
    {draft final : δ} {bytes rest : List UInt8}
    (fresh : (whole.fields.find? (·.name == name)).any (·.isRead draft) = false)
    (read : whole.readMember (whole.fields.find? (·.name == name)) depth draft bytes =
      .ok (final, rest)) :
    (part.fields.find? (·.name == name)).any (·.isRead (project draft)) = false ∧
      part.readMember (part.fields.find? (·.name == name)) depth (project draft) bytes =
        .ok (project final, rest) := by
  unfold Shape.readMember at read ⊢
  cases colon : skipColon bytes with
  | error failure => simp [colon] at read
  | ok value =>
      simp only [colon] at read ⊢
      cases found : whole.fields.find? (·.name == name) with
      | none =>
          rw [isPart.unknown name found]
          simp only [found] at read
          cases passed : whole.passOver value with
          | error failure => simp [passed] at read
          | ok after =>
              simp only [passed, Except.ok.injEq, Prod.mk.injEq] at read
              rcases read with ⟨rfl, rfl⟩
              simp [isPart.passOver, passed]
      | some field =>
          have named : field.name = name := by simpa using List.find?_some found
          subst named
          simp only [found, Option.any_some] at fresh read
          cases fieldRead : field.read depth value with
          | error failure => simp [fieldRead] at read
          | ok pair =>
              obtain ⟨update, after⟩ := pair
              simp only [fieldRead, Except.ok.injEq, Prod.mk.injEq] at read
              rcases read with ⟨rfl, rfl⟩
              cases isPart.known field (List.mem_of_find?_eq_some found) with
              | passed unknown passes unchanged =>
                  simp [unknown, passes _ _ _ _ fieldRead, unchanged _ _ _ _ draft fieldRead]
              | shared other known leads =>
                  rcases leads.alike _ _ _ _ fieldRead with ⟨otherUpdate, otherRead, same⟩
                  simp [known, leads.fresh, fresh, otherRead, same]

theorem IsPart.readMembers (isPart : part.IsPart whole project) {depth fuel : Nat} {isFirst : Bool}
    {draft final : δ} {bytes rest : List UInt8}
    (read : whole.readMembers depth fuel isFirst draft bytes = .ok (.ok final, rest)) :
    part.readMembers depth fuel isFirst (project draft) bytes =
      .ok (.ok (project final), rest) := by
  induction fuel generalizing isFirst draft bytes with
  | zero => cases read
  | succ fuel induction =>
      rw [Shape.readMembers] at read ⊢
      cases next : nextKey isFirst bytes with
      | error failure => simp [next] at read
      | ok pair =>
          rcases pair with ⟨_ | name, after⟩
          · simp only [next, Except.ok.injEq, Prod.mk.injEq] at read ⊢
            exact ⟨congrArg project read.1, read.2⟩
          · simp only [next] at read ⊢
            split at read
            · simp at read
            rename_i notRead
            cases member :
              whole.readMember (whole.fields.find? (·.name == name)) depth draft after with
            | error failure => simp [member] at read
            | ok pair =>
                obtain ⟨following, afterMember⟩ := pair
                simp only [member] at read
                rcases isPart.readMember (by simpa using notRead) member with ⟨fresh, same⟩
                rw [if_neg (by simp [fresh]), same]
                exact induction read

/-- An object that is read as the whole is read as the part, up to the same byte. -/
theorem IsPart.readObject (isPart : part.IsPart whole project)
    {depth : Nat} {bytes rest : List UInt8} {record : α}
    (read : whole.readObject depth bytes = .ok (record, rest)) :
    ∃ final, whole.finish final = .ok record ∧ ∀ partRecord,
      part.finish (project final) = .ok partRecord →
        part.readObject depth bytes = .ok (partRecord, rest) := by
  unfold Shape.readObject at read
  cases members : whole.readMembers depth (bytes.length + 1) true whole.start bytes with
  | error failure => simp [members] at read
  | ok pair =>
      obtain ⟨result, after⟩ := pair
      simp only [members] at read
      rcases of_settle read with ⟨final, rfl, complete, leaves⟩
      refine ⟨final, complete, fun partRecord partComplete => ?_⟩
      have partMembers := isPart.readMembers members
      rw [isPart.start] at partMembers
      simp only [Shape.readObject, partMembers, leaves, settle_of_finish partComplete]

/-! ## Arrays -/

/-- An array starts with the value of the first field, unless that field may be missing. -/
theorem readArray_first {shape : Shape δ α} {field : RecordField δ} {fields : List (RecordField δ)}
    (order : shape.fields = field :: fields) (needed : field.mayMiss = false)
    {depth : Nat} {bytes rest : List UInt8} {record : α}
    (read : shape.readArray depth bytes = .ok (record, rest)) :
    ∃ value update after, nextItem true bytes = .ok (true, value) ∧
      field.read depth value = .ok (update, after) := by
  unfold readArray at read
  rw [order, readPositions] at read
  cases next : nextItem true bytes with
  | error failure => simp [next] at read
  | ok pair =>
      rcases pair with ⟨_ | _, value⟩
      · simp [next, needed, settle, Except.bind, failBefore] at read
      · simp only [beq_self_eq_true, next] at read
        cases item : field.read depth value with
        | error failure => simp [item] at read
        | ok pair => exact ⟨value, pair.1, pair.2, rfl, item⟩

def InStep (project : δ → δ') (fields : List (RecordField δ)) (others : List (RecordField δ')) :
    Prop :=
  List.Forall₂ (fun field other => other.mayMiss = field.mayMiss ∧ field.LeadsTo project other)
    fields others

theorem InStep.readPositions {fields : List (RecordField δ)} {others : List (RecordField δ')}
    (inStep : InStep project fields others) (part : Shape δ' α') {depth position : Nat}
    {draft final : δ} {bytes rest : List UInt8}
    (read : whole.readPositions depth fields position draft bytes = .ok (.ok final, rest)) :
    part.readPositions depth others position (project draft) bytes =
      .ok (.ok (project final), rest) := by
  induction inStep generalizing position draft bytes with
  | nil =>
      simp only [Shape.readPositions, Except.ok.injEq, Prod.mk.injEq] at read ⊢
      exact ⟨congrArg project read.1, read.2⟩
  | @cons field other fields others pair inStep induction =>
      rw [Shape.readPositions] at read ⊢
      cases next : nextItem (position == 0) bytes with
      | error failure => simp [next] at read
      | ok found =>
          rcases found with ⟨_ | _, value⟩
          · simp only [next] at read ⊢
            split at read
            · rename_i mayMiss
              rw [if_pos (pair.1.trans mayMiss)]
              exact induction read
            · cases read
          · simp only [next] at read ⊢
            cases item : field.read depth value with
            | error failure => simp [item] at read
            | ok found =>
                obtain ⟨update, after⟩ := found
                simp only [item] at read
                rcases pair.2.alike _ _ _ _ item with ⟨otherUpdate, otherItem, same⟩
                simp only [otherItem, ← same]
                exact induction read

theorem InStep.readArray (inStep : InStep project whole.fields part.fields)
    (start : project whole.start = part.start) {depth : Nat} {bytes rest : List UInt8} {record : α}
    (read : whole.readArray depth bytes = .ok (record, rest)) :
    ∃ final, whole.finish final = .ok record ∧ ∀ partRecord,
      part.finish (project final) = .ok partRecord →
        part.readArray depth bytes = .ok (partRecord, rest) := by
  unfold Shape.readArray at read
  cases items : whole.readPositions depth whole.fields 0 whole.start bytes with
  | error failure => simp [items] at read
  | ok pair =>
      obtain ⟨result, after⟩ := pair
      simp only [items] at read
      rcases of_settle read with ⟨final, rfl, complete, leaves⟩
      refine ⟨final, complete, fun partRecord partComplete => ?_⟩
      have partItems := inStep.readPositions part items
      rw [start] at partItems
      simp only [Shape.readArray, partItems, leaves, settle_of_finish partComplete]

/-! ## Records -/

theorem read_cases {shape : Shape δ α} {depth : Nat} {bytes rest : List UInt8} {record : α}
    (read : shape.read depth bytes = .ok (record, rest)) : 1 < depth ∧ ∃ inner,
      (skipBlanks bytes = 0x7B :: inner ∧
        shape.readObject (depth - 1) inner = .ok (record, rest)) ∨
      (skipBlanks bytes = 0x5B :: inner ∧
        shape.readArray (depth - 1) inner = .ok (record, rest)) := by
  unfold Shape.read enter at read
  split at read
  · cases read
  · rename_i byte inner first
    split at read
    · rename_i brace
      subst brace
      split at read
      · cases read
      · exact ⟨by omega, inner, .inl ⟨first, read⟩⟩
    split at read
    · rename_i bracket
      subst bracket
      split at read
      · cases read
      · exact ⟨by omega, inner, .inr ⟨first, read⟩⟩
    · exact absurd read (wrongType_ne_ok _ _ _ _)

/-- A record that is read in one form is read in another, which comes of the first. -/
theorem IsPart.read (isPart : part.IsPart whole project)
    (inStep : InStep project whole.fields part.fields) {convert : α → α'}
    (finishes : ∀ final record, whole.finish final = .ok record →
      part.finish (project final) = .ok (convert record))
    {depth : Nat} {bytes rest : List UInt8} {record : α}
    (read : whole.read depth bytes = .ok (record, rest)) :
    part.read depth bytes = .ok (convert record, rest) := by
  rcases read_cases read with ⟨levels, inner, ⟨first, object⟩ | ⟨first, array⟩⟩
  · rcases isPart.readObject object with ⟨final, complete, reads⟩
    rw [part.read_eq_readObject levels first]
    exact reads _ (finishes final record complete)
  · rcases inStep.readArray isPart.start array with ⟨final, complete, reads⟩
    rw [part.read_eq_readArray levels first]
    exact reads _ (finishes final record complete)

end Shape

theorem readDocument_of {α β : Type} {read : (depth : Nat) → Reader α}
    {other : (depth : Nat) → Reader β} {convert : α → β}
    (reads : ∀ depth bytes value rest, read depth bytes = .ok (value, rest) →
      other depth bytes = .ok (convert value, rest))
    {document : List UInt8} {value : α} (done : readDocument read document = .ok value) :
    readDocument other document = .ok (convert value) := by
  rcases readDocument_eq_ok_iff.mp done with ⟨rest, whole, nothing⟩
  exact readDocument_eq_ok_iff.mpr ⟨rest, reads _ _ _ _ whole, nothing⟩

end AuthServer.Json
