import AuthServer.Json.Typed
import AuthServer.Json.Writer
import AuthServer.Proofs.Json.Number
import AuthServer.Proofs.Json.String
import AuthServer.Proofs.Outcome

/-!
Lists and records that were written are read back item by item and member by member. What a single
item or member must satisfy is all that remains to be shown for a particular list or record.
-/

namespace AuthServer.Json

theorem skipBlanks_of_not_blank {byte : UInt8} (notBlank : isBlank byte = false)
    (rest : List UInt8) : skipBlanks (byte :: rest) = byte :: rest := by
  rw [skipBlanks, notBlank]
  rfl

theorem readText_written (expected text : String) (rest : List UInt8) :
    readText expected (Utf8.encode (stringText text) ++ rest) = .ok (text, rest) := by
  rw [encode_stringText, List.cons_append, readText, skipBlanks_of_not_blank (by decide)]
  simp only [if_pos, List.append_assoc, List.singleton_append]
  exact readString_written text rest

/-- A value that does not start like the word for no value is read where no value could stand as
well. -/
theorem readOptional_of_first {α : Type} {read : Reader α} {byte : UInt8} {bytes rest : List UInt8}
    {value : α} (notBlank : isBlank byte = false) (notNull : byte ≠ 0x6E)
    (readBack : read (byte :: bytes) = .ok (value, rest)) :
    readOptional read (byte :: bytes) = .ok (some value, rest) := by
  rw [readOptional, skipBlanks_of_not_blank notBlank]
  split
  · rename_i equal
    cases equal
    exact absurd rfl notNull
  · rw [readBack]

theorem readOptional_written (expected text : String) (rest : List UInt8) :
    readOptional (readText expected) (Utf8.encode (stringText text) ++ rest) =
      .ok (some text, rest) := by
  have read := readText_written expected text rest
  rw [encode_stringText, List.cons_append] at read ⊢
  exact readOptional_of_first (by decide) (by decide) read

theorem Choice.read_written {α : Type} {choice : Choice α} {name : String} {value : α}
    (known : choice.ofName? name = some value) (depth : Nat) (rest : List UInt8) :
    choice.read depth (Utf8.encode (stringText name) ++ rest) = .ok (value, rest) := by
  have text := readText_written "variant identifier" name rest
  rw [encode_stringText, List.cons_append] at text ⊢
  rw [Choice.read, skipBlanks_of_not_blank (by decide)]
  simp only [show (0x22 : UInt8) ≠ 0x7B by decide, if_false, if_true, Choice.readName, text, known]

/-- The first byte of a written value, which is no blank and does not end a list. -/
def StartsValue (text : String) : Prop :=
  ∃ byte bytes, Utf8.encode text = byte :: bytes ∧ isBlank byte = false ∧ byte ≠ 0x5D

theorem startsValue_stringText (text : String) : StartsValue (stringText text) :=
  ⟨0x22, _, encode_stringText text, by decide, by decide⟩

theorem startsValue_toString (value : Int) : StartsValue (toString value) := by
  cases value with
  | ofNat magnitude =>
      rcases exists_digitBytes magnitude with ⟨digit, bytes, small, -, written⟩
      have notEnd : ∀ digit < 10, digitByte digit ≠ 0x5D := by decide
      exact ⟨digitByte digit, bytes, by rw [encode_toString_ofNat, written],
        isBlank_digitByte digit small, notEnd digit small⟩
  | negSucc less =>
      exact ⟨0x2D, _, encode_toString_negSucc less, by decide, by decide⟩

/-! ## Separated parts -/

/-- Parts with commas between them, and one in front unless the parts come first. -/
def separated (isFirst : Bool) : List (List UInt8) → List UInt8
  | [] => []
  | part :: parts => (if isFirst then part else 0x2C :: part) ++ separated false parts

theorem encode_intercalate (texts : List String) :
    Utf8.encode (",".intercalate texts) = separated true (texts.map Utf8.encode) := by
  have comma : Utf8.encode "," = [0x2C] := by decide +kernel
  have nothing : Utf8.encode "" = [] := by decide +kernel
  have later : ∀ texts : List String, texts ≠ [] →
      0x2C :: Utf8.encode (",".intercalate texts) = separated false (texts.map Utf8.encode) := by
    intro texts
    induction texts with
    | nil => simp
    | cons text texts induction =>
        intro _
        cases texts with
        | nil => simp [separated]
        | cons next texts =>
            have others := induction (by simp)
            simp only [String.intercalate_cons_cons, Utf8.encode_append, comma, List.map_cons,
              separated, List.append_assoc, List.singleton_append] at others ⊢
            rw [others]
            simp
  cases texts with
  | nil => simp [separated, nothing]
  | cons text texts =>
      cases texts with
      | nil => simp [separated]
      | cons next texts =>
          have others := later (next :: texts) (by simp)
          simp only [String.intercalate_cons_cons, Utf8.encode_append, comma, List.map_cons,
            separated, List.append_assoc, List.singleton_append] at others ⊢
          rw [others]
          simp

theorem afterValue_separated (parts : List (List UInt8)) (close : UInt8) (rest : List UInt8)
    (closes : AfterValue (close :: rest)) :
    AfterValue (separated false parts ++ close :: rest) := by
  cases parts with
  | nil => exact closes
  | cons part parts => exact .comma _

/-! ## Lists -/

theorem encode_listText (texts : List String) :
    Utf8.encode (listText texts) = 0x5B :: (separated true (texts.map Utf8.encode) ++ [0x5D]) := by
  have opening : Utf8.encode "[" = [0x5B] := by decide +kernel
  have closing : Utf8.encode "]" = [0x5D] := by decide +kernel
  simp [listText, encode_intercalate, opening, closing]

theorem nextItem_written (isFirst : Bool) {text : String} (starts : StartsValue text)
    (rest : List UInt8) :
    nextItem isFirst ((if isFirst then Utf8.encode text else 0x2C :: Utf8.encode text) ++ rest) =
      .ok (true, Utf8.encode text ++ rest) := by
  rcases starts with ⟨byte, bytes, written, notBlank, notEnd⟩
  rw [written]
  cases isFirst
  · simp [nextItem, skipBlanks_of_not_blank, notBlank, notEnd, show isBlank 0x2C = false by decide]
  · simp [nextItem, skipBlanks_of_not_blank, notBlank, notEnd]

theorem nextItem_end (isFirst : Bool) (rest : List UInt8) :
    nextItem isFirst (0x5D :: rest) = .ok (false, 0x5D :: rest) := by
  rw [nextItem, skipBlanks_of_not_blank (by decide)]
  rfl

theorem readItems_written {α ι : Type} (read : Reader α) (text : ι → String) (value : ι → α)
    (items : List ι) (starts : ∀ item ∈ items, StartsValue (text item))
    (each : ∀ item ∈ items, ∀ rest, AfterValue rest →
      read (Utf8.encode (text item) ++ rest) = .ok (value item, rest))
    (fuel : Nat) (enough : items.length < fuel) (reversed : List α) (rest : List UInt8) :
    readItems read fuel reversed
        (separated reversed.isEmpty (items.map (Utf8.encode ∘ text)) ++ 0x5D :: rest) =
      .ok (reversed.reverse ++ items.map value, 0x5D :: rest) := by
  induction items generalizing fuel reversed with
  | nil =>
      obtain ⟨left, rfl⟩ : ∃ left, fuel = left + 1 := ⟨fuel - 1, by omega⟩
      rw [List.map_nil, separated, List.nil_append, readItems, nextItem_end]
      simp
  | cons item items induction =>
      obtain ⟨left, rfl⟩ : ∃ left, fuel = left + 1 := ⟨fuel - 1, by omega⟩
      rw [List.map_cons, separated, List.append_assoc, Function.comp_apply, readItems,
        nextItem_written _ (starts item (by simp))]
      simp only
      rw [each item (by simp) _ (afterValue_separated _ _ _ (.listEnd rest))]
      have others := induction (fun other member => starts other (List.mem_cons_of_mem _ member))
        (fun other member => each other (List.mem_cons_of_mem _ member)) left
        (by simp at enough; omega)
        (value item :: reversed)
      simp only [List.isEmpty_cons] at others
      simp only [others, List.reverse_cons, List.append_assoc, List.singleton_append,
        List.map_cons]

theorem length_le_separated (isFirst : Bool) (parts : List (List UInt8))
    (nonempty : ∀ part ∈ parts, part ≠ []) :
    parts.length ≤ (separated isFirst parts).length := by
  induction parts generalizing isFirst with
  | nil => simp
  | cons part parts induction =>
      have others := induction false fun other member =>
        nonempty other (List.mem_cons_of_mem _ member)
      have positive := List.length_pos_iff.mpr (nonempty part (by simp))
      cases isFirst <;> simp [separated] <;> omega

theorem readList_written {α ι : Type} (read : (depth : Nat) → Reader α) (depth : Nat)
    (levels : 1 < depth) (text : ι → String) (value : ι → α) (items : List ι)
    (starts : ∀ item ∈ items, StartsValue (text item))
    (each : ∀ item ∈ items, ∀ rest, AfterValue rest →
      read (depth - 1) (Utf8.encode (text item) ++ rest) = .ok (value item, rest))
    (rest : List UInt8) :
    readList read depth (Utf8.encode (listText (items.map text)) ++ rest) =
      .ok (items.map value, rest) := by
  have parts : (items.map text).map Utf8.encode = items.map (Utf8.encode ∘ text) := by simp
  have nonempty : ∀ part ∈ items.map (Utf8.encode ∘ text), part ≠ [] := by
    intro part member
    rcases List.mem_map.mp member with ⟨item, itemMember, rfl⟩
    rcases starts item itemMember with ⟨byte, bytes, written, _, _⟩
    simp [written]
  have enough := length_le_separated true _ nonempty
  have read := readItems_written (read (depth - 1)) text value items starts each
    ((separated true (items.map (Utf8.encode ∘ text)) ++ 0x5D :: rest).length + 1)
    (by simp at enough ⊢; omega) [] rest
  rw [encode_listText, parts, List.cons_append, readList, skipBlanks_of_not_blank (by decide)]
  simp only [List.isEmpty_nil, List.reverse_nil, List.nil_append] at read
  simp only [List.append_assoc, List.singleton_append, if_pos, enter,
    if_neg (show ¬depth ≤ 1 by omega), read, leaveList,
    skipBlanks_of_not_blank (show isBlank 0x5D = false by decide)]

/-! ## Records -/

def memberBytes (member : String × String) : List UInt8 :=
  Utf8.encode (stringText member.1) ++ 0x3A :: Utf8.encode member.2

theorem encode_objectText (members : List (String × String)) :
    Utf8.encode (objectText members) =
      0x7B :: (separated true (members.map memberBytes) ++ [0x7D]) := by
  have opening : Utf8.encode "\x7b" = [0x7B] := by decide +kernel
  have closing : Utf8.encode "\x7d" = [0x7D] := by decide +kernel
  have colon : Utf8.encode ":" = [0x3A] := by decide +kernel
  have whole : objectText members = "\x7b" ++
      ",".intercalate (members.map fun member => stringText member.1 ++ ":" ++ member.2) ++
      "\x7d" := rfl
  have parts : (members.map fun member => stringText member.1 ++ ":" ++ member.2).map Utf8.encode =
      members.map memberBytes := by
    rw [List.map_map]
    apply List.map_congr_left
    intro member _
    simp [memberBytes, colon]
  rw [whole, Utf8.encode_append, Utf8.encode_append, encode_intercalate, parts, opening, closing]
  simp

theorem startsValue_objectText (members : List (String × String)) :
    StartsValue (objectText members) :=
  ⟨0x7B, _, encode_objectText members, by decide, by decide⟩

theorem nextKey_written (isFirst : Bool) (member : String × String) (rest : List UInt8) :
    nextKey isFirst ((if isFirst then memberBytes member else 0x2C :: memberBytes member) ++ rest) =
      .ok (some member.1, 0x3A :: Utf8.encode member.2 ++ rest) := by
  have name : memberBytes member ++ rest =
      0x22 :: (contentBytes member.1.toList ++ 0x22 :: (0x3A :: Utf8.encode member.2 ++ rest)) := by
    simp [memberBytes, encode_stringText]
  have key : nextKey.key 0x22
      (contentBytes member.1.toList ++ 0x22 :: (0x3A :: Utf8.encode member.2 ++ rest)) =
      .ok (some member.1, 0x3A :: Utf8.encode member.2 ++ rest) := by
    rw [nextKey.key, if_pos rfl, readString_written]
  cases isFirst
  · simp only [Bool.false_eq_true, if_false, List.cons_append, name] at key ⊢
    rw [nextKey, skipBlanks_of_not_blank (by decide)]
    simp only [show (0x2C : UInt8) ≠ 0x7D by decide, if_false, Bool.false_eq_true, if_true,
      skipBlanks_of_not_blank (show isBlank 0x22 = false by decide),
      show (0x22 : UInt8) ≠ 0x7D by decide, key]
  · simp only [if_true, name]
    rw [nextKey, skipBlanks_of_not_blank (by decide)]
    simp only [show (0x22 : UInt8) ≠ 0x7D by decide, if_false, if_true, key]

theorem nextKey_end (isFirst : Bool) (rest : List UInt8) :
    nextKey isFirst (0x7D :: rest) = .ok (none, 0x7D :: rest) := by
  rw [nextKey, skipBlanks_of_not_blank (by decide)]
  rfl

theorem skipColon_written (rest : List UInt8) : skipColon (0x3A :: rest) = .ok rest := by
  rw [skipColon, skipBlanks_of_not_blank (by decide)]
  rfl

theorem Choice.read_keyed {α : Type} {choice : Choice α} {name : String} {value : α}
    (known : choice.ofName? name = some value) {depth : Nat} (levels : 1 < depth)
    (rest : List UInt8) :
    choice.read depth (Utf8.encode (objectText [(name, "null")]) ++ rest) = .ok (value, rest) := by
  have null : Utf8.encode "null" = [0x6E, 0x75, 0x6C, 0x6C] := by decide +kernel
  have key := readText_written "variant identifier" name
    (0x3A :: 0x6E :: 0x75 :: 0x6C :: 0x6C :: 0x7D :: rest)
  have whole : Utf8.encode (objectText [(name, "null")]) ++ rest =
      0x7B :: (Utf8.encode (stringText name) ++
        0x3A :: 0x6E :: 0x75 :: 0x6C :: 0x6C :: 0x7D :: rest) := by
    simp [encode_objectText, separated, memberBytes, null]
  rw [whole, Choice.read, skipBlanks_of_not_blank (by decide)]
  simp only [if_true, enter, if_neg (show ¬depth ≤ 1 by omega), Choice.readKeyed, Choice.readName,
    key, known, skipColon_written]
  rfl

namespace Shape

variable {δ α : Type}

/-- Written members lead a shape from one draft to another: the value of each field is read into the
draft, and every other value can be passed over. -/
inductive Fills (shape : Shape δ α) (depth : Nat) : δ → List (String × String) → δ → Prop
  | done (draft : δ) : Fills shape depth draft [] draft
  | field {draft final : δ} {name value : String} {members : List (String × String)}
      {field : RecordField δ} {update : δ → δ}
      (known : shape.fields.find? (·.name == name) = some field)
      (fresh : field.isRead draft = false)
      (read : ∀ rest, AfterValue rest →
        field.read depth (Utf8.encode value ++ rest) = .ok (update, rest))
      (others : Fills shape depth (update draft) members final) :
      Fills shape depth draft ((name, value) :: members) final
  | other {draft final : δ} {name value : String} {members : List (String × String)}
      (unknown : shape.fields.find? (·.name == name) = none)
      (passed : ∀ rest, AfterValue rest → shape.passOver (Utf8.encode value ++ rest) = .ok rest)
      (others : Fills shape depth draft members final) :
      Fills shape depth draft ((name, value) :: members) final

theorem of_read {β : Type} (name : String) (get : δ → Option β) {set : β → δ → δ}
    {read : (depth : Nat) → Reader β} {depth : Nat} {bytes rest : List UInt8} {value : β}
    (readBack : read depth bytes = .ok (value, rest)) :
    (RecordField.of name get set read).read depth bytes = .ok (set value, rest) := by
  simp only [RecordField.of, readBack]

section Fields

variable {β : Type} {shape : Shape δ α} {depth : Nat} {draft final : δ} {name key text : String}
variable {members : List (String × String)} {get : δ → Option β} {set : β → δ → δ}
variable {read : (depth : Nat) → Reader β} {value : β}

theorem Fills.required
    (known : shape.fields.find? (·.name == key) = some (.of name get set read))
    (fresh : (get draft).isSome = false)
    (readBack : ∀ rest, AfterValue rest →
      read depth (Utf8.encode text ++ rest) = .ok (value, rest))
    (others : shape.Fills depth (set value draft) members final) :
    shape.Fills depth draft ((key, text) :: members) final :=
  .field known fresh (fun rest after => of_read name get (readBack rest after)) others

theorem Fills.optional
    (known : shape.fields.find? (·.name == key) = some (RecordField.of name get set read).optional)
    (fresh : (get draft).isSome = false)
    (readBack : ∀ rest, AfterValue rest →
      read depth (Utf8.encode text ++ rest) = .ok (value, rest))
    (others : shape.Fills depth (set value draft) members final) :
    shape.Fills depth draft ((key, text) :: members) final :=
  .field known fresh (fun rest after => of_read name get (readBack rest after)) others

end Fields

theorem readMembers_written {shape : Shape δ α} {depth : Nat} {draft final : δ}
    {members : List (String × String)} (fills : shape.Fills depth draft members final)
    (fuel : Nat) (enough : members.length < fuel) (isFirst : Bool) (rest : List UInt8) :
    shape.readMembers depth fuel isFirst draft
        (separated isFirst (members.map memberBytes) ++ 0x7D :: rest) =
      .ok (.ok final, 0x7D :: rest) := by
  induction fills generalizing fuel isFirst with
  | done draft =>
      obtain ⟨left, rfl⟩ : ∃ left, fuel = left + 1 := ⟨fuel - 1, by omega⟩
      rw [List.map_nil, separated, List.nil_append, readMembers, nextKey_end]
  | field known fresh read others induction =>
      obtain ⟨left, rfl⟩ : ∃ left, fuel = left + 1 := ⟨fuel - 1, by omega⟩
      rw [List.map_cons, separated, List.append_assoc, readMembers, nextKey_written]
      simp only [known, Option.any_some, fresh, Bool.false_eq_true, if_false, readMember,
        List.cons_append, skipColon_written]
      rw [read _ (afterValue_separated _ _ _ (.objectEnd rest))]
      exact induction left (by simp at enough; omega) false
  | other unknown passed others induction =>
      obtain ⟨left, rfl⟩ : ∃ left, fuel = left + 1 := ⟨fuel - 1, by omega⟩
      rw [List.map_cons, separated, List.append_assoc, readMembers, nextKey_written]
      simp only [unknown, Option.any_none, Bool.false_eq_true, if_false, readMember,
        List.cons_append, skipColon_written]
      rw [passed _ (afterValue_separated _ _ _ (.objectEnd rest))]
      exact induction left (by simp at enough; omega) false

theorem readObject_written {shape : Shape δ α} {depth : Nat} {final : δ}
    {members : List (String × String)} {record : α}
    (fills : shape.Fills depth shape.start members final)
    (complete : shape.finish final = .ok record)
    (rest : List UInt8) :
    shape.readObject depth (separated true (members.map memberBytes) ++ 0x7D :: rest) =
      .ok (record, rest) := by
  have nonempty : ∀ part ∈ members.map memberBytes, part ≠ [] := by
    intro part member
    rcases List.mem_map.mp member with ⟨source, _, rfl⟩
    simp [memberBytes]
  have enough := length_le_separated true _ nonempty
  have read := readMembers_written fills
    ((separated true (members.map memberBytes) ++ 0x7D :: rest).length + 1)
    (by simp at enough ⊢; omega) true rest
  simp only [readObject, read, leaveObject,
    skipBlanks_of_not_blank (show isBlank 0x7D = false by decide), if_true, settle, close,
    complete, Except.bind, mapError_ok]

theorem read_eq_readObject (shape : Shape δ α) {depth : Nat} (levels : 1 < depth)
    {bytes inner : List UInt8} (first : skipBlanks bytes = 0x7B :: inner) :
    shape.read depth bytes = shape.readObject (depth - 1) inner := by
  simp only [read, first, if_true, enter, if_neg (show ¬depth ≤ 1 by omega)]

theorem read_eq_readArray (shape : Shape δ α) {depth : Nat} (levels : 1 < depth)
    {bytes inner : List UInt8} (first : skipBlanks bytes = 0x5B :: inner) :
    shape.read depth bytes = shape.readArray (depth - 1) inner := by
  simp only [read, first, show (0x5B : UInt8) ≠ 0x7B by decide, if_false, if_true, enter,
    if_neg (show ¬depth ≤ 1 by omega)]

theorem read_written {shape : Shape δ α} {depth : Nat} (levels : 1 < depth) {final : δ}
    {members : List (String × String)} {record : α}
    (fills : shape.Fills (depth - 1) shape.start members final)
    (complete : shape.finish final = .ok record) (rest : List UInt8) :
    shape.read depth (Utf8.encode (objectText members) ++ rest) = .ok (record, rest) := by
  rw [encode_objectText, List.cons_append,
    shape.read_eq_readObject levels (skipBlanks_of_not_blank (by decide) _), List.append_assoc,
    List.singleton_append, readObject_written fills complete rest]

/-! ## Records in arrays -/

/-- Written values in the places of fields lead from one draft to another. Where the values end, no
field follows but those that may be missing. -/
inductive Places (depth : Nat) : List (RecordField δ) → δ → List String → δ → Prop
  | done (draft : δ) : Places depth [] draft [] draft
  | missing {draft final : δ} {field : RecordField δ} {fields : List (RecordField δ)}
      (mayMiss : field.mayMiss = true) (others : Places depth fields draft [] final) :
      Places depth (field :: fields) draft [] final
  | value {draft final : δ} {field : RecordField δ} {fields : List (RecordField δ)} {text : String}
      {texts : List String} {update : δ → δ} (starts : StartsValue text)
      (read : ∀ rest, AfterValue rest →
        field.read depth (Utf8.encode text ++ rest) = .ok (update, rest))
      (others : Places depth fields (update draft) texts final) :
      Places depth (field :: fields) draft (text :: texts) final

section Values

variable {β : Type} {depth : Nat} {draft final : δ} {name text : String} {texts : List String}
variable {fields : List (RecordField δ)} {get : δ → Option β} {set : β → δ → δ}
variable {read : (depth : Nat) → Reader β} {value : β}

theorem Places.required (starts : StartsValue text)
    (readBack : ∀ rest, AfterValue rest →
      read depth (Utf8.encode text ++ rest) = .ok (value, rest))
    (others : Places depth fields (set value draft) texts final) :
    Places depth (.of name get set read :: fields) draft (text :: texts) final :=
  .value starts (fun rest after => of_read name get (readBack rest after)) others

theorem Places.optional (starts : StartsValue text)
    (readBack : ∀ rest, AfterValue rest →
      read depth (Utf8.encode text ++ rest) = .ok (value, rest))
    (others : Places depth fields (set value draft) texts final) :
    Places depth ((RecordField.of name get set read).optional :: fields) draft (text :: texts)
      final :=
  .value starts (fun rest after => of_read name get (readBack rest after)) others

end Values

theorem readPositions_written (shape : Shape δ α) {depth : Nat} {fields : List (RecordField δ)}
    {draft final : δ} {texts : List String} (places : Places depth fields draft texts final)
    (position : Nat) (rest : List UInt8) :
    shape.readPositions depth fields position draft
        (separated (position == 0) (texts.map Utf8.encode) ++ 0x5D :: rest) =
      .ok (.ok final, 0x5D :: rest) := by
  induction places generalizing position with
  | done draft => rfl
  | missing mayMiss others induction =>
      rw [List.map_nil, separated, List.nil_append, readPositions, nextItem_end]
      simp only [mayMiss, if_true]
      exact induction (position + 1)
  | value starts read others induction =>
      rw [List.map_cons, separated, List.append_assoc, readPositions, nextItem_written _ starts]
      simp only
      rw [read _ (afterValue_separated _ _ _ (.listEnd rest))]
      exact induction (position + 1)

theorem read_array_written {shape : Shape δ α} {depth : Nat} (levels : 1 < depth) {final : δ}
    {texts : List String} {record : α}
    (places : Places (depth - 1) shape.fields shape.start texts final)
    (complete : shape.finish final = .ok record) (rest : List UInt8) :
    shape.read depth (Utf8.encode (listText texts) ++ rest) = .ok (record, rest) := by
  have read := readPositions_written shape places 0 rest
  rw [encode_listText, List.cons_append,
    shape.read_eq_readArray levels (skipBlanks_of_not_blank (by decide) _), List.append_assoc,
    List.singleton_append]
  rw [show ((0 : Nat) == 0) = true from rfl] at read
  simp only [readArray, read, leaveList,
    skipBlanks_of_not_blank (show isBlank 0x5D = false by decide), if_true, settle, close,
    complete, Except.bind, mapError_ok]

end Shape

theorem readDocument_eq_ok_iff {α : Type} {read : (depth : Nat) → Reader α}
    {document : List UInt8} {value : α} :
    readDocument read document = .ok value ↔
      ∃ rest, read depthLimit document = .ok (value, rest) ∧ skipBlanks rest = [] := by
  unfold readDocument
  cases read depthLimit document with
  | error failure => simp
  | ok pair =>
      rcases pair with ⟨found, rest⟩
      simp only [Except.ok.injEq, Prod.mk.injEq]
      constructor
      · intro done
        split at done
        · rename_i nothing
          cases done
          exact ⟨rest, ⟨rfl, rfl⟩, nothing⟩
        · cases done
      · rintro ⟨_, ⟨rfl, rfl⟩, nothing⟩
        simp only [nothing]

theorem readDocument_written {α : Type} {read : (depth : Nat) → Reader α} {text : String}
    {value : α}
    (readBack : read depthLimit (Utf8.encode text) = .ok (value, [])) :
    readDocument read (Utf8.encode text) = .ok value :=
  readDocument_eq_ok_iff.mpr ⟨[], readBack, rfl⟩

end AuthServer.Json
