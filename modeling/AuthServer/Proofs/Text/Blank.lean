import AuthServer.Text.Blank

/-!
Trimming takes blanks away at both ends and nothing else, a text is split where the mark occurs
first, and folding the capitals disturbs neither.
-/

namespace AuthServer.Text

/-! ## Trimming -/

def IsTrimmed (chars : List Char) : Prop :=
  (∀ char, chars.head? = some char → isBlank char = false) ∧
    ∀ char, chars.getLast? = some char → isBlank char = false

theorem isTrimmed_of_not_blank {chars : List Char}
    (notBlank : ∀ char ∈ chars, isBlank char = false) : IsTrimmed chars :=
  ⟨fun _ first => notBlank _ (List.mem_of_head? first),
    fun _ last => notBlank _ (List.mem_of_getLast? last)⟩

private theorem dropWhile_eq_self {chars : List Char}
    (first : ∀ char, chars.head? = some char → isBlank char = false) :
    chars.dropWhile isBlank = chars := by
  cases chars with
  | nil => rfl
  | cons char rest => rw [List.dropWhile_cons_of_neg (by simp [first char rfl])]

private theorem exists_blanks (chars : List Char) :
    ∃ blanks, chars = blanks ++ chars.dropWhile isBlank ∧ (∀ char ∈ blanks, isBlank char = true) ∧
      ∀ char, (chars.dropWhile isBlank).head? = some char → isBlank char = false := by
  induction chars with
  | nil => exact ⟨[], by simp⟩
  | cons char rest induction =>
      by_cases blank : isBlank char = true
      · rcases induction with ⟨blanks, split, allBlank, first⟩
        rw [List.dropWhile_cons_of_pos blank]
        exact ⟨char :: blanks, by rw [List.cons_append, ← split], by simp [blank]; exact allBlank,
          first⟩
      · rw [List.dropWhile_cons_of_neg blank]
        exact ⟨[], rfl, by simp, by simpa using blank⟩

theorem trimChars_of_isTrimmed {chars : List Char} (trimmed : IsTrimmed chars) :
    trimChars chars = chars := by
  rw [trimChars, trimFront, dropWhile_eq_self trimmed.1, trimBack, dropWhile_eq_self,
    List.reverse_reverse]
  simpa using trimmed.2

theorem trimBack_spec (chars : List Char) :
    ∃ back, chars = trimBack chars ++ back ∧ (∀ char ∈ back, isBlank char = true) ∧
      ∀ char, (trimBack chars).getLast? = some char → isBlank char = false := by
  rcases exists_blanks chars.reverse with ⟨back, split, backBlank, last⟩
  refine ⟨back.reverse, List.reverse_inj.mp ?_, by simpa using backBlank,
    by simpa [trimBack] using last⟩
  rw [List.reverse_append, List.reverse_reverse, trimBack, List.reverse_reverse]
  exact split

theorem trimChars_spec (chars : List Char) :
    ∃ front back, chars = front ++ trimChars chars ++ back ∧
      (∀ char ∈ front, isBlank char = true) ∧ (∀ char ∈ back, isBlank char = true) ∧
      IsTrimmed (trimChars chars) := by
  rcases exists_blanks chars with ⟨front, frontSplit, frontBlank, first⟩
  rcases trimBack_spec (trimFront chars) with ⟨back, split, backBlank, last⟩
  refine ⟨front, back, ?_, frontBlank, backBlank, fun char head => ?_, last⟩
  · rw [List.append_assoc, trimChars, ← split]
    exact frontSplit
  · apply first
    change (trimFront chars).head? = _
    rw [split, List.head?_append, ← trimChars, head]
    rfl

theorem trimChars_append {back : List Char} (blank : ∀ char ∈ back, isBlank char = true)
    (chars : List Char) : trimChars (chars ++ back) = trimChars chars := by
  have behind : ∀ front, trimBack (front ++ back) = trimBack front := by
    intro front
    rw [trimBack, List.reverse_append, List.dropWhile_append_of_pos (by simpa using blank),
      trimBack]
  rw [trimChars, trimFront, List.dropWhile_append]
  split
  · rename_i nothing
    have gone : back.dropWhile isBlank = [] := by
      rw [← List.append_nil back, List.dropWhile_append_of_pos blank]
      rfl
    rw [gone, trimChars, trimFront, List.isEmpty_iff.mp nothing]
  · exact behind _

theorem trimChars_append_front {front : List Char} (blank : ∀ char ∈ front, isBlank char = true)
    (chars : List Char) : trimChars (front ++ chars) = trimChars chars := by
  rw [trimChars, trimFront, List.dropWhile_append_of_pos blank, trimChars, trimFront]

theorem isBlankText_iff {text : String} : isBlankText text = true ↔ trim text = "" := by
  rw [isBlankText, List.all_eq_true, trim, String.ofList_eq_empty_iff]
  constructor
  · intro blank
    exact (trimChars_append blank []).trans rfl
  · intro nothing char member
    rcases trimChars_spec text.toList with ⟨front, back, split, frontBlank, backBlank, -⟩
    rw [split, nothing, List.append_nil, List.mem_append] at member
    exact member.elim (frontBlank char) (backBlank char)

/-! ## Splitting -/

theorem splitOnce_of_not_mem {mark : Char} {before : List Char} (absent : mark ∉ before)
    (after : List Char) : splitOnce mark (before ++ mark :: after) = some (before, after) := by
  induction before with
  | nil => simp [splitOnce]
  | cons char before induction =>
      rw [List.mem_cons, not_or] at absent
      rw [List.cons_append, splitOnce, if_neg (Ne.symm absent.1), induction absent.2]
      rfl

theorem of_splitOnce {mark : Char} {chars before after : List Char}
    (split : splitOnce mark chars = some (before, after)) :
    chars = before ++ mark :: after ∧ mark ∉ before := by
  induction chars generalizing before with
  | nil => cases split
  | cons char rest induction =>
      rw [splitOnce] at split
      split at split
      · rename_i isMark
        cases split
        exact ⟨by simp [isMark], by simp⟩
      · rename_i notMark
        cases others : splitOnce mark rest with
        | none => simp [others] at split
        | some pair =>
            simp only [others, Option.map_some, Option.some.injEq, Prod.mk.injEq] at split
            rcases split with ⟨rfl, rfl⟩
            rcases induction others with ⟨joined, absent⟩
            exact ⟨by rw [joined]; rfl, by simp [absent, Ne.symm notMark]⟩

theorem exists_splitOnce {mark : Char} {chars : List Char} (member : mark ∈ chars) :
    ∃ before after, splitOnce mark chars = some (before, after) := by
  rcases List.eq_append_cons_of_mem member with ⟨before, after, rfl, absent⟩
  exact ⟨before, after, splitOnce_of_not_mem absent after⟩

theorem splitAll_ne_nil (mark : Char) (chars : List Char) : splitAll mark chars ≠ [] := by
  cases chars with
  | nil => exact List.cons_ne_nil _ _
  | cons char rest =>
      rw [splitAll]
      split
      · exact List.cons_ne_nil _ _
      · split <;> exact List.cons_ne_nil _ _

theorem splitAll_cons (mark char : Char) (rest : List Char) :
    splitAll mark (char :: rest) =
      if char = mark then [] :: splitAll mark rest
      else (splitAll mark rest).modifyHead (char :: ·) := by
  rw [splitAll]
  split
  · rfl
  · cases split : splitAll mark rest with
    | nil => exact absurd split (splitAll_ne_nil mark rest)
    | cons piece pieces => rfl

theorem splitAll_eq_splitOn (mark : Char) (chars : List Char) :
    splitAll mark chars = chars.splitOn mark := by
  induction chars with
  | nil => rfl
  | cons char rest induction =>
      rw [splitAll_cons, induction, List.splitOn, List.splitOn, List.splitOnP_cons_eq_if_modifyHead]
      simp

theorem intercalate_splitAll (mark : Char) (chars : List Char) :
    [mark].intercalate (splitAll mark chars) = chars := by
  rw [splitAll_eq_splitOn, List.intercalate_splitOn]

/-- What was between the marks leaves no choice of what was split. -/
theorem splitAll_injective {mark : Char} {first second : List Char}
    (same : splitAll mark first = splitAll mark second) : first = second := by
  rw [← intercalate_splitAll mark first, same, intercalate_splitAll]

theorem splitAll_intercalate {mark : Char} {pieces : List (List Char)}
    (absent : ∀ piece ∈ pieces, mark ∉ piece) (nonempty : pieces ≠ []) :
    splitAll mark ([mark].intercalate pieces) = pieces := by
  rw [splitAll_eq_splitOn, List.splitOn_intercalate mark absent nonempty]

theorem splitAll_append_front {mark : Char} {front : List Char} (absent : mark ∉ front)
    (chars : List Char) :
    splitAll mark (front ++ chars) = (splitAll mark chars).modifyHead (front ++ ·) := by
  induction front with
  | nil => exact List.modifyHead_id.symm ▸ rfl
  | cons char front induction =>
      rw [List.mem_cons, not_or] at absent
      rw [List.cons_append, splitAll_cons, if_neg (Ne.symm absent.1), induction absent.2,
        List.modifyHead_modifyHead]
      rfl

theorem splitAll_of_not_mem {mark : Char} {chars : List Char} (absent : mark ∉ chars) :
    splitAll mark chars = [chars] := by
  simpa [splitAll] using splitAll_append_front absent []

theorem splitAll_append_back {mark : Char} {back : List Char} (absent : mark ∉ back)
    (chars : List Char) :
    ∃ pieces last, splitAll mark chars = pieces ++ [last] ∧
      splitAll mark (chars ++ back) = pieces ++ [last ++ back] := by
  induction chars with
  | nil =>
      refine ⟨[], [], rfl, ?_⟩
      exact splitAll_of_not_mem absent
  | cons char rest induction =>
      rcases induction with ⟨pieces, last, split, splitBack⟩
      rw [List.cons_append, splitAll_cons, splitAll_cons, split, splitBack]
      by_cases isMark : char = mark
      · exact ⟨[] :: pieces, last, by simp [isMark], by simp [isMark]⟩
      · cases pieces with
        | nil => exact ⟨[], char :: last, by simp [isMark], by simp [isMark]⟩
        | cons piece pieces =>
            exact ⟨(char :: piece) :: pieces, last, by simp [isMark], by simp [isMark]⟩

/-- If the pieces are trimmed, the whole need not be. -/
theorem map_trimChars_splitAll {mark : Char} (notBlank : isBlank mark = false)
    (chars : List Char) :
    (splitAll mark (trimChars chars)).map trimChars = (splitAll mark chars).map trimChars := by
  have absent (blanks : List Char) (blank : ∀ char ∈ blanks, isBlank char = true) :
      mark ∉ blanks := by
    intro member
    simp [blank mark member] at notBlank
  rcases trimChars_spec chars with ⟨front, back, split, frontBlank, backBlank, -⟩
  rcases splitAll_append_back (absent back backBlank) (trimChars chars) with
    ⟨pieces, last, inner, behind⟩
  have whole : splitAll mark chars = (pieces ++ [last ++ back]).modifyHead (front ++ ·) := by
    rw [← behind, ← splitAll_append_front (absent front frontBlank), ← List.append_assoc]
    exact congrArg (splitAll mark) split
  have trimmedFront (piece : List Char) : trimChars (front ++ piece) = trimChars piece :=
    trimChars_append_front frontBlank piece
  rw [inner, whole]
  cases pieces with
  | nil => simp [trimmedFront, trimChars_append backBlank]
  | cons piece pieces => simp [trimmedFront, trimChars_append backBlank]

/-! ## Folding -/

/-- Folding moves the ASCII capitals by 32 places and leaves every other character where it is. -/
theorem toLower_cases (char : Char) :
    char.toLower = char ∧ ¬(65 ≤ char.toNat ∧ char.toNat ≤ 90) ∨
      65 ≤ char.toNat ∧ char.toNat ≤ 90 ∧ char.toLower.toNat = char.toNat + 32 := by
  by_cases capital : char.val ≥ 'A'.val ∧ char.val ≤ 'Z'.val
  · have lower : 65 ≤ char.toNat := UInt32.le_iff_toNat_le.mp capital.1
    have upper : char.toNat ≤ 90 := UInt32.le_iff_toNat_le.mp capital.2
    refine .inr ⟨lower, upper, ?_⟩
    have moved : char.toLower = ⟨char.val + 32, _⟩ := dif_pos capital
    rw [moved]
    change (char.val + 32).toNat = char.val.toNat + 32
    rw [UInt32.toNat_add]
    exact Nat.mod_eq_of_lt (Nat.lt_of_le_of_lt (Nat.add_le_add_right upper 32) (by decide))
  · refine .inl ⟨dif_neg capital, ?_⟩
    rintro ⟨lower, upper⟩
    exact capital ⟨UInt32.le_iff_toNat_le.mpr lower, UInt32.le_iff_toNat_le.mpr upper⟩

@[simp] theorem isBlank_toLower (char : Char) : isBlank char.toLower = isBlank char := by
  rcases toLower_cases char with ⟨same, -⟩ | ⟨lower, upper, moved⟩
  · rw [same]
  · have blank : ∀ other : Char, 65 ≤ other.toNat → other.toNat ≤ 122 → isBlank other = false := by
      intro other least most
      simp only [isBlank, Bool.or_eq_false_iff, Bool.and_eq_false_iff, decide_eq_false_iff_not,
        beq_eq_false_iff_ne]
      omega
    rw [blank char lower (by omega), blank char.toLower (by omega) (by omega)]

theorem toLower_toLower (char : Char) : char.toLower.toLower = char.toLower := by
  rcases toLower_cases char with ⟨same, -⟩ | ⟨lower, upper, moved⟩
  · rw [same, same]
  · rcases toLower_cases char.toLower with ⟨same, -⟩ | ⟨-, small, -⟩
    · exact same
    · omega

theorem toLower_eq_iff {char : Char} (mark : Char) (early : mark.toNat < 65) :
    char.toLower = mark ↔ char = mark := by
  rcases toLower_cases char with ⟨same, -⟩ | ⟨lower, upper, moved⟩
  · rw [same]
  · constructor <;> rintro rfl <;> omega

theorem splitOnce_map_toLower (mark : Char) (early : mark.toNat < 65) (chars : List Char) :
    splitOnce mark (chars.map Char.toLower) =
      (splitOnce mark chars).map fun (before, after) =>
        (before.map Char.toLower, after.map Char.toLower) := by
  induction chars with
  | nil => rfl
  | cons char rest induction =>
      by_cases isMark : char = mark
      · simp [splitOnce, isMark, (toLower_eq_iff mark early).mpr rfl]
      · have notMark : ¬char.toLower = mark :=
          fun same => isMark ((toLower_eq_iff mark early).mp same)
        simp only [List.map_cons, splitOnce, if_neg isMark, if_neg notMark, induction,
          Option.map_map]
        rfl

end AuthServer.Text
