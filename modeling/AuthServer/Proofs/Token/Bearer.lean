import AuthServer.Proofs.Text.Blank
import AuthServer.Token.Bearer

/-!
The language of authorization headers. A token is found in a header exactly if the header presents
it: after the scheme, in any case, and a space. A header presents one token at most, and the only
headers that count as missing are absent or blank.
-/

namespace AuthServer.Bearer

open Text

/-- A text that presents a token: the scheme and the token, with a space and perhaps more blanks
between them, and blanks around them. The token may have blanks inside. -/
def Presents (text token : String) : Prop :=
  ∃ front scheme middle back,
    text.toList = front ++ scheme ++ ' ' :: middle ++ token.toList ++ back ∧
      (∀ char ∈ front ++ middle ++ back, isBlank char = true) ∧
      scheme.map Char.toLower = "bearer".toList ∧ token.toList ≠ [] ∧ IsTrimmed token.toList

/-! ## Headers with a token -/

theorem token_of_blank {text : String} (blank : trimChars text.toList = []) :
    Bearer.token (some text) = .error .missingToken := by
  simp only [Bearer.token, Option.map_some, blank]

theorem token_of_not_blank {text : String} (notBlank : trimChars text.toList ≠ []) :
    Bearer.token (some text) =
      match splitOnce ' ' (trimChars text.toList) with
      | none => .error .malformedToken
      | some (scheme, rest) =>
          if scheme.map Char.toLower = "bearer".toList ∧ trimChars rest ≠ [] then
            .ok (String.ofList (trimChars rest))
          else .error .malformedToken := by
  rw [Bearer.token, Option.map_some]
  generalize trimChars text.toList = chars at notBlank ⊢
  cases chars with
  | nil => exact absurd rfl notBlank
  | cons first rest => rfl

theorem of_token {header : Option String} {token : String}
    (found : Bearer.token header = .ok token) :
    ∃ text front scheme middle back, header = some text ∧
      text.toList = front ++ scheme ++ ' ' :: middle ++ token.toList ++ back ∧
      (∀ char ∈ front ++ middle ++ back, isBlank char = true) ∧
      scheme.map Char.toLower = "bearer".toList ∧ token.toList ≠ [] ∧ IsTrimmed token.toList := by
  cases header with
  | none => cases found
  | some text =>
      by_cases blank : trimChars text.toList = []
      · cases (token_of_blank blank).symm.trans found
      rw [token_of_not_blank blank] at found
      split at found
      · cases found
      rename_i scheme rest split
      split at found
      · rename_i fits
        cases found
        rcases trimChars_spec text.toList with ⟨front, back, outer, frontBlank, backBlank, -⟩
        rcases trimChars_spec rest with ⟨middle, rear, inner, middleBlank, rearBlank, edges⟩
        refine ⟨text, front, scheme, middle, rear ++ back, rfl, ?_, ?_, fits.1,
          by simpa using fits.2, by simpa using edges⟩
        · rw [(of_splitOnce split).1, inner] at outer
          simpa only [List.append_assoc, List.cons_append, String.toList_ofList] using outer
        · simp only [List.mem_append]
          rintro char ((member | member) | member | member)
          · exact frontBlank char member
          · exact middleBlank char member
          · exact rearBlank char member
          · exact backBlank char member
      · cases found

theorem token_congr {text other : String}
    (same : trimChars text.toList = trimChars other.toList) :
    Bearer.token (some text) = Bearer.token (some other) := by
  simp only [Bearer.token, Option.map_some, same]

theorem presents_of_token {header : Option String} {token : String}
    (found : Bearer.token header = .ok token) :
    ∃ text, header = some text ∧ Presents text token := by
  rcases of_token found with ⟨text, front, scheme, middle, back, present, fits⟩
  exact ⟨text, present, front, scheme, middle, back, fits⟩

theorem not_blank_of_mem_scheme {scheme : List Char}
    (bearer : scheme.map Char.toLower = "bearer".toList) :
    ∀ char ∈ scheme, isBlank char = false := by
  intro char member
  have lower : char.toLower ∈ "bearer".toList := bearer ▸ List.mem_map_of_mem member
  have letters : "bearer".toList.any isBlank = false := by decide
  rw [← isBlank_toLower]
  simpa using List.any_eq_false.mp letters _ lower

theorem isTrimmed_presented {scheme middle token : List Char}
    (bearer : scheme.map Char.toLower = "bearer".toList) (notEmpty : token ≠ [])
    (trimmed : IsTrimmed token) : IsTrimmed (scheme ++ ' ' :: (middle ++ token)) := by
  constructor
  · intro char first
    cases scheme with
    | nil => cases bearer
    | cons letter letters =>
        cases first
        exact not_blank_of_mem_scheme bearer char (by simp)
  · intro char last
    apply trimmed.2
    simpa [List.getLast?_append, List.getLast?_cons, List.getLast?_eq_some_getLast notEmpty]
      using last

theorem token_of_presents {text token : String} (presents : Presents text token) :
    Bearer.token (some text) = .ok token := by
  rcases presents with ⟨front, scheme, middle, back, layout, blank, bearer, notEmpty, trimmed⟩
  simp only [List.mem_append, or_imp, forall_and] at blank
  rcases blank with ⟨⟨frontBlank, middleBlank⟩, backBlank⟩
  have outer : trimChars text.toList = scheme ++ ' ' :: (middle ++ token.toList) := by
    rw [layout, trimChars_append backBlank, List.append_assoc front, List.append_assoc front,
      trimChars_append_front frontBlank, List.append_assoc scheme, List.cons_append]
    exact trimChars_of_isTrimmed (isTrimmed_presented bearer notEmpty trimmed)
  have space : ' ' ∉ scheme := fun member =>
    absurd (not_blank_of_mem_scheme bearer ' ' member) (by decide)
  have inner : trimChars (middle ++ token.toList) = token.toList := by
    rw [trimChars_append_front middleBlank, trimChars_of_isTrimmed trimmed]
  rw [token_of_not_blank (by simp [outer]), outer, splitOnce_of_not_mem space]
  simp only [inner, bearer, notEmpty, ne_eq, not_false_eq_true, and_self, if_true,
    String.ofList_toList]

theorem token_of_isTrimmed {token : String} (notEmpty : token.toList ≠ [])
    (trimmed : IsTrimmed token.toList) : Bearer.token (some ("Bearer " ++ token)) = .ok token :=
  token_of_presents ⟨[], "Bearer".toList, [], [], by simp, by simp, by decide, notEmpty, trimmed⟩

/-! ## Headers without one -/

theorem trimChars_eq_nil_iff {text : String} :
    trimChars text.toList = [] ↔ isBlankText text = true := by
  rw [isBlankText_iff, trim, String.ofList_eq_empty_iff]

theorem token_cases {text : String} (notBlank : trimChars text.toList ≠ []) :
    (∃ token, Bearer.token (some text) = .ok token) ∨
      Bearer.token (some text) = .error .malformedToken := by
  rw [token_of_not_blank notBlank]
  split
  · exact .inr rfl
  · split
    · exact .inl ⟨_, rfl⟩
    · exact .inr rfl

theorem token_eq_missing_iff {header : Option String} :
    Bearer.token header = .error .missingToken ↔
      ∀ text, header = some text → isBlankText text = true := by
  cases header with
  | none => exact iff_of_true rfl (fun _ present => by cases present)
  | some text =>
      simp only [Option.some.injEq, forall_eq', ← trimChars_eq_nil_iff]
      refine ⟨fun missing => ?_, token_of_blank⟩
      by_cases blank : trimChars text.toList = []
      · exact blank
      · rcases token_cases blank with ⟨token, found⟩ | malformed
        · cases missing.symm.trans found
        · cases missing.symm.trans malformed

theorem token_eq_malformed_iff {header : Option String} :
    Bearer.token header = .error .malformedToken ↔
      ∃ text, header = some text ∧ isBlankText text = false ∧ ∀ token, ¬Presents text token := by
  constructor
  · intro malformed
    cases header with
    | none => cases malformed
    | some text =>
        refine ⟨text, rfl, ?_, fun token presents => ?_⟩
        · rw [← Bool.not_eq_true, ← trimChars_eq_nil_iff]
          intro blank
          cases malformed.symm.trans (token_of_blank blank)
        · cases malformed.symm.trans (token_of_presents presents)
  · rintro ⟨text, rfl, notBlank, nothing⟩
    rw [← Bool.not_eq_true, ← trimChars_eq_nil_iff] at notBlank
    rcases token_cases notBlank with ⟨token, found⟩ | malformed
    · rcases presents_of_token found with ⟨_, same, presents⟩
      cases same
      exact absurd presents (nothing token)
    · exact malformed

/-! ## Main result -/

/-- A token is found in a header exactly if the header presents it, and a header presents one token
at most, which is found again after the usual scheme. A header without a token is missing if it is
absent or blank and malformed otherwise. -/
theorem token_exact (header : Option String) :
    (∀ token, Bearer.token header = .ok token ↔
      ∃ text, header = some text ∧ Presents text token) ∧
    (Bearer.token header = .error .missingToken ↔
      ∀ text, header = some text → isBlankText text = true) ∧
    (Bearer.token header = .error .malformedToken ↔
      ∃ text, header = some text ∧ isBlankText text = false ∧ ∀ token, ¬Presents text token) ∧
    (∀ text token other, Presents text token → Presents text other → token = other) ∧
    ∀ text token, Presents text token → Bearer.token (some ("Bearer " ++ token)) = .ok token := by
  refine ⟨fun token => ⟨presents_of_token, ?_⟩, token_eq_missing_iff, token_eq_malformed_iff,
    ?_, ?_⟩
  · rintro ⟨text, rfl, presents⟩
    exact token_of_presents presents
  · intro text token other presents presentsOther
    cases (token_of_presents presents).symm.trans (token_of_presents presentsOther)
    rfl
  · rintro text token ⟨_, _, _, _, _, _, _, notEmpty, trimmed⟩
    exact token_of_isTrimmed notEmpty trimmed

theorem token_exact_sample :
    Bearer.token (some "\u00A0bEaReR \t\u3000a b\u0085 ") = .ok "a b" ∧
      Bearer.token (some ("Bearer " ++ "a b")) = .ok "a b" := by
  rcases token_exact (some "\u00A0bEaReR \t\u3000a b\u0085 ") with ⟨found, -, -, -, again⟩
  have presents : Presents "\u00A0bEaReR \t\u3000a b\u0085 " "a b" :=
    ⟨['\u00A0'], "bEaReR".toList, ['\t', '\u3000'], ['\u0085', ' '], by decide,
      List.all_eq_true.mp (by decide), by decide, by decide, fun _ first => by cases first; decide,
      fun _ last => by cases last; decide⟩
  exact ⟨(found "a b").mpr ⟨_, rfl, presents⟩, again _ _ presents⟩

end AuthServer.Bearer
