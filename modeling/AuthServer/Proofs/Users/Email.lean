import AuthServer.Proofs.Text.Blank
import AuthServer.Users.Email

/-!
The spelling under which an address is stored: it is trimmed and folded, making it once more does
not change it, and whether an address is valid can be told from it. The valid addresses are a
language that can be described without saying where the check cuts a text.
-/

namespace AuthServer.Email

open Text

structure IsStored (address : String) : Prop where
  trimmed : IsTrimmed address.toList
  folded : lowerAscii address = address

theorem trim_trim (text : String) : trim (trim text) = trim text := by
  rcases trimChars_spec text.toList with ⟨-, -, -, -, -, trimmed⟩
  rw [trim, trim, String.toList_ofList, trimChars_of_isTrimmed trimmed]

@[simp] theorem normalize_trim (address : String) :
    normalize (trim address) = normalize address := by
  rw [normalize, trim_trim, normalize]

theorem isTrimmed_map_toLower {chars : List Char} (trimmed : IsTrimmed chars) :
    IsTrimmed (chars.map Char.toLower) := by
  constructor
  · intro char first
    rw [List.head?_map, Option.map_eq_some_iff] at first
    rcases first with ⟨original, first, rfl⟩
    rw [isBlank_toLower]
    exact trimmed.1 original first
  · intro char last
    rw [List.getLast?_map, Option.map_eq_some_iff] at last
    rcases last with ⟨original, last, rfl⟩
    rw [isBlank_toLower]
    exact trimmed.2 original last

theorem isStored_normalize (address : String) : IsStored (normalize address) where
  trimmed := by
    rcases trimChars_spec address.toList with ⟨-, -, -, -, -, trimmed⟩
    rw [normalize, lowerAscii, trim, String.toList_ofList, String.toList_ofList]
    exact isTrimmed_map_toLower trimmed
  folded := by
    have twice : Char.toLower ∘ Char.toLower = Char.toLower := funext toLower_toLower
    simp only [normalize, lowerAscii, String.toList_ofList, List.map_map, twice]

/-! ## Validity -/

theorem isValid_lowerAscii (address : String) : isValid (lowerAscii address) = isValid address := by
  have blank : isBlank ∘ Char.toLower = isBlank := funext isBlank_toLower
  have contains : ∀ chars : List Char,
      (chars.map Char.toLower).contains '@' = chars.contains '@' := by
    intro chars
    rw [Bool.eq_iff_iff, List.contains_iff_mem, List.contains_iff_mem, List.mem_map]
    simp [toLower_eq_iff '@' (by decide)]
  have last : ∀ chars : List Char,
      ((chars.map Char.toLower).getLast? != some '.') = (chars.getLast? != some '.') := by
    intro chars
    rw [Bool.eq_iff_iff, bne_iff_ne, bne_iff_ne, List.getLast?_map]
    simp [toLower_eq_iff '.' (by decide)]
  unfold isValid lowerAscii
  simp only [String.toList_ofList, List.any_map, blank,
    splitOnce_map_toLower '@' (by decide)]
  split
  · rfl
  · cases splitOnce '@' address.toList with
    | none => rfl
    | some parts =>
        simp only [Option.map_some, List.isEmpty_map, contains, last,
          splitOnce_map_toLower '.' (by decide)]
        cases splitOnce '.' parts.2 with
        | none => rfl
        | some names => simp only [Option.map_some, List.isEmpty_map]

/-- Whether the trimmed form of an address is valid can be told from its stored spelling. -/
theorem isValid_normalize (address : String) :
    isValid (normalize address) = isValid (trim address) :=
  isValid_lowerAscii (trim address)

theorem isValid_trim_congr {address other : String}
    (same : normalize address = normalize other) :
    isValid (trim address) = isValid (trim other) := by
  rw [← isValid_normalize, same, isValid_normalize]

/-! ## The language of addresses -/

/-- What is behind the at sign of an address: it has a dot, and neither begins nor ends with one. -/
structure IsDomain (domain : List Char) : Prop where
  dotted : '.' ∈ domain
  first : domain.head? ≠ some '.'
  last : domain.getLast? ≠ some '.'

/-- A text without blanks and with one at sign, which has something before it and a domain behind
it. -/
structure IsAddress (address : String) : Prop where
  unblank : ∀ char ∈ address.toList, isBlank char = false
  once : address.toList.count '@' = 1
  parts : ∃ localPart domain, address.toList = localPart ++ '@' :: domain ∧ localPart ≠ [] ∧
    IsDomain domain

/-- The first dot cuts a domain into two names that are not empty. Of the second one this says no
more than the condition on the end of the domain does. -/
theorem isDomain_iff {domain : List Char} : IsDomain domain ↔
    (∃ host top, splitOnce '.' domain = some (host, top) ∧ host ≠ [] ∧ top ≠ []) ∧
      domain.getLast? ≠ some '.' := by
  constructor
  · rintro ⟨dotted, first, last⟩
    rcases exists_splitOnce dotted with ⟨host, top, split⟩
    rcases of_splitOnce split with ⟨rfl, -⟩
    refine ⟨⟨host, top, split, ?_, ?_⟩, last⟩
    · rintro rfl
      exact first rfl
    · rintro rfl
      exact last (by simp)
  · rintro ⟨⟨host, top, split, named, -⟩, last⟩
    rcases of_splitOnce split with ⟨rfl, absent⟩
    refine ⟨by simp, fun first => ?_, last⟩
    cases host with
    | nil => exact named rfl
    | cons char host =>
        have isDot : char = '.' := Option.some.inj first
        exact absent (isDot ▸ List.mem_cons_self)

theorem isValid_eq_true_iff {address : String} : isValid address = true ↔
    (∀ char ∈ address.toList, isBlank char = false) ∧
      ∃ localPart domain, splitOnce '@' address.toList = some (localPart, domain) ∧
        localPart ≠ [] ∧ '@' ∉ domain ∧ IsDomain domain := by
  simp only [isDomain_iff]
  unfold isValid
  dsimp only
  cases splitOnce '@' address.toList with
  | none => simp
  | some parts =>
      rcases parts with ⟨localPart, domain⟩
      cases found : splitOnce '.' domain with
      | none => simp [found]
      | some names => simp [found, and_assoc, Prod.ext_iff]

/-- The check accepts the language. It cuts at the first at sign, behind which there is another one
exactly if the address has more than one. -/
theorem isValid_iff_isAddress {address : String} : isValid address = true ↔ IsAddress address := by
  rw [isValid_eq_true_iff]
  constructor
  · rintro ⟨unblank, localPart, domain, split, some, single, isDomain⟩
    rcases of_splitOnce split with ⟨whole, absent⟩
    refine ⟨unblank, ?_, localPart, domain, whole, some, isDomain⟩
    rw [whole, List.count_append, List.count_cons_self, List.count_eq_zero.mpr absent,
      List.count_eq_zero.mpr single]
  · rintro ⟨unblank, once, localPart, domain, whole, some, isDomain⟩
    rw [whole, List.count_append, List.count_cons_self] at once
    have absent : '@' ∉ localPart := List.count_eq_zero.mp (by omega)
    have single : '@' ∉ domain := List.count_eq_zero.mp (by omega)
    refine ⟨unblank, localPart, domain, ?_, some, single, isDomain⟩
    rw [whole, splitOnce_of_not_mem absent]

instance (address : String) : Decidable (IsAddress address) :=
  decidable_of_iff _ isValid_iff_isAddress

example : IsAddress "..@[127.0.0.1]" := by decide +kernel

example : ¬IsAddress "ada@localhost" := by decide +kernel

end AuthServer.Email
