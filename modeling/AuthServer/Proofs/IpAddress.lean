import AuthServer.IpAddress
import AuthServer.Proofs.Text.Blank
import AuthServer.Proofs.Text.Numeral

/-!
Addresses of both families are read back from what is written. Octets are read in no other form.
Groups are told apart by colons, and the gap that stands for zeros is the only place where two of
them meet.
-/

namespace AuthServer

open Text (splitAll)

/-- What is read item by item is written by the items, if each is read in one form only. -/
theorem eq_map_of_mapM {α β : Type} {read : α → Option β} {write : β → α}
    (written : ∀ item value, read item = some value → item = write value) {items : List α}
    {values : List β} (all : items.mapM read = some values) : items = values.map write := by
  induction items generalizing values with
  | nil =>
      cases all
      rfl
  | cons item items induction =>
      rw [List.mapM_cons] at all
      obtain ⟨value, first, others⟩ := Option.bind_eq_some_iff.mp all
      obtain ⟨rest, later, joined⟩ := Option.bind_eq_some_iff.mp others
      cases joined
      rw [List.map_cons, ← written item value first, ← induction later]

/-! ## Octets -/

namespace Octets

theorem readOne_written (octet : UInt8) : readOne (Nat.toDigits 10 octet.toNat) = some octet := by
  have all : ∀ value < 256, readOne (Nat.toDigits 10 value) = some (UInt8.ofNat value) := by
    decide +kernel
  rw [all _ octet.toNat_lt, UInt8.ofNat_toNat]

theorem eq_of_readOne {chars : List Char} {octet : UInt8} (read : readOne chars = some octet) :
    chars = Nat.toDigits 10 octet.toNat := by
  unfold readOne at read
  split at read
  next => cases read
  next => cases read
  next nonempty unpadded =>
    split at read
    · rcases Option.map_eq_some_iff.mp read with ⟨value, kept, rfl⟩
      rcases Option.filter_eq_some_iff.mp kept with ⟨digits, small⟩
      cases chars with
      | nil => exact absurd rfl nonempty
      | cons char rest =>
          have bare : char = '0' → rest = [] := by
            rintro rfl
            cases rest with
            | nil => rfl
            | cons next rest => exact absurd rfl (unpadded next rest)
          rw [Text.eq_toDigits_of_readDigits bare digits,
            UInt8.toNat_ofNat_of_lt' (by simpa using small)]
    · cases read

theorem toList_text (octets : Octets) :
    octets.text.toList = ['.'].intercalate
      ([octets.first, octets.second, octets.third, octets.fourth].map
        fun octet => Nat.toDigits 10 octet.toNat) := by
  simp [text]

theorem not_mem_written {mark : Char} (other : mark.isDigit = false) (octet : UInt8) :
    mark ∉ Nat.toDigits 10 octet.toNat := by
  intro member
  rw [(Text.AreDigits.toDigits octet.toNat).isDigit mark member] at other
  cases other

theorem read_text (octets : Octets) : read octets.text.toList = some octets := by
  rw [read, toList_text, Text.splitAll_intercalate (by simp [not_mem_written]) (by simp)]
  simp [readOne_written]

theorem colon_not_mem_text (octets : Octets) : ':' ∉ octets.text.toList := by
  simp [toList_text, List.intercalate_cons_cons, not_mem_written]

/-- Octets are read only in the form in which they are written. -/
theorem read_eq_some_iff {chars : List Char} {octets : Octets} :
    read chars = some octets ↔ chars = octets.text.toList := by
  constructor
  · intro known
    unfold read at known
    split at known
    next first second third fourth pieces =>
      cases known
      rw [← Text.intercalate_splitAll '.' chars, toList_text,
        eq_map_of_mapM (fun _ _ => eq_of_readOne) pieces]
    next => cases known
  · rintro rfl
    exact read_text octets

theorem read_eq_none {chars : List Char} (other : ∀ octets : Octets, chars ≠ octets.text.toList) :
    read chars = none :=
  Option.eq_none_iff_forall_ne_some.mpr fun octets known =>
    other octets (read_eq_some_iff.mp known)

theorem read_of_colon {chars : List Char} (member : ':' ∈ chars) : read chars = none :=
  read_eq_none fun octets written => colon_not_mem_text octets (written ▸ member)

theorem read_of_not_mem {chars : List Char} (absent : '.' ∉ chars) : read chars = none :=
  read_eq_none fun octets written =>
    absent (by simp [written, toList_text, List.intercalate_cons_cons])

theorem groups_ofGroups (high low : UInt16) : (ofGroups high low).groups = [high, low] := by
  have joined (group : UInt16) :
      UInt16.ofNat (256 * (UInt8.ofNat (group.toNat / 256)).toNat +
        (UInt8.ofNat (group.toNat % 256)).toNat) = group := by
    have small := group.toNat_lt
    rw [← UInt16.toNat_inj]
    simp only [UInt16.toNat_ofNat', UInt8.toNat_ofNat']
    omega
  simp only [groups, ofGroups, joined]

end Octets

namespace IpAddress

/-! ## Groups -/

def digits (group : UInt16) : List Char :=
  Nat.toDigits 16 group.toNat

theorem not_mem_digits {mark : Char} (other : Text.hexValue? mark = none) (group : UInt16) :
    mark ∉ digits group :=
  Text.not_mem_of_readHexDigits (Text.readHexDigits_toDigits _) other

theorem colon_not_mem_digits (group : UInt16) : ':' ∉ digits group :=
  not_mem_digits (by decide) group

theorem digits_ne_nil (group : UInt16) : digits group ≠ [] :=
  Nat.toDigits_ne_nil

theorem readGroup_digits (group : UInt16) : readGroup (digits group) = some group := by
  have few : (digits group).length ≤ 4 :=
    (Nat.length_toDigits_le_iff (by decide) (by decide)).mpr group.toNat_lt
  have bounded : ((digits group).isEmpty || decide (4 < (digits group).length)) = false := by
    simp [digits_ne_nil, few]
  rw [readGroup, bounded, digits, Text.readHexDigits_toDigits]
  simp

theorem readGroups_digits (groups : List UInt16) :
    readGroups (groups.map digits) = some groups := by
  induction groups with
  | nil => rfl
  | cons group groups induction =>
      cases groups with
      | nil =>
          simp [readGroups, readGroup_digits,
            Octets.read_of_not_mem (not_mem_digits (by decide) group)]
      | cons next groups =>
          rw [List.map_cons, List.map_cons, readGroups, readGroup_digits, ← List.map_cons,
            induction]
          · rfl
          · simp

theorem mapM_readGroup_digits (groups : List UInt16) :
    (groups.map digits).mapM readGroup = some groups := by
  induction groups with
  | nil => rfl
  | cons group groups induction =>
      simp [List.mapM_cons, readGroup_digits, induction]

theorem toList_groupsText (groups : List UInt16) :
    (groupsText groups).toList = [':'].intercalate (groups.map digits) := by
  simp only [groupsText, Text.hexText, String.toList_intercalate, List.map_map, Function.comp_def,
    String.toList_ofList]
  rfl

theorem toList_groupsText_cons (group next : UInt16) (groups : List UInt16) :
    (groupsText (group :: next :: groups)).toList =
      digits group ++ ':' :: (groupsText (next :: groups)).toList := by
  simp [toList_groupsText, List.intercalate_cons_cons]

theorem splitAll_groupsText {groups : List UInt16} (some : groups ≠ []) :
    splitAll ':' (groupsText groups).toList = groups.map digits := by
  rw [toList_groupsText, Text.splitAll_intercalate _ (by simpa using some)]
  simp [colon_not_mem_digits]

theorem exists_groupsText (group : UInt16) (groups : List UInt16) :
    ∃ char chars, (groupsText (group :: groups)).toList = char :: chars ∧ char ≠ ':' := by
  rcases List.exists_cons_of_ne_nil (digits_ne_nil group) with ⟨char, chars, split⟩
  have notColon : char ≠ ':' := by
    rintro rfl
    exact colon_not_mem_digits group (by simp [split])
  cases groups with
  | nil => exact ⟨char, chars, by simp [toList_groupsText, split], notColon⟩
  | cons next groups =>
      exact ⟨char, _, by rw [toList_groupsText_cons, split, List.cons_append], notColon⟩

theorem isEmpty_groupsText (groups : List UInt16) :
    (groupsText groups).toList.isEmpty = groups.isEmpty := by
  cases groups with
  | nil => rfl
  | cons group groups =>
      rcases exists_groupsText group groups with ⟨char, chars, starts, -⟩
      rw [starts]
      rfl

theorem readFront_groupsText (groups : List UInt16) :
    readFront (groupsText groups).toList = some groups := by
  rw [readFront, isEmpty_groupsText]
  cases groups with
  | nil => rfl
  | cons group groups =>
      rw [splitAll_groupsText (by simp), mapM_readGroup_digits]
      rfl

theorem readBack_groupsText (groups : List UInt16) :
    readBack (groupsText groups).toList = some groups := by
  rw [readBack, isEmpty_groupsText]
  cases groups with
  | nil => rfl
  | cons group groups =>
      rw [splitAll_groupsText (by simp), readGroups_digits]
      rfl

/-! ## The gap -/

theorem splitGap_cons {char : Char} {rest : List Char}
    (single : char = ':' → rest.head? ≠ some ':') :
    splitGap (char :: rest) = (splitGap rest).map fun gap => (char :: gap.1, gap.2) := by
  rw [splitGap]
  rintro after rfl rfl
  exact single rfl rfl

theorem splitGap_append {front : List Char} (absent : ':' ∉ front) (rest : List Char) :
    splitGap (front ++ rest) = (splitGap rest).map fun gap => (front ++ gap.1, gap.2) := by
  induction front with
  | nil => simp
  | cons char front induction =>
      rw [List.mem_cons, not_or] at absent
      rw [List.cons_append, splitGap_cons (fun isColon => absurd isColon.symm absent.1),
        induction absent.2, Option.map_map]
      rfl

/-- Groups stand before every gap that follows them and have none of their own. -/
theorem splitGap_groupsText (groups : List UInt16) (rest : List Char) :
    splitGap ((groupsText groups).toList ++ rest) =
      (splitGap rest).map fun gap => ((groupsText groups).toList ++ gap.1, gap.2) := by
  induction groups with
  | nil => simp [groupsText]
  | cons group groups induction =>
      cases groups with
      | nil =>
          simpa [toList_groupsText] using splitGap_append (colon_not_mem_digits group) rest
      | cons next groups =>
          have single : ((groupsText (next :: groups)).toList ++ rest).head? ≠ some ':' := by
            rcases exists_groupsText next groups with ⟨char, chars, starts, notColon⟩
            simpa [starts] using notColon
          rw [toList_groupsText_cons, List.append_assoc,
            splitGap_append (colon_not_mem_digits group), List.cons_append,
            splitGap_cons fun _ => single, induction]
          simp [Function.comp_def]

/-! ## The longest run of zeros -/

theorem replicate_leadingZeros (groups : List UInt16) :
    List.replicate (leadingZeros groups) 0 ++ groups.drop (leadingZeros groups) = groups := by
  induction groups with
  | nil => rfl
  | cons group groups induction =>
      by_cases isZero : group = 0
      · subst isZero
        simpa [leadingZeros, List.replicate_succ] using induction
      · simp [leadingZeros, isZero]

theorem longestGap_zeros (groups : List UInt16) :
    (longestGap groups).2 = 0 ∨
      (longestGap groups).2 = leadingZeros (groups.drop (longestGap groups).1) := by
  unfold longestGap
  refine List.foldlRecOn (motive := fun best : Nat × Nat =>
    best.2 = 0 ∨ best.2 = leadingZeros (groups.drop best.1)) _ _ (.inl rfl) ?_
  intro best known start _
  dsimp only
  split
  · exact .inr rfl
  · exact known

theorem split_at_longestGap (groups : List UInt16) :
    groups.take (longestGap groups).1 ++ List.replicate (longestGap groups).2 0 ++
      groups.drop ((longestGap groups).1 + (longestGap groups).2) = groups := by
  have gap : List.replicate (longestGap groups).2 0 ++
      (groups.drop (longestGap groups).1).drop (longestGap groups).2 =
        groups.drop (longestGap groups).1 := by
    rcases longestGap_zeros groups with none | zeros
    · simp [none]
    · rw [zeros, replicate_leadingZeros]
  rw [List.append_assoc, ← List.drop_drop, gap, List.take_append_drop]

/-! ## Whole addresses -/

theorem colon_mem_groupsText {groups : List UInt16} (several : 1 < groups.length) :
    ':' ∈ (groupsText groups).toList := by
  match groups, several with
  | group :: next :: groups, _ => simp [toList_groupsText_cons]

theorem readV6_groupsText {groups : List UInt16} (eight : groups.length = 8) :
    readV6 (groupsText groups).toList = some (.v6 groups eight) := by
  have noGap : splitGap (groupsText groups).toList = none := by
    simpa [splitGap] using splitGap_groupsText groups []
  simp [readV6, noGap, readBack_groupsText, eight]

/-- The gap stands for the zeros that make up for the missing groups. -/
theorem readV6_of_splitGap {chars before after : List Char} {front back groups : List UInt16}
    {zeros : Nat} (gap : splitGap chars = some (before, after))
    (frontRead : readFront before = some front) (backRead : readBack after = some back)
    (positive : 1 ≤ zeros) (split : front ++ List.replicate zeros 0 ++ back = groups)
    (eight : groups.length = 8) : readV6 chars = some (.v6 groups eight) := by
  subst split
  have lengths : front.length + zeros + back.length = 8 := by
    simpa [Nat.add_assoc] using eight
  have few : front.length + back.length ≤ 7 := by omega
  have missing : 8 - front.length - back.length = zeros := by omega
  simp [readV6, gap, frontRead, backRead, few, missing]

theorem readV6_gap {front back groups : List UInt16} {zeros : Nat} (positive : 1 ≤ zeros)
    (split : front ++ List.replicate zeros 0 ++ back = groups) (eight : groups.length = 8) :
    readV6 ((groupsText front).toList ++ "::".toList ++ (groupsText back).toList) =
      some (.v6 groups eight) := by
  refine readV6_of_splitGap ?_ (readFront_groupsText front) (readBack_groupsText back) positive
    split eight
  simp [splitGap_groupsText, splitGap]

theorem readV6_mapped (high low : UInt16) :
    readV6 ("::ffff:".toList ++ (Octets.ofGroups high low).text.toList) =
      some (.v6 [0, 0, 0, 0, 0, 0xFFFF, high, low] rfl) := by
  have pieces : splitAll ':' ("ffff:".toList ++ (Octets.ofGroups high low).text.toList) =
      ["ffff".toList, (Octets.ofGroups high low).text.toList] := by
    rw [show "ffff:".toList = "ffff".toList ++ [':'] from rfl, List.append_assoc,
      List.singleton_append, Text.splitAll_append_front (by decide), Text.splitAll_cons,
      if_pos rfl, Text.splitAll_of_not_mem (Octets.colon_not_mem_text _)]
    rfl
  have backRead : readBack ("ffff:".toList ++ (Octets.ofGroups high low).text.toList) =
      some [0xFFFF, high, low] := by
    have first : readGroup "ffff".toList = some 0xFFFF := by decide
    have last : readGroups [(Octets.ofGroups high low).text.toList] = some [high, low] := by
      simp only [readGroups, Octets.read_text, Octets.groups_ofGroups]
    rw [readBack, pieces, readGroups, first, last]
    · rfl
    · simp
  exact readV6_of_splitGap rfl (show readFront [] = some [] from rfl) backRead
    (show 1 ≤ 5 by decide) rfl rfl

theorem read_of_colon {text : String} (member : ':' ∈ text.toList) :
    read text = readV6 text.toList := by
  rw [read, Octets.read_of_colon member]

theorem read_v6Text {groups : List UInt16} (eight : groups.length = 8) :
    read (v6Text groups) = some (.v6 groups eight) := by
  fun_cases v6Text groups with
  | case1 high low =>
      rw [read_of_colon (by simp), String.toList_append, readV6_mapped]
  | case2 _ _ start length gap several =>
      have split := split_at_longestGap groups
      rw [gap] at split
      rw [read_of_colon (by simp), String.toList_append, String.toList_append]
      exact readV6_gap (Nat.le_of_lt several) split eight
  | case3 _ _ start length gap few =>
      rw [read_of_colon (colon_mem_groupsText (by omega)), readV6_groupsText eight]

/-- Every address is read back from what is written. -/
theorem read_text (address : IpAddress) : read address.text = some address := by
  cases address with
  | v4 octets => simp [read, text, Octets.read_text]
  | v6 groups eight => exact read_v6Text eight

end IpAddress

end AuthServer
