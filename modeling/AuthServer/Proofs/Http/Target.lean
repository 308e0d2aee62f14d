import AuthServer.Http.Target
import AuthServer.Proofs.Text.Blank
import AuthServer.Proofs.Text.Utf8
import AuthServer.Text.Uuid
import Mathlib.Data.List.TakeWhile

/-!
Paths and their segments. A path can be told from its segments, and some segments stand for
themselves, as random identifiers do: they are made of digits and hyphens, so that neither the path
nor the percent signs change them.
-/

namespace AuthServer.Target

open Text

theorem of_segments? {path : String} {segments : List String}
    (found : segments? path = some segments) :
    ∃ rest, path.toList = '/' :: rest ∧ splitAll '/' rest = segments.map String.toList := by
  unfold segments? at found
  split at found
  · rename_i rest slash
    cases found
    exact ⟨rest, slash, by simp [Function.comp_def]⟩
  · cases found

theorem segments?_inj {first second : String} {segments : List String}
    (found : segments? first = some segments) (other : segments? second = some segments) :
    first = second := by
  rcases of_segments? found with ⟨rest, slash, pieces⟩
  rcases of_segments? other with ⟨otherRest, otherSlash, otherPieces⟩
  rw [← String.toList_inj, slash, otherSlash,
    splitAll_injective (pieces.trans otherPieces.symm)]

def IsPlain (segment : String) : Prop :=
  ∀ char ∈ segment.toList, char ∉ ['/', '?', '#', '%']

theorem percentDecodeBytes_of_not_mem {bytes : List UInt8} (absent : 0x25 ∉ bytes) :
    percentDecodeBytes bytes = bytes := by
  induction bytes with
  | nil => rw [percentDecodeBytes]
  | cons byte rest induction =>
      rw [List.mem_cons, not_or] at absent
      rcases absent with ⟨other, absent⟩
      rw [percentDecodeBytes.eq_2, induction absent]
      intro high low rest same
      cases same
      exact absurd rfl other

theorem IsPlain.percentDecode?_eq {segment : String} (plain : IsPlain segment) :
    percentDecode? segment = some segment := by
  rw [percentDecode?, percentDecodeBytes_of_not_mem, Utf8.decode_encode]
  intro member
  exact plain _ (Utf8.ofNat_mem_of_mem_encode member (by decide)) (by decide)

theorem IsPlain.segments?_users {segment : String} (plain : IsPlain segment) :
    segments? (path ("/users/" ++ segment)) = some ["users", segment] := by
  have whole : ("/users/" ++ segment).toList = '/' :: ("users/".toList ++ segment.toList) := by
    simp
  have kept : dropQuery ("/users/" ++ segment).toList = ("/users/" ++ segment).toList := by
    rw [dropQuery, List.takeWhile_eq_self_iff]
    intro char member
    rw [String.toList_append, List.mem_append] at member
    rcases member with front | member
    · have unmarked : "/users/".toList.all (fun char => char != '?' && char != '#') := by
        decide +kernel
      exact List.all_eq_true.mp unmarked char front
    · have unmarked := plain char member
      simp only [List.mem_cons, not_or] at unmarked
      simp [unmarked]
  have isPath : path ("/users/" ++ segment) = "/users/" ++ segment := by
    rw [path]
    simp only [whole] at kept ⊢
    rw [kept, ← whole, String.ofList_toList]
  have alone : splitAll '/' segment.toList = [segment.toList] :=
    splitAll_of_not_mem fun member => plain _ member (by decide)
  rw [isPath, segments?, whole]
  simp [splitAll, alone]

end AuthServer.Target

namespace AuthServer.Uuid

theorem hexDigit_plain {value : Nat} (small : value < 16) :
    Text.hexDigit value ∉ ['/', '?', '#', '%'] := by
  revert value
  decide

/-- An identifier consists of hexadecimal digits and hyphens, none of which means anything in a
path. -/
theorem isPlain_ofBytes (bytes : List UInt8) : Target.IsPlain (ofBytes bytes) := by
  intro char member
  have group : ∀ bytes : List UInt8, char ∈ (hex bytes).toList → char ∉ ['/', '?', '#', '%'] := by
    intro bytes inside
    rw [hex, String.toList_ofList, List.mem_flatMap] at inside
    rcases inside with ⟨byte, -, inside⟩
    have high : byte.toNat / 16 < 16 := by
      have bound := byte.toNat_lt
      omega
    rw [hexPair, List.mem_cons, List.mem_singleton] at inside
    rcases inside with rfl | rfl
    · exact hexDigit_plain high
    · exact hexDigit_plain (Nat.mod_lt _ (by decide))
  have hyphen : char ∈ "-".toList → char ∉ ['/', '?', '#', '%'] := by
    intro mark
    rw [List.mem_singleton.mp mark]
    decide
  unfold ofBytes at member
  simp only [String.intercalate_cons_cons, String.intercalate_singleton, String.toList_append,
    List.mem_append] at member
  rcases member with (inside | mark) | (inside | mark) | (inside | mark) | (inside | mark) | inside
  exacts [group _ inside, hyphen mark, group _ inside, hyphen mark, group _ inside, hyphen mark,
    group _ inside, hyphen mark, group _ inside]

theorem hyphen_mem_ofBytes (bytes : List UInt8) : '-' ∈ (ofBytes bytes).toList := by
  simp [ofBytes]

end AuthServer.Uuid
