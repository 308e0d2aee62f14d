import AuthServer.Http.Message
import AuthServer.Proofs.Text.Utf8

/-!
A header is found under its name however the name is spelled, and a printable text goes through it
unchanged.
-/

namespace AuthServer

theorem Request.header?_eq {request : Request} {spelled name : String} {value : List UInt8}
    {others : List (String × List UInt8)} (sent : request.headers = (spelled, value) :: others)
    (same : Text.lowerAscii spelled = name) : request.header? name = some value := by
  simp [header?, sent, same]

def IsPrintable (char : Char) : Prop :=
  0x20 ≤ char.toNat ∧ char.toNat ≤ 0x7E

namespace IsPrintable

variable {char : Char}

theorem encode (printable : IsPrintable char) :
    String.utf8EncodeChar char = [UInt8.ofNat char.toNat] :=
  Utf8.utf8EncodeChar_of_lt char (Nat.lt_of_le_of_lt printable.2 (by decide))

theorem toNat_ofNat (printable : IsPrintable char) :
    (UInt8.ofNat char.toNat).toNat = char.toNat := by
  rw [UInt8.toNat_ofNat']
  exact Nat.mod_eq_of_lt (Nat.lt_of_le_of_lt printable.2 (by decide))

theorem isAllowed (printable : IsPrintable char) :
    0x20 ≤ UInt8.ofNat char.toNat ∧ UInt8.ofNat char.toNat ≤ 0x7E := by
  rw [UInt8.le_iff_toNat_le, UInt8.le_iff_toNat_le, printable.toNat_ofNat]
  exact printable

end IsPrintable

theorem headerText?_encode {text : String} (printable : ∀ char ∈ text.toList, IsPrintable char) :
    headerText? (Utf8.encode text) = some text := by
  have bytes : ∀ chars : List Char, (∀ char ∈ chars, IsPrintable char) →
      chars.flatMap String.utf8EncodeChar = chars.map fun char => UInt8.ofNat char.toNat := by
    intro chars
    induction chars with
    | nil => simp
    | cons char chars induction =>
        intro each
        rw [List.flatMap_cons, (each char (by simp)).encode,
          induction fun other member => each other (List.mem_cons_of_mem _ member)]
        rfl
  have back : text.toList.map (fun char => Char.ofNat (UInt8.ofNat char.toNat).toNat) =
      text.toList := by
    rw [List.map_congr_left fun char member => by
      rw [(printable char member).toNat_ofNat, Char.ofNat_toNat]]
    simp
  rw [Utf8.encode_eq_flatMap, bytes _ printable, headerText?, if_pos]
  · rw [List.map_map]
    exact congrArg some ((congrArg String.ofList back).trans (String.ofList_toList))
  · simp only [List.all_map, List.all_eq_true, Function.comp_apply, Bool.or_eq_true,
      Bool.and_eq_true, decide_eq_true_eq]
    exact fun char member => .inl (printable char member).isAllowed

end AuthServer
