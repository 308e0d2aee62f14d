import AuthServer.Encoding.Pem
import AuthServer.Proofs.Encoding.Base64
import AuthServer.Proofs.Text.Utf8

/-!
A block in armour is read back: its markers are found one after the other, since nothing between
them starts like one.
-/

namespace AuthServer.Pem

variable {sought reversed rest : List UInt8} {first : UInt8}

private theorem go_skip {later before : List UInt8} (absent : first ∉ before) :
    splitAt.go (first :: later) (first :: later) reversed (before ++ rest) =
      splitAt.go (first :: later) (first :: later) (before.reverse ++ reversed) rest := by
  induction before generalizing reversed with
  | nil => rfl
  | cons byte before induction =>
      rcases not_or.mp (mt List.mem_cons.mpr absent) with ⟨different, absent⟩
      have step : splitAt.go (first :: later) (first :: later) reversed
          (byte :: (before ++ rest)) =
            splitAt.go (first :: later) (first :: later) (byte :: reversed) (before ++ rest) := by
        cases later <;> simp [splitAt.go, Ne.symm different]
      rw [List.cons_append, step, induction absent]
      simp

private theorem go_found (wanted : List UInt8) (some : wanted ≠ []) :
    splitAt.go sought wanted reversed (wanted ++ rest) =
      .some (((wanted.reverse ++ reversed).drop sought.length).reverse, rest) := by
  induction wanted generalizing reversed with
  | nil => exact absurd rfl some
  | cons byte wanted induction =>
      cases wanted with
      | nil => simp [splitAt.go]
      | cons next wanted =>
          have step : splitAt.go sought (byte :: next :: wanted) reversed
              (byte :: (next :: wanted ++ rest)) =
                splitAt.go sought (next :: wanted) (byte :: reversed) (next :: wanted ++ rest) := by
            simp [splitAt.go]
          rw [List.cons_append, step, induction (by simp)]
          simp

theorem splitAt_append (starts : sought.head? = some first) {before : List UInt8}
    (absent : first ∉ before) (rest : List UInt8) :
    splitAt sought (before ++ (sought ++ rest)) = some (before, rest) := by
  cases sought with
  | nil => simp at starts
  | cons byte later =>
      cases starts
      rw [splitAt, go_skip absent, go_found _ (by simp), List.drop_left' List.length_reverse]
      simp

theorem splitAt_eq_none (starts : sought.head? = some first) {bytes : List UInt8}
    (absent : first ∉ bytes) : splitAt sought bytes = none := by
  cases sought with
  | nil => simp at starts
  | cons byte later =>
      cases starts
      have skipped : splitAt.go (first :: later) (first :: later) [] (bytes ++ []) = _ :=
        go_skip absent
      rw [List.append_nil] at skipped
      rw [splitAt, skipped]
      cases later <;> simp [splitAt.go]

def data (contents : List UInt8) : String :=
  String.ofList (Base64.encode .standard contents) ++ "\n"

def armour (label : String) (contents : List UInt8) : List UInt8 :=
  marker "-----BEGIN " ++ (Utf8.encode label ++ (marker "-----" ++ (0x0A ::
    (Utf8.encode (data contents) ++ (marker "-----END " ++ (Utf8.encode label ++
      (marker "-----" ++ [])))))))

/-- The characters of the standard alphabet are none of those that armour is made of. -/
theorem char_standard {value : Nat} (small : value < 64) :
    let char := Base64.Alphabet.standard.char value
    Text.isBlank char = false ∧ char ≠ '-' := by
  revert value
  decide

theorem of_mem_encode {contents : List UInt8} {char : Char}
    (member : char ∈ Base64.encode .standard contents) :
    Text.isBlank char = false ∧ char ≠ '-' := by
  rw [Base64.encode_eq_map] at member
  rcases List.mem_map.mp member with ⟨value, valueMember, rfl⟩
  exact char_standard (Base64.values_lt contents value valueMember)

theorem not_mem_encode {byte : UInt8} (special : byte ∈ [0x2D, 0x20, 0x09, 0x0A, 0x0D])
    (contents : List UInt8) :
    byte ∉ Utf8.encode (String.ofList (Base64.encode .standard contents)) := by
  intro member
  simp only [List.mem_cons, List.not_mem_nil, or_false] at special
  have ascii : byte.toNat < 128 := by
    rcases special with rfl | rfl | rfl | rfl | rfl <;> decide
  have charMember := Utf8.ofNat_mem_of_mem_encode member ascii
  rw [String.toList_ofList] at charMember
  rcases of_mem_encode charMember with ⟨notBlank, notDash⟩
  rcases special with rfl | rfl | rfl | rfl | rfl
  · exact notDash rfl
  all_goals cases notBlank

theorem encode_newline : Utf8.encode "\n" = [0x0A] := by
  decide +kernel

theorem encode_data (contents : List UInt8) : Utf8.encode (data contents) =
    Utf8.encode (String.ofList (Base64.encode .standard contents)) ++ [0x0A] := by
  rw [data, Utf8.encode_append, encode_newline]

/-- The data has no empty line, so that there are no headers before it. -/
theorem splitHeaders_data (contents : List UInt8) :
    splitHeaders (Utf8.encode (data contents)) = ([], Utf8.encode (data contents)) := by
  have feeds : splitAt [0x0A, 0x0A] (Utf8.encode (data contents)) = none := by
    rw [encode_data, splitAt, go_skip (not_mem_encode (by decide) contents)]
    rfl
  have returns : splitAt [0x0D, 0x0A, 0x0D, 0x0A] (Utf8.encode (data contents)) = none := by
    apply splitAt_eq_none rfl
    rw [encode_data, List.mem_append, not_or]
    exact ⟨not_mem_encode (by decide) contents, by decide⟩
  rw [splitHeaders, feeds]
  simp only [returns]

theorem dropBlanks_data {contents : List UInt8} (some : contents ≠ []) (rest : List UInt8) :
    dropBlanks (0x0A :: (Utf8.encode (data contents) ++ rest)) =
      Utf8.encode (data contents) ++ rest := by
  rw [encode_data]
  cases bytes : Utf8.encode (String.ofList (Base64.encode .standard contents)) with
  | nil =>
      have empty : String.ofList (Base64.encode .standard contents) = "" :=
        Utf8.encode_injective (bytes.trans Utf8.encode_empty.symm)
      exact absurd (String.ofList_eq_empty_iff.mp empty)
        (Base64.encode_ne_nil .standard contents some)
  | cons byte later =>
      have notBlank : ∀ blank ∈ [0x20, 0x09, 0x0A, 0x0D], byte ≠ blank := by
        rintro blank listed rfl
        apply not_mem_encode (List.mem_cons_of_mem _ listed) contents
        simp [bytes]
      simp only [List.forall_mem_cons] at notBlank
      simp [dropBlanks, notBlank]

private theorem bind_of_eq {α β : Type} {step : Option α} {next : α → Option β} {value : α}
    (found : step = some value) : (step >>= next) = next value := by
  rw [found]
  rfl

theorem read_armour (label : String) (named : label.isEmpty = false)
    (plain : 0x2D ∉ Utf8.encode label) {contents : List UInt8} (some : contents ≠ [])
    (whole : contents.length % 3 = 0) :
    read (armour label contents) = .some ⟨label, contents⟩ := by
  have noDash : 0x2D ∉ Utf8.encode (data contents) := by
    rw [encode_data, List.mem_append, not_or]
    exact ⟨not_mem_encode (by decide) contents, by decide⟩
  have start := splitAt_append (show (marker "-----BEGIN ").head? = .some 0x2D by decide +kernel)
    List.not_mem_nil
  have opened := splitAt_append (show (marker "-----").head? = .some 0x2D by decide +kernel) plain
  have body := splitAt_append (show (marker "-----END ").head? = .some 0x2D by decide +kernel)
    noDash
  have decoded : Base64.decodePadded .standard
      ((data contents).toList.filter fun char => !Text.isBlank char) = .some contents := by
    have kept : (data contents).toList.filter (fun char => !Text.isBlank char) =
        Base64.encode .standard contents := by
      rw [data, String.toList_append, String.toList_ofList, List.filter_append,
        List.filter_eq_self.mpr fun char member => by simp [(of_mem_encode member).1]]
      simp [show Text.isBlank '\n' = true from rfl]
    rw [kept, Base64.decodePadded_encode .standard whole]
  have bare : Utf8.decode [] = .some "" := Utf8.encode_empty ▸ Utf8.decode_encode ""
  have labelled : (!label.isEmpty && Utf8.encode label == Utf8.encode label) = true := by
    simp [named]
  have valid : headersAreValid "" = true := by decide
  simp only [List.nil_append] at start
  -- the steps of the reader, one after the other
  rw [armour]
  refine (bind_of_eq (start _)).trans ?_
  refine (bind_of_eq (opened _)).trans ?_
  refine (bind_of_eq ((congrArg _ (dropBlanks_data some _)).trans (body _))).trans ?_
  refine (bind_of_eq (opened _)).trans ?_
  dsimp only
  rw [splitHeaders_data]
  refine (bind_of_eq (Utf8.decode_encode label)).trans ?_
  refine (bind_of_eq (if_pos labelled)).trans ?_
  refine (bind_of_eq (Utf8.decode_encode (data contents))).trans ?_
  refine (bind_of_eq bare).trans ?_
  refine (bind_of_eq (if_pos valid)).trans ?_
  exact bind_of_eq decoded

end AuthServer.Pem
