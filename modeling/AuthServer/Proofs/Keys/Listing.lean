import AuthServer.Proofs.Keys.Loading
import AuthServer.Proofs.Text.Utf8
import Mathlib.Data.List.TakeWhile

/-!
What of a folder is loaded: the files whose names end in ".pem", each under what comes before that.
Nothing else in the folder matters, and neither does the order in which it is listed.
-/

namespace AuthServer

theorem KeyEntry.failsWith_read (kid : String) (bytes : List UInt8) :
    FailsWith (fun error => (∃ reason, error = .invalidKey kid reason) ∨
      ∃ label, error = .unsupportedLabel kid label) (read kid bytes) := by
  rw [read]
  split
  · rw [ofPem]
    split
    all_goals first
      | exact .elim (.inl ⟨_, rfl⟩)
      | exact .error (.inr ⟨_, rfl⟩)
  · exact .error (.inl ⟨_, rfl⟩)

namespace KeyFolder

variable {entries others : List (List UInt8 × FolderNode)} {name contents : List UInt8}
variable {node : FolderNode} {kid : String}

/-! ## Names -/

private theorem bne_dot {bytes : List UInt8} (dotless : 0x2E ∉ bytes) :
    ∀ byte ∈ bytes.reverse, (byte != (0x2E : UInt8)) = true := by
  intro byte member
  refine bne_iff_ne.mpr ?_
  rintro rfl
  exact dotless (List.mem_reverse.mp member)

theorem kidOf_append {extension : List UInt8} (dotless : 0x2E ∉ extension) (stem : List UInt8) :
    kidOf (stem ++ 0x2E :: extension) =
      if extension = [0x70, 0x65, 0x6D] ∧ stem ≠ [] then Utf8.decode stem else none := by
  have found : (stem ++ 0x2E :: extension).reverse.takeWhile (· != (0x2E : UInt8)) =
      extension.reverse := by
    rw [List.reverse_append, List.reverse_cons, List.append_assoc,
      List.takeWhile_append_of_pos (bne_dot dotless), List.singleton_append,
      List.takeWhile_cons_of_neg (by simp), List.append_nil]
  have length : (stem ++ 0x2E :: extension).length - extension.length - 1 = stem.length := by
    simp only [List.length_append, List.length_cons]
    omega
  simp only [kidOf, found, List.reverse_reverse, length, List.take_left]

theorem kidOf_of_not_mem (dotless : 0x2E ∉ name) : kidOf name = none := by
  have found : name.reverse.takeWhile (· != (0x2E : UInt8)) = name.reverse :=
    List.takeWhile_eq_self_iff.mpr (bne_dot dotless)
  simp [kidOf, found]

theorem exists_extension (dotted : 0x2E ∈ name) :
    ∃ stem extension, name = stem ++ 0x2E :: extension ∧ 0x2E ∉ extension := by
  rcases List.eq_append_cons_of_mem (List.mem_reverse.mpr dotted) with
    ⟨after, before, split, dotless⟩
  refine ⟨before.reverse, after.reverse, ?_, by simpa using dotless⟩
  rw [← List.reverse_reverse name, split]
  simp

/-- A name is that of a key if it is the id and ".pem", and the id is not empty. -/
theorem kidOf_eq_some_iff :
    kidOf name = some kid ↔ kid ≠ "" ∧ name = Utf8.encode (kid ++ ".pem") := by
  have ending : Utf8.encode ".pem" = [0x2E, 0x70, 0x65, 0x6D] := by
    rw [Utf8.encode_eq_flatMap]
    decide
  have notEmpty : Utf8.encode kid ≠ [] ↔ kid ≠ "" := by
    rw [← Utf8.encode_empty, Utf8.encode_injective.ne_iff]
  rw [Utf8.encode_append, ending]
  constructor
  · intro isKey
    by_cases dotted : 0x2E ∈ name
    · rcases exists_extension dotted with ⟨stem, extension, rfl, dotless⟩
      rw [kidOf_append dotless] at isKey
      split at isKey
      · rename_i shape
        rcases shape with ⟨rfl, isSome⟩
        cases Utf8.decode_eq_some_iff.mp isKey
        exact ⟨notEmpty.mp isSome, rfl⟩
      · cases isKey
    · rw [kidOf_of_not_mem dotted] at isKey
      cases isKey
  · rintro ⟨isSome, rfl⟩
    rw [kidOf_append (by decide), if_pos ⟨rfl, notEmpty.mpr isSome⟩, Utf8.decode_encode]

example : kidOf (Utf8.encode "a.b.pem") = some "a.b" :=
  kidOf_eq_some_iff.mpr ⟨by decide, rfl⟩

/-! ## Key files -/

/-- A folder that holds only files which can be read and other folders, under different names. -/
structure IsPlain (entries : List (List UInt8 × FolderNode)) : Prop where
  distinct : (entries.map Prod.fst).Nodup
  node : ∀ name node, (name, node) ∈ entries → node = .folder ∨ ∃ contents, node = .file contents

def HasKeyFile (entries : List (List UInt8 × FolderNode)) (kid : String) (contents : List UInt8) :
    Prop :=
  kid ≠ "" ∧ (Utf8.encode (kid ++ ".pem"), FolderNode.file contents) ∈ entries

def keyFile? : List UInt8 × FolderNode → Option (String × List UInt8)
  | (name, .file contents) => (kidOf name).map (·, contents)
  | _ => none

def keyFiles (entries : List (List UInt8 × FolderNode)) : List (String × List UInt8) :=
  entries.filterMap keyFile?

theorem keyFile?_eq_some_iff {entry : List UInt8 × FolderNode} :
    keyFile? entry = some (kid, contents) ↔
      kid ≠ "" ∧ entry = (Utf8.encode (kid ++ ".pem"), .file contents) := by
  rcases entry with ⟨name, node⟩
  cases node with
  | file bytes => simp [keyFile?, kidOf_eq_some_iff, and_assoc]
  | _ => simp [keyFile?]

theorem mem_keyFiles : (kid, contents) ∈ keyFiles entries ↔ HasKeyFile entries kid contents := by
  rw [keyFiles, List.mem_filterMap, HasKeyFile]
  simp only [keyFile?_eq_some_iff]
  exact ⟨fun ⟨_, member, isSome, same⟩ => ⟨isSome, same ▸ member⟩,
    fun ⟨isSome, member⟩ => ⟨_, member, isSome, rfl⟩⟩

theorem nodup_keyFiles (distinct : (entries.map Prod.fst).Nodup) :
    ((keyFiles entries).map Prod.fst).Nodup := by
  rw [List.Nodup, List.pairwise_map] at distinct ⊢
  refine List.pairwise_filterMap.mpr (distinct.imp ?_)
  rintro entry other different ⟨kid, contents⟩ isKey ⟨_, otherContents⟩ otherIsKey rfl
  rw [(keyFile?_eq_some_iff.mp isKey).2, (keyFile?_eq_some_iff.mp otherIsKey).2] at different
  exact different rfl

theorem pems_eq_keyFiles (path : String)
    (plain : ∀ name node, (name, node) ∈ entries →
      node = .folder ∨ ∃ contents, node = .file contents) :
    pems path entries = .ok (keyFiles entries) := by
  induction entries with
  | nil => rfl
  | cons entry rest induction =>
      rcases entry with ⟨name, node⟩
      have tail := induction fun name node member => plain name node (List.mem_cons_of_mem _ member)
      rcases plain name node List.mem_cons_self with rfl | ⟨contents, rfl⟩
      · simpa [pems, keyFiles, keyFile?, List.filterMap_cons] using tail
      · cases isKey : kidOf name with
        | none => simpa [pems, keyFiles, keyFile?, isKey] using tail
        | some kid => simp [pems, tail, keyFiles, keyFile?, isKey, Except.map]

/-! ## Loading -/

def loaded (path : String) (store : KeyStore) : List LogEvent :=
  [.plain .info .keys "Signing keys loaded"
    [("dir", .plain path), ("kids", .plain (Text.quoteAll store.kids)),
      ("active_kid", .plain store.activeKid)]]

theorem loaded_of_alike {store other : KeyStore} (alike : other.Alike store) (path : String) :
    loaded path other = loaded path store := by
  rw [loaded, alike.kids, alike.activeKid, loaded]

variable {tree : FileTree} {folder : List UInt8}

theorem load_of_isPlain (listed : tree.list folder = .ok entries) (plain : IsPlain entries)
    (path activeKid : String) :
    load tree folder path activeKid =
      (KeyStore.ofPems (keyFiles entries) activeKid).map
        fun store => (store, loaded path store) := by
  simp only [load, listed, pems_eq_keyFiles path plain.node]
  cases KeyStore.ofPems (keyFiles entries) activeKid <;> rfl

theorem load_eq_ok_iff (listed : tree.list folder = .ok entries) (plain : IsPlain entries)
    {path activeKid : String} {store : KeyStore} {events : List LogEvent} :
    load tree folder path activeKid = .ok (store, events) ↔
      KeyStore.ofPems (keyFiles entries) activeKid = .ok store ∧ events = loaded path store := by
  rw [load_of_isPlain listed plain]
  cases KeyStore.ofPems (keyFiles entries) activeKid with
  | error error => simp [Except.map]
  | ok other =>
      simp only [Except.map, Except.ok.injEq, Prod.mk.injEq]
      exact and_congr_right fun same => same ▸ eq_comm

theorem exists_load_iff (listed : tree.list folder = .ok entries) (plain : IsPlain entries)
    {path activeKid : String} :
    (∃ store events, load tree folder path activeKid = .ok (store, events)) ↔
      (∀ kid contents, HasKeyFile entries kid contents →
        ∃ entry, KeyEntry.read kid contents = .ok entry) ∧
      ∃ contents entry, HasKeyFile entries activeKid contents ∧
        KeyEntry.read activeKid contents = .ok entry ∧ entry.signing.isSome = true := by
  have loads : (∃ store events, load tree folder path activeKid = .ok (store, events)) ↔
      ∃ store, KeyStore.ofPems (keyFiles entries) activeKid = .ok store := by
    simp [load_eq_ok_iff listed plain]
  have areKeys : AreKeys (keyFiles entries) ↔ ∀ kid contents, HasKeyFile entries kid contents →
      ∃ entry, KeyEntry.read kid contents = .ok entry := by
    simp only [← mem_keyFiles]
    exact ⟨AreKeys.read, fun read => ⟨read, nodup_keyFiles plain.distinct⟩⟩
  rw [loads, KeyStore.exists_ofPems_iff, areKeys]
  simp only [mem_keyFiles]

theorem load_ne_duplicateKid (listed : tree.list folder = .ok entries) (plain : IsPlain entries)
    (path activeKid kid : String) :
    load tree folder path activeKid ≠ .error (.duplicateKid kid) := by
  rw [load_of_isPlain listed plain, Ne, map_eq_error_iff, KeyStore.ofPems_eq_error_iff]
  rintro (⟨before, other, contents, after, split, -, fault⟩ | ⟨-, fault⟩)
  · have distinct := nodup_keyFiles plain.distinct
    rw [split, List.map_append, List.map_cons] at distinct
    -- Two ids are the same only if two names are.
    cases fault with
    | unreadable failed =>
        rcases KeyEntry.failsWith_read other contents _ failed with ⟨_, same⟩ | ⟨_, same⟩
        all_goals cases same
    | repeated read taken => exact (List.disjoint_of_nodup_append distinct) taken List.mem_cons_self
  · cases fault

theorem perm_keyFiles (plain : IsPlain entries) (plainToo : IsPlain others)
    (same : ∀ kid contents, HasKeyFile others kid contents ↔ HasKeyFile entries kid contents) :
    (keyFiles others).Perm (keyFiles entries) := by
  have distinct := (nodup_keyFiles plain.distinct).of_map
  have distinctToo := (nodup_keyFiles plainToo.distinct).of_map
  refine (List.perm_ext_iff_of_nodup distinctToo distinct).mpr fun ⟨kid, contents⟩ => ?_
  rw [mem_keyFiles, mem_keyFiles]
  exact same kid contents

/-! ## Main result -/

/-- A folder is loaded if and only if every file that is named for a key holds one, and the active
key is among them and can sign. The keys are then those of these files and no others, each under
what comes before the last ".pem" of the name. The rest of the folder changes nothing, not even an
error, and the order of the folder can only change which error it is. A taken id is never the
error. -/
theorem load_exact (listed : tree.list folder = .ok entries) (plain : IsPlain entries)
    (path activeKid : String) :
    (∀ kid, load tree folder path activeKid ≠ .error (.duplicateKid kid)) ∧
    ((∃ store events, load tree folder path activeKid = .ok (store, events)) ↔
      (∀ kid contents, HasKeyFile entries kid contents →
        ∃ entry, KeyEntry.read kid contents = .ok entry) ∧
      ∃ contents entry, HasKeyFile entries activeKid contents ∧
        KeyEntry.read activeKid contents = .ok entry ∧ entry.signing.isSome = true) ∧
    (∀ store events, load tree folder path activeKid = .ok (store, events) →
      store.activeKid = activeKid ∧ store.kids.Pairwise (· < ·) ∧
      (∀ kid, kid ∈ store.kids ↔ ∃ contents, HasKeyFile entries kid contents) ∧
      ∀ kid contents, HasKeyFile entries kid contents →
        ∃ entry, KeyEntry.read kid contents = .ok entry ∧
          store.verifying kid = .ok entry.verifying ∧
          store.signing kid = entry.signing.elim (.error (.notFound kid)) .ok) ∧
    ∀ otherTree otherFolder others, FileTree.list otherTree otherFolder = .ok others →
      IsPlain others →
      (keyFiles others = keyFiles entries →
        load otherTree otherFolder path activeKid = load tree folder path activeKid) ∧
      ((∀ kid contents, HasKeyFile others kid contents ↔ HasKeyFile entries kid contents) →
        ((∃ store events, load otherTree otherFolder path activeKid = .ok (store, events)) ↔
          ∃ store events, load tree folder path activeKid = .ok (store, events)) ∧
        ∀ store events other otherEvents, load tree folder path activeKid = .ok (store, events) →
          load otherTree otherFolder path activeKid = .ok (other, otherEvents) →
          other.Alike store ∧ otherEvents = events) := by
  refine ⟨load_ne_duplicateKid listed plain path activeKid, exists_load_iff listed plain,
    fun store events done => ?_, fun otherTree otherFolder others otherListed otherPlain =>
      ⟨fun same => ?_, fun same => ⟨?_, fun store events other otherEvents done otherDone => ?_⟩⟩⟩
  · rcases (load_eq_ok_iff listed plain).mp done with ⟨chosen, -⟩
    refine ⟨KeyStore.activeKid_of_ofPems chosen, store.ring.pairwise_kids, fun kid => ?_,
      fun kid contents file => KeyStore.resolves_of_mem chosen (mem_keyFiles.mpr file)⟩
    rw [(KeyStore.perm_kids_of_ofPems chosen).mem_iff, List.mem_map]
    simp only [Prod.exists, mem_keyFiles]
    exact ⟨fun ⟨_, contents, file, same⟩ => ⟨contents, same ▸ file⟩,
      fun ⟨contents, file⟩ => ⟨_, contents, file, rfl⟩⟩
  · rw [load_of_isPlain otherListed otherPlain, load_of_isPlain listed plain, same]
  · simp only [exists_load_iff otherListed otherPlain, exists_load_iff listed plain, same]
  · rcases (load_eq_ok_iff listed plain).mp done with ⟨chosen, rfl⟩
    rcases (load_eq_ok_iff otherListed otherPlain).mp otherDone with ⟨otherChosen, rfl⟩
    have alike : other.Alike store :=
      KeyStore.alike_of_perm chosen (perm_keyFiles plain otherPlain same) otherChosen
    exact ⟨alike, loaded_of_alike alike path⟩

def sampleTree (contents : List UInt8) : FileTree :=
  ⟨[([0x6E], .file []), ([0x6B, 0x2E, 0x70, 0x65, 0x6D], .file contents),
    ([0x6C, 0x2E, 0x70, 0x65, 0x6D], .folder)]⟩

theorem list_sampleTree (contents : List UInt8) :
    (sampleTree contents).list [] = .ok (sampleTree contents).nodes := by
  rfl

theorem keyFiles_sampleTree (contents : List UInt8) :
    keyFiles (sampleTree contents).nodes = [("k", contents)] := by
  have note : kidOf [0x6E] = none := by decide +kernel
  have key : kidOf [0x6B, 0x2E, 0x70, 0x65, 0x6D] = some "k" := by decide +kernel
  simp [keyFiles, sampleTree, keyFile?, note, key]

theorem isPlain_sampleTree (contents : List UInt8) : IsPlain (sampleTree contents).nodes where
  distinct := by simp [sampleTree]
  node name node member := by
    simp only [sampleTree, List.mem_cons, Prod.mk.injEq, List.not_mem_nil, or_false] at member
    rcases member with ⟨-, rfl⟩ | ⟨-, rfl⟩ | ⟨-, rfl⟩
    · exact .inr ⟨_, rfl⟩
    · exact .inr ⟨_, rfl⟩
    · exact .inl rfl

theorem load_exact_sample : ∃ store events,
    load (sampleTree (Pem.armour "RSA PRIVATE KEY" Rsa.mersenneForm)) [] "keys" "k" =
      .ok (store, events) ∧ ∀ kid, kid ∈ store.kids ↔ kid = "k" := by
  let contents := Pem.armour "RSA PRIVATE KEY" Rsa.mersenneForm
  have isKey (kid : String) (bytes : List UInt8) :
      HasKeyFile (sampleTree contents).nodes kid bytes ↔ kid = "k" ∧ bytes = contents := by
    rw [← mem_keyFiles, keyFiles_sampleTree, List.mem_singleton, Prod.mk.injEq]
  rcases load_exact (list_sampleTree contents) (isPlain_sampleTree contents) "keys" "k" with
    ⟨-, succeeds, loads, -⟩
  have readable : ∀ kid bytes, HasKeyFile (sampleTree contents).nodes kid bytes →
      ∃ entry, KeyEntry.read kid bytes = .ok entry := by
    intro kid bytes file
    rw [((isKey kid bytes).mp file).2]
    exact ⟨_, KeyEntry.read_mersenneForm kid⟩
  have active : ∃ bytes entry, HasKeyFile (sampleTree contents).nodes "k" bytes ∧
      KeyEntry.read "k" bytes = .ok entry ∧ entry.signing.isSome = true :=
    ⟨contents, _, (isKey _ _).mpr ⟨rfl, rfl⟩, KeyEntry.read_mersenneForm "k", rfl⟩
  rcases succeeds.mpr ⟨readable, active⟩ with ⟨store, events, done⟩
  refine ⟨store, events, done, fun kid => ((loads store events done).2.2.1 kid).trans ?_⟩
  simp [isKey]

end KeyFolder

end AuthServer
