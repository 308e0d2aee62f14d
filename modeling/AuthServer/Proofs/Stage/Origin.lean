import AuthServer.Config
import AuthServer.Proofs.Outcome
import AuthServer.Proofs.Text.Blank
import AuthServer.Stage.Origin

/-!
Either the pages of every origin may read the answers, or those of some origins may and may send
credentials with their requests. What is set up from a setting never lets every origin send them.
-/

namespace AuthServer

namespace OriginPolicy

/-! ## Reading a policy -/

def pieces (text : String) : List String :=
  (text.toList.splitOn ',').map fun piece => Text.trim (String.ofList piece)

theorem pieces_eq (text : String) :
    pieces text =
      ((Text.splitAll ',' (Text.trimChars text.toList)).map Text.trimChars).map String.ofList := by
  -- It makes no difference that the whole text is trimmed before it is split.
  rw [Text.map_trimChars_splitAll (by decide), Text.splitAll_eq_splitOn, List.map_map, pieces]
  simp [Text.trim, Function.comp_def]

theorem read_eq (text : String) : read text =
    if Text.trim text = "" ∨ Text.trim text = "*" then .ok .any
    else if "*" ∈ pieces text then .error (Text.trim text)
    else .ok (.list ((pieces text).filter (· ≠ ""))) := by
  have isAsterisk (chars : List Char) : String.ofList chars = "*" ↔ chars = ['*'] :=
    String.ofList_inj
  have isSome (chars : List Char) : decide (String.ofList chars ≠ "") = !chars.isEmpty := by
    cases chars with
    | nil => rfl
    | cons char rest => simp
  have kept : (pieces text).filter (· ≠ "") =
      (((Text.splitAll ',' (Text.trimChars text.toList)).map Text.trimChars).filter
        fun piece => !piece.isEmpty).map String.ofList := by
    rw [pieces_eq, List.filter_map]
    simp only [Function.comp_def, isSome]
  have listed : "*" ∈ pieces text ↔ ['*'] ∈
      ((Text.splitAll ',' (Text.trimChars text.toList)).map Text.trimChars).filter
        fun piece => !piece.isEmpty := by
    rw [pieces_eq, List.mem_map, List.mem_filter]
    simp [isAsterisk]
  rw [kept]
  simp only [read, Text.trim, String.ofList_eq_empty_iff, isAsterisk, listed]

theorem ofSetting_eq (text : String) : ofSetting text =
    if Text.trim text = "" ∨ Text.trim text = "*" then .ok .any
    else if "*" ∈ pieces text then .error (.invalid "CORS_ALLOWED_ORIGINS" (Text.trim text))
    else .ok (.list ((pieces text).filter (· ≠ ""))) := by
  rw [ofSetting, read_eq]
  split
  · rfl
  · split <;> rfl

variable {text : String} {policy : OriginPolicy} {origins : List String} {error : ConfigError}

theorem ofSetting_eq_any_iff :
    ofSetting text = .ok .any ↔ Text.trim text = "" ∨ Text.trim text = "*" := by
  rw [ofSetting_eq]
  by_cases whole : Text.trim text = "" ∨ Text.trim text = "*"
  · simp [whole]
  · by_cases mixed : "*" ∈ pieces text <;> simp [whole, mixed]

theorem ofSetting_eq_error_iff : ofSetting text = .error error ↔
    ¬(Text.trim text = "" ∨ Text.trim text = "*") ∧ "*" ∈ pieces text ∧
      error = .invalid "CORS_ALLOWED_ORIGINS" (Text.trim text) := by
  rw [ofSetting_eq]
  by_cases whole : Text.trim text = "" ∨ Text.trim text = "*"
  · simp [whole]
  · by_cases mixed : "*" ∈ pieces text
    · simpa [whole, mixed] using eq_comm
    · simp [whole, mixed]

theorem ofSetting_eq_list_iff : ofSetting text = .ok (.list origins) ↔
    ¬(Text.trim text = "" ∨ Text.trim text = "*") ∧ "*" ∉ pieces text ∧
      origins = (pieces text).filter (· ≠ "") := by
  rw [ofSetting_eq]
  by_cases whole : Text.trim text = "" ∨ Text.trim text = "*"
  · simp [whole]
  · by_cases mixed : "*" ∈ pieces text
    · simp [whole, mixed]
    · simpa [whole, mixed] using eq_comm

theorem asterisk_not_mem_of_ofSetting (read : ofSetting text = .ok (.list origins)) :
    "*" ∉ origins := by
  rcases ofSetting_eq_list_iff.mp read with ⟨-, unmixed, rfl⟩
  exact fun member => unmixed ((List.mem_filter.mp member).1)

end OriginPolicy

namespace OriginGate

/-! ## Gates -/

/-- The rules that can be put before a server: an asterisk is not one origin among others, and
credentials need origins, methods and headers that are all named. -/
structure IsUsable (gate : OriginGate) : Prop where
  listed : ∀ origins, gate.origins = .list origins → "*" ∉ origins
  origins : gate.credentials = true → gate.origins ≠ .any
  methods : gate.credentials = true → "*" ∉ gate.methods
  headers : gate.credentials = true → "*" ∉ gate.headers

variable {gate : OriginGate} {policy : OriginPolicy} {origin : Option (List UInt8)}

theorem methods_ofPolicy (policy : OriginPolicy) :
    (ofPolicy policy).1.methods = ["GET", "POST", "PUT", "DELETE", "OPTIONS"] := by
  cases policy <;> rfl

theorem headers_ofPolicy (policy : OriginPolicy) :
    (ofPolicy policy).1.headers = ["authorization", "content-type"] := by
  cases policy <;> rfl

theorem origins_ofPolicy (origins : List String) : (ofPolicy (.list origins)).1.origins =
    .list (origins.filter OriginPolicy.isHeaderText) := by
  simp [ofPolicy]

theorem credentials_ofPolicy_iff :
    (ofPolicy policy).1.credentials = true ↔ ∃ origins, policy = .list origins := by
  cases policy <;> simp [ofPolicy]

theorem isUsable_ofPolicy (unmixed : ∀ origins, policy = .list origins → "*" ∉ origins) :
    (ofPolicy policy).1.IsUsable where
  listed valid isValid := by
    cases policy with
    | any => cases isValid
    | list origins =>
        rw [origins_ofPolicy] at isValid
        cases isValid
        -- Leaving origins out puts no asterisk among them.
        exact fun member => unmixed origins rfl (List.mem_filter.mp member).1
  origins credentials := by
    rcases credentials_ofPolicy_iff.mp credentials with ⟨origins, rfl⟩
    rw [origins_ofPolicy]
    exact OriginPolicy.noConfusion
  methods _ := by
    rw [methods_ofPolicy]
    decide
  headers _ := by
    rw [headers_ofPolicy]
    decide

/-- An answer that every origin may read is one to a request without credentials. -/
theorem IsUsable.credentialHeaders_eq_nil (usable : gate.IsUsable)
    (everyone : ("access-control-allow-origin", "*") ∈ gate.originHeaders origin) :
    gate.credentialHeaders = [] := by
  cases credentials : gate.credentials with
  | false => rw [credentialHeaders, credentials]; rfl
  | true =>
      cases origins : gate.origins with
      | any => exact absurd origins (usable.origins credentials)
      | list listed =>
          simp only [originHeaders, origins] at everyone
          cases allowed : listed.find? fun candidate => origin == some (Utf8.encode candidate) with
          | none => simp [allowed] at everyone
          | some found =>
              simp only [allowed, Option.elim_some, List.mem_singleton, Prod.mk.injEq, true_and]
                at everyone
              have member := List.mem_of_find?_eq_some allowed
              exact absurd (everyone ▸ member) (usable.listed listed origins)

/-! ## Main result -/

/-- A setting lets every origin through if it is blank or a lone asterisk, is refused if it mixes
the asterisk with anything, commas included, and lists its origins otherwise. Whatever is read can
be put before a server, if rules are refused there only for their asterisks; and requests carry
credentials exactly if the origins are listed, so that no answer to them can be read by every
origin. -/
theorem no_credentials_for_everyone {Layer Crash : Type} {build : OriginGate → Except Crash Layer}
    (builds : ∀ gate : OriginGate, gate.IsUsable → ∃ layer, build gate = .ok layer)
    (text : String) :
    (OriginPolicy.ofSetting text = .ok .any ↔ Text.trim text = "" ∨ Text.trim text = "*") ∧
    (∀ error, OriginPolicy.ofSetting text = .error error ↔
      ¬(Text.trim text = "" ∨ Text.trim text = "*") ∧ "*" ∈ OriginPolicy.pieces text ∧
        error = .invalid "CORS_ALLOWED_ORIGINS" (Text.trim text)) ∧
    (∀ origins, OriginPolicy.ofSetting text = .ok (.list origins) ↔
      ¬(Text.trim text = "" ∨ Text.trim text = "*") ∧ "*" ∉ OriginPolicy.pieces text ∧
        origins = (OriginPolicy.pieces text).filter (· ≠ "")) ∧
    ∀ policy, OriginPolicy.ofSetting text = .ok policy →
      (∀ origins, policy = .list origins → "*" ∉ origins) ∧
      (∃ layer, build (ofPolicy policy).1 = .ok layer) ∧
      ((ofPolicy policy).1.credentials = true ↔ ∃ origins, policy = .list origins) ∧
      ∀ origin, ("access-control-allow-origin", "*") ∈ (ofPolicy policy).1.originHeaders origin →
        (ofPolicy policy).1.credentialHeaders = [] := by
  refine ⟨OriginPolicy.ofSetting_eq_any_iff, fun error => OriginPolicy.ofSetting_eq_error_iff,
    fun origins => OriginPolicy.ofSetting_eq_list_iff, fun policy read => ?_⟩
  have unmixed : ∀ origins, policy = .list origins → "*" ∉ origins := by
    rintro origins rfl
    exact OriginPolicy.asterisk_not_mem_of_ofSetting read
  have usable : (ofPolicy policy).1.IsUsable := isUsable_ofPolicy unmixed
  exact ⟨unmixed, builds _ usable, credentials_ofPolicy_iff,
    fun origin everyone => usable.credentialHeaders_eq_nil everyone⟩

def check (gate : OriginGate) : Except String OriginGate :=
  let isOrigin := match gate.origins with
    | .any => gate.credentials
    | .list origins => decide ("*" ∈ origins)
  if isOrigin || gate.credentials && decide ("*" ∈ gate.methods ++ gate.headers) then
    .error "asterisk"
  else .ok gate

theorem check_of_isUsable (usable : gate.IsUsable) : check gate = .ok gate := by
  refine if_neg (Bool.eq_false_iff.mp (Bool.or_eq_false_iff.mpr ⟨?_, ?_⟩))
  · cases origins : gate.origins with
    | any => exact Bool.eq_false_iff.mpr fun credentials => usable.origins credentials origins
    | list listed => exact decide_eq_false (usable.listed listed origins)
  · cases credentials : gate.credentials with
    | false => rfl
    | true => simp [usable.methods credentials, usable.headers credentials]

theorem no_credentials_for_everyone_sample : ∃ gate,
    OriginPolicy.ofSetting " https://a.org , , https://b.org" =
      .ok (.list ["https://a.org", "https://b.org"]) ∧
    check (ofPolicy (.list ["https://a.org", "https://b.org"])).1 = .ok gate ∧
    (ofPolicy (.list ["https://a.org", "https://b.org"])).1.credentials = true := by
  have builds : ∀ gate : OriginGate, gate.IsUsable → ∃ layer, check gate = .ok layer :=
    fun gate usable => ⟨gate, check_of_isUsable usable⟩
  rcases no_credentials_for_everyone builds " https://a.org , , https://b.org" with
    ⟨-, -, listed, accepted⟩
  have read := (listed ["https://a.org", "https://b.org"]).mpr (by decide +kernel)
  rcases accepted _ read with ⟨-, ⟨gate, built⟩, credentials, -⟩
  exact ⟨gate, read, built, credentials.mpr ⟨_, rfl⟩⟩

end OriginGate

end AuthServer
