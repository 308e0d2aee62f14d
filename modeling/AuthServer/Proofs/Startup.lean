import AuthServer.Proofs.Users.Directory
import AuthServer.Startup

/-!
What a service starts with: the keys that were loaded, and the account of the seed if the settings
name one.
-/

namespace AuthServer

def SeedAdmin.grown (seed : SeedAdmin) (id : String) (now : Instant) : Account where
  user := ⟨id, seed.account.name, Email.normalize seed.email, seed.account.roles, .ofInstant now⟩
  password := seed.password

namespace Config

variable (config : Config) (surroundings : Surroundings)

def planted : Directory :=
  config.seedAdmin.elim .empty fun seed =>
    Directory.empty.insert surroundings.freshId (seed.grown surroundings.freshId surroundings.now)

theorem reachable_planted : (config.planted surroundings).Reachable := by
  rw [planted]
  cases config.seedAdmin with
  | none => exact .empty
  | some seed =>
      have registered : Directory.empty.register seed.account surroundings.freshId
          surroundings.now = .ok ((seed.grown surroundings.freshId surroundings.now).user,
            Directory.empty.insert surroundings.freshId
              (seed.grown surroundings.freshId surroundings.now)) :=
        Directory.register_eq_ok_iff.mpr ⟨rfl, rfl, rfl⟩
      exact Directory.Reachable.empty.register registered

theorem isConsistent_planted : (config.planted surroundings).IsConsistent :=
  (config.reachable_planted surroundings).isConsistent

variable {config surroundings} in
theorem mem_planted {entry : String × Account} :
    entry ∈ (config.planted surroundings).accounts ↔
      ∃ seed, config.seedAdmin = some seed ∧
        entry = (surroundings.freshId, seed.grown surroundings.freshId surroundings.now) := by
  rw [planted]
  cases config.seedAdmin with
  | none => simp [Directory.empty]
  | some seed => simp [Directory.mem_insert, Directory.empty]

end Config

namespace Service

variable {config : Config} {surroundings : Surroundings}

theorem start_of_load {keys : KeyStore} {logged : List LogEvent}
    (loaded : KeyFolder.load surroundings.files surroundings.keysFolder config.keysFolder
      config.activeKid = .ok (keys, logged)) :
    ∃ events, start config surroundings =
      (events, .ok (ofConfig config keys, ⟨config.planted surroundings, .zero⟩)) := by
  rw [start, Config.planted]
  simp only [loaded]
  cases config.seedAdmin with
  | none => exact ⟨_, rfl⟩
  | some seed => exact ⟨_, rfl⟩

theorem of_start {events : List LogEvent} {service : Service} {state : State}
    (started : start config surroundings = (events, .ok (service, state))) :
    ∃ keys, service = ofConfig config keys ∧ state.directory = config.planted surroundings := by
  cases loaded : KeyFolder.load surroundings.files surroundings.keysFolder config.keysFolder
      config.activeKid with
  | error error =>
      rw [start] at started
      simp only [loaded] at started
      cases started
  | ok found =>
      rcases found with ⟨keys, logged⟩
      rcases start_of_load loaded with ⟨others, same⟩
      rw [same] at started
      cases started
      exact ⟨keys, rfl, rfl⟩

end Service

end AuthServer
