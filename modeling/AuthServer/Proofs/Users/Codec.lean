import AuthServer.Proofs.Claims.Codec
import AuthServer.Proofs.Time.Timestamp
import AuthServer.Users.User

/-!
A user who was written is read back with every field unchanged, the nanosecond at which the account
was made and the set of roles included.
-/

namespace AuthServer

open Json

theorem Roles.json_eq_listText (roles : Roles) : roles.json = listText
    ((if roles.contains .admin then ["\"ADMIN\""] else []) ++
      if roles.contains .user then ["\"USER\""] else []) := by
  rcases roles with ⟨admin, user⟩
  cases admin <;> cases user <;> decide +kernel

namespace User

def members (user : User) : List (String × String) := [
  ("id", stringText user.id),
  ("name", stringText user.name),
  ("email", stringText user.email),
  ("roles", user.roles.json),
  ("created_at", stringText user.createdAt.text)]

theorem readTimestamp_written (timestamp : Timestamp) (rest : List UInt8) :
    readTimestamp (Utf8.encode (stringText timestamp.text) ++ rest) = .ok (timestamp, rest) := by
  simp only [readTimestamp, readText_written, Timestamp.read_text]

theorem fills_members (user : User) (depth : Nat) (levels : 1 < depth) :
    shape.Fills depth shape.start user.members
      ⟨user.id, user.name, user.email, user.roles, user.createdAt⟩ := by
  apply Shape.Fills.required rfl rfl fun rest _ => readText_written "a string" user.id rest
  apply Shape.Fills.required rfl rfl fun rest _ => readText_written "a string" user.name rest
  apply Shape.Fills.required rfl rfl fun rest _ => readText_written "a string" user.email rest
  apply Shape.Fills.required rfl rfl fun rest _ => Roles.read_written user.roles depth levels rest
  apply Shape.Fills.required rfl rfl fun rest _ => readTimestamp_written user.createdAt rest
  exact .done _

theorem read_written (user : User) (depth : Nat) (levels : 2 < depth) (rest : List UInt8) :
    shape.read depth (Utf8.encode user.json ++ rest) = .ok (user, rest) :=
  Shape.read_written (by omega) (fills_members user (depth - 1) (by omega)) rfl rest

@[simp] theorem ofJson_json (user : User) : ofJson (Utf8.encode user.json) = .ok user :=
  readDocument_written (by simpa using read_written user depthLimit (by decide) [])

/-- Users are read back from their JSON as they were, and written the same way again. Of the time at
which an account was made every nanosecond is kept, with as few digits as that takes and a year that
has a sign only if it needs one. That time may be any in the calendar. -/
theorem json_lossless (user : User) :
    ofJson (Utf8.encode user.json) = .ok user ∧
    (ofJson (Utf8.encode user.json)).map json = .ok user.json ∧
    (∃ year fraction, Timestamp.IsYear year user.createdAt.date.year ∧
      user.createdAt.clock.length = 15 ∧
      Timestamp.IsFraction fraction user.createdAt.instant.fraction ∧
      user.json = objectText [
        ("id", stringText user.id),
        ("name", stringText user.name),
        ("email", stringText user.email),
        ("roles", listText ((if user.roles.contains .admin then ["\"ADMIN\""] else []) ++
          if user.roles.contains .user then ["\"USER\""] else [])),
        ("created_at",
          stringText (String.ofList (year ++ user.createdAt.clock ++ fraction ++ ['Z'])))]) ∧
    ∀ {date : Date} {time nanos : Nat}, date.isValid = true →
      -262143 ≤ date.year ∧ date.year ≤ 262142 → time < 86400 → nanos < 10 ^ 9 →
      ∃ createdAt : Timestamp, createdAt.date = date ∧ createdAt.secondOfDay = time ∧
        createdAt.instant.fraction = nanos ∧
        ofJson (Utf8.encode { user with createdAt }.json) = .ok { user with createdAt } := by
  have written := user.createdAt.toList_text
  refine ⟨user.ofJson_json, by rw [user.ofJson_json]; rfl, ⟨_, _,
    Timestamp.isYear_yearText _, user.createdAt.length_clock,
    Timestamp.isFraction_fractionText (Timestamp.fraction_lt _), ?_⟩, ?_⟩
  · rw [← written, String.ofList_toList, ← Roles.json_eq_listText]
    rfl
  · intro date time nanos valid years inDay inSecond
    rcases Timestamp.exists_timestamp valid years inDay inSecond with
      ⟨createdAt, sameDate, sameTime, sameNanos⟩
    exact ⟨createdAt, sameDate, sameTime, sameNanos, ofJson_json _⟩

/-- An account that was made in the last nanosecond of a leap day of the fifth century BC. -/
theorem json_lossless_sample :
    ∃ createdAt : Timestamp, createdAt.date = ⟨-400, 2, 29⟩ ∧ createdAt.secondOfDay = 86399 ∧
      createdAt.instant.fraction = 999999999 ∧
      ofJson (Utf8.encode (User.mk "u" "Ada" "ada@x.org" (.ofList [.user]) createdAt).json) =
        .ok ⟨"u", "Ada", "ada@x.org", .ofList [.user], createdAt⟩ :=
  (json_lossless ⟨"u", "Ada", "ada@x.org", .ofList [.user], .ofInstant .epoch⟩).2.2.2
    (by decide) (by decide) (by decide) (by decide)

end User

end AuthServer
