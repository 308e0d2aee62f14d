import AuthServer.Proofs.Endpoint.Effect

/-!
What endpoints make of passwords. Of directories that have the same users but not the same
passwords, and of bodies that differ in passwords, endpoints show the same, unless a check of the
passwords comes out differently.
-/

namespace AuthServer

/-! ## Directories and states -/

namespace Directory

def users (directory : Directory) : List (String × User) :=
  directory.accounts.map fun (id, account) => (id, account.user)

theorem users_insert (directory : Directory) (id : String) (account : Account) :
    (directory.insert id account).users =
      (id, account.user) :: directory.users.filter (·.1 != id) := by
  simp only [insert, users, List.map_cons, List.filter_map]
  rfl

theorem map_user_account? (directory : Directory) (id : String) :
    (directory.account? id).map Account.user = directory.users.lookup id := by
  rcases directory with ⟨accounts⟩
  rw [account?, users]
  induction accounts with
  | nil => rfl
  | cons entry accounts induction =>
      rw [List.map_cons, List.lookup_cons, List.lookup_cons]
      cases id == entry.1 with
      | true => rfl
      | false => exact induction

theorem map_user_accountOf? (directory : Directory) (email : String) :
    (directory.accountOf? email).map Account.user =
      (directory.users.map Prod.snd).find? (·.email == email) := by
  have users : directory.users.map Prod.snd =
      (directory.accounts.map Prod.snd).map Account.user := by
    rw [Directory.users, List.map_map, List.map_map]
    rfl
  rw [users, List.find?_map]
  rfl

variable {directory other : Directory} (same : directory.users = other.users)

include same

theorem find_eq_of_users (id : String) : directory.find id = other.find id := by
  have found : (directory.account? id).map Account.user = (other.account? id).map Account.user := by
    rw [map_user_account?, map_user_account?, same]
  have find_eq (directory : Directory) :
      directory.find id =
        ((directory.account? id).map Account.user).elim (.error .notFound) .ok := by
    unfold find
    cases directory.account? id <;> rfl
  rw [find_eq, find_eq, found]

/-- An address belongs to the same user in both directories, or to none. -/
theorem accountOf?_cases (email : String) :
    directory.accountOf? email = none ∧ other.accountOf? email = none ∨
      ∃ first second, directory.accountOf? email = some first ∧
        other.accountOf? email = some second ∧ first.user = second.user := by
  have found : (directory.accountOf? email).map Account.user =
      (other.accountOf? email).map Account.user := by
    rw [map_user_accountOf?, map_user_accountOf?, same]
  cases first : directory.accountOf? email with
  | none =>
      rw [first] at found
      exact .inl ⟨rfl, Option.map_eq_none_iff.mp found.symm⟩
  | some account =>
      rw [first] at found
      rcases Option.map_eq_some_iff.mp found.symm with ⟨second, otherFound, user⟩
      exact .inr ⟨account, second, rfl, otherFound, user.symm⟩

/-- Passwords decide a login by whether they agree with those that were kept, and no further. -/
theorem authenticate_eq_of_users (email : String) {password otherPassword : String}
    (compared : ∀ account otherAccount,
      directory.accountOf? (Email.normalize email) = some account →
      other.accountOf? (Email.normalize email) = some otherAccount →
      (account.password = password ↔ otherAccount.password = otherPassword)) :
    directory.authenticate email password = other.authenticate email otherPassword := by
  unfold authenticate
  rcases accountOf?_cases same (Email.normalize email) with
    ⟨unknown, otherUnknown⟩ | ⟨account, otherAccount, known, otherKnown, user⟩
  · rw [unknown, otherUnknown]
  · rw [known, otherKnown]
    simp only [compared account otherAccount known otherKnown, user]

theorem register_endAlike (id : String) (now : Instant) {new otherNew : NewUser}
    (name : new.name = otherNew.name) (email : new.email = otherNew.email)
    (roles : new.roles = otherNew.roles) :
    EndAlike (fun first second => first.1 = second.1 ∧ first.2.users = second.2.users)
      (directory.register new id now) (other.register otherNew id now) := by
  unfold register
  dsimp only
  rw [← name, ← email, ← roles]
  rcases accountOf?_cases same (Email.normalize new.email) with
    ⟨free, otherFree⟩ | ⟨first, second, taken, otherTaken, -⟩
  · rw [free, otherFree]
    refine .done ⟨rfl, ?_⟩
    rw [users_insert, users_insert, same]
  · rw [taken, otherTaken]
    exact .failed DirectoryError.duplicateEmail

end Directory

structure State.Alike (first second : State) : Prop where
  users : first.directory.users = second.directory.users
  metrics : first.metrics = second.metrics

/-! ## Requests -/

/-- Two registrations that differ in passwords at most, and no check of the passwords comes out
differently. -/
structure RegisterRequest.Alike (first second : RegisterRequest) : Prop where
  name : first.name = second.name
  email : first.email = second.email
  long : 8 ≤ first.password.length ↔ 8 ≤ second.password.length
  confirmed : first.password = first.passwordConfirm ↔ second.password = second.passwordConfirm

/-- Two logins, at directories that have the same users, that differ in passwords at most, and no
check of the passwords comes out differently. -/
structure LoginRequest.Alike (availability : Availability) (directory other : Directory)
    (first second : LoginRequest) : Prop where
  email : first.email = second.email
  empty : first.password = "" ↔ second.password = ""
  compared : availability = .available → first.fieldErrors.result = .ok () →
    ∀ account otherAccount,
      directory.accountOf? (Email.normalize (Text.trim first.email)) = some account →
      other.accountOf? (Email.normalize (Text.trim second.email)) = some otherAccount →
      (account.password = first.password ↔ otherAccount.password = second.password)

theorem RegisterRequest.Alike.fieldErrors {first second : RegisterRequest}
    (alike : first.Alike second) : first.fieldErrors = second.fieldErrors := by
  have long : decide (leastPasswordLength ≤ first.password.length) =
      decide (leastPasswordLength ≤ second.password.length) := decide_eq_decide.mpr alike.long
  have confirmed : (first.password == first.passwordConfirm) =
      (second.password == second.passwordConfirm) := by
    rw [Bool.eq_iff_iff, beq_iff_eq, beq_iff_eq]
    exact alike.confirmed
  rw [RegisterRequest.fieldErrors, RegisterRequest.fieldErrors, alike.name, alike.email, long,
    confirmed]

namespace LoginRequest.Alike

variable {availability : Availability} {directory other : Directory}
variable {first second : LoginRequest}

theorem fieldErrors (alike : first.Alike availability directory other second) :
    first.fieldErrors = second.fieldErrors := by
  have empty : first.password.isEmpty = second.password.isEmpty := by
    rw [Bool.eq_iff_iff, String.isEmpty_iff, String.isEmpty_iff]
    exact alike.empty
  rw [LoginRequest.fieldErrors, LoginRequest.fieldErrors, alike.email, empty]

theorem call_authenticate (alike : first.Alike availability directory other second)
    (same : directory.users = other.users) (complete : first.fieldErrors.result = .ok ()) :
    availability.call (directory.authenticate (Text.trim first.email) first.password) =
      availability.call (other.authenticate (Text.trim second.email) second.password) := by
  cases availability with
  | unavailable reason => simp only [Availability.call]
  | crashing crash => simp only [Availability.call]
  | available =>
      have compared := alike.compared rfl complete
      rw [alike.email] at compared ⊢
      rw [Directory.authenticate_eq_of_users same _ compared]

end LoginRequest.Alike

/-! ## Endpoints -/

structure Reply.Alike (first second : Reply) : Prop where
  response : first.response = second.response
  events : first.events = second.events
  users : first.directory.users = second.directory.users

theorem Reply.Alike.of_users (response : Response) (events : List LogEvent)
    {directory other : Directory} (same : directory.users = other.users) :
    Reply.Alike ⟨response, events, directory⟩ ⟨response, events, other⟩ :=
  ⟨rfl, rfl, same⟩

theorem Exchange.requireContext_congr {exchange other : Exchange}
    (context : other.context = exchange.context) :
    other.requireContext = exchange.requireContext := by
  rw [requireContext, requireContext, context]

theorem EndAlike.call {α : Type} {related : α → α → Prop} {first second : Except DirectoryError α}
    (alike : EndAlike related first second) (availability : Availability) :
    EndAlike related (availability.call first) (availability.call second) := by
  cases availability with
  | available => exact alike.mapError _
  | unavailable reason => exact .failed _
  | crashing crash => exact .failed _

namespace Endpoint

section

variable {exchange other : Exchange} (service : other.service = exchange.service)
  (context : other.context = exchange.context) {directory otherDirectory : Directory}
  (same : directory.users = otherDirectory.users)

include service context same

theorem login_endAlike
    (read : EndAlike (LoginRequest.Alike exchange.service.availability directory otherDirectory)
      (JsonBody.read LoginRequest.shape.read exchange.request)
      (JsonBody.read LoginRequest.shape.read other.request)) :
    EndAlike Reply.Alike (login exchange directory) (login other otherDirectory) := by
  rw [login, login, Exchange.requireContext_congr context, service]
  apply EndAlike.bind_same
  intro context _
  refine (read.mapError Interruption.problem).bind ?_
  intro first second alike
  dsimp only
  rw [← alike.fieldErrors]
  apply EndAlike.bind_same
  intro _ complete
  rw [← alike.call_authenticate same (of_orStop complete)]
  apply EndAlike.bind_same
  intro principal _
  apply EndAlike.bind_same
  intro token _
  exact .done (.of_users _ _ same)

theorem register_endAlike (arrival : other.arrival = exchange.arrival)
    (read : EndAlike RegisterRequest.Alike
      (JsonBody.read RegisterRequest.shape.read exchange.request)
      (JsonBody.read RegisterRequest.shape.read other.request)) :
    EndAlike Reply.Alike (register exchange directory) (register other otherDirectory) := by
  rw [register, register, Exchange.requireContext_congr context, service, arrival]
  apply EndAlike.bind_same
  intro context _
  refine (read.mapError Interruption.problem).bind ?_
  intro first second alike
  dsimp only
  rw [← alike.fieldErrors]
  apply EndAlike.bind_same
  intro _ _
  have name : first.newUser.name = second.newUser.name := congrArg Text.trim alike.name
  have email : first.newUser.email = second.newUser.email := congrArg Text.trim alike.email
  have roles : first.newUser.roles = second.newUser.roles := rfl
  have registered :=
    Directory.register_endAlike same exchange.arrival.freshId context.now name email roles
  refine (registered.call exchange.service.availability).bind ?_
  rintro ⟨user, after⟩ ⟨otherUser, otherAfter⟩ ⟨rfl, kept⟩
  exact .done (.of_users _ _ kept)

end

end Endpoint

/-! ## Answers -/

structure Answer.Alike (first second : Answer) : Prop where
  outcome : first.outcome = second.outcome
  events : first.events = second.events
  state : first.state.Alike second.state

/-- A handler that answers the same in states that differ in passwords at most. -/
def Handler.IsBlind (handler : Handler) : Prop :=
  ∀ exchange {state other : State}, state.Alike other →
    (handler exchange state).Alike (handler exchange other)

section

variable {state other : State} (alike : state.Alike other)

include alike

theorem State.Alike.respond (response : Response) :
    (Answer.respond response state).Alike (.respond response other) where
  outcome := rfl
  events := rfl
  state := alike

theorem Endpoint.alike_handler {endpoint : Endpoint} {exchange otherExchange : Exchange}
    (ends : EndAlike Reply.Alike (endpoint exchange state.directory)
      (endpoint otherExchange other.directory)) :
    (endpoint.handler exchange state).Alike (endpoint.handler otherExchange other) := by
  unfold handler
  generalize endpoint exchange state.directory = ending at ends
  generalize endpoint otherExchange other.directory = otherEnding at ends
  cases ends with
  | done agree =>
      exact ⟨congrArg Except.ok agree.response, agree.events, agree.users, alike.metrics⟩
  | failed interruption =>
      cases interruption with
      | problem problem => exact alike.respond problem.response
      | crash crash => exact ⟨rfl, rfl, alike⟩

end

/-! ## Other endpoints -/

namespace Endpoint

def IsBlind (endpoint : Endpoint) : Prop :=
  ∀ exchange {directory other : Directory}, directory.users = other.users →
    EndAlike Reply.Alike (endpoint exchange directory) (endpoint exchange other)

theorem isBlind_handler {endpoint : Endpoint} (blind : endpoint.IsBlind) :
    endpoint.handler.IsBlind :=
  fun exchange _ _ alike => alike_handler alike (blind exchange alike.users)

theorem isBlind_plain (respond : Exchange → Except Problem Response) :
    (plain respond).IsBlind := by
  intro exchange directory other same
  unfold plain
  cases respond exchange with
  | error problem => exact .failed (Interruption.problem problem)
  | ok response => exact .done (.of_users response [] same)

theorem endAlike_withParam (exchange : Exchange) (param : String) {directory other : Directory}
    (same : directory.users = other.users)
    {proceed otherProceed : String → Except Interruption Reply}
    (alike : ∀ value, EndAlike Reply.Alike (proceed value) (otherProceed value)) :
    EndAlike Reply.Alike (withParam exchange param directory proceed)
      (withParam exchange param other otherProceed) := by
  unfold withParam
  cases exchange.params with
  | error illFormed => exact .done (.of_users _ [] same)
  | ok params => exact alike _

theorem isBlind_account : account.IsBlind := by
  intro exchange directory other same
  apply endAlike_withParam exchange "user_id" same
  intro id
  rw [Directory.find_eq_of_users same]
  apply EndAlike.bind_same
  intro user _
  exact .done (.of_users _ [] same)

theorem isBlind_reissue : reissue.IsBlind := by
  intro exchange directory other same
  apply EndAlike.bind_same
  intro context _
  apply EndAlike.bind_same
  intro claims _
  apply endAlike_withParam exchange "kid" same
  intro kid
  apply EndAlike.bind_same
  intro token _
  exact .done (.of_users _ _ same)

theorem isBlind_readiness : readiness.IsBlind := by
  intro exchange directory other same
  apply EndAlike.bind_same
  intro context _
  cases exchange.service.readiness <;> exact .done (.of_users _ _ same)

end Endpoint

/-! ## Routes -/

theorem Stage.isBlind_guarded (rule : Rule) {inner : Handler} (blind : inner.IsBlind) :
    (Stage.guarded rule inner).IsBlind := by
  have admitted : (Stage.authorize rule inner).IsBlind := by
    intro exchange state other alike
    unfold Stage.authorize
    cases Stage.applyRule rule exchange with
    | ok _ => exact blind exchange alike
    | error problem => exact alike.respond problem.response
  intro exchange state other alike
  unfold Stage.guarded Stage.authenticate
  dsimp only
  split
  · exact admitted _ alike
  · exact alike.respond _

theorem Handler.isBlind_refuse (problem : Problem) : (Handler.refuse problem).IsBlind :=
  fun _ _ _ alike => alike.respond problem.response

theorem Handler.isBlind_status (status : Nat) : (Handler.status status).IsBlind :=
  fun _ _ _ alike => alike.respond (.ofStatus status)

theorem GuardedRoute.isBlind (route : GuardedRoute) : route.endpoint.handler.IsBlind := by
  cases route with
  | me | authenticate | authorize => exact Endpoint.isBlind_handler (Endpoint.isBlind_plain _)
  | status | statusAuth =>
      change Endpoint.status.handler.IsBlind
      exact Endpoint.isBlind_handler (Endpoint.isBlind_plain _)
  | account => exact Endpoint.isBlind_handler Endpoint.isBlind_account
  | reissue => exact Endpoint.isBlind_handler Endpoint.isBlind_reissue

theorem ProbeRoute.isBlind (route : ProbeRoute) : route.handler.IsBlind := by
  cases route with
  | liveness => exact Handler.isBlind_status 200
  | readiness => exact Endpoint.isBlind_handler Endpoint.isBlind_readiness
  | redirect | description => exact fun _ _ _ alike => alike.respond _
  | metrics =>
      intro exchange state other alike
      change (Endpoint.metrics exchange state).Alike (Endpoint.metrics exchange other)
      rw [Endpoint.metrics, Endpoint.metrics, alike.metrics]
      exact alike.respond _
  | index | page =>
      intro exchange state other alike
      change (Endpoint.documentation exchange state).Alike (Endpoint.documentation exchange other)
      unfold Endpoint.documentation
      split
      · exact alike.respond _
      · split <;> exact alike.respond _

end AuthServer
