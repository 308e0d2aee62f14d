import AuthServer.Proofs.Endpoint.Secrecy
import AuthServer.Proofs.Http.Target
import AuthServer.Proofs.Run.Likeness
import AuthServer.Proofs.Run.Registration

/-!
Spellings of an address. An account is stored under one of them, and every other that is stored
alike is as good: whether a login or a registration passes its checks can be told from the stored
spelling, and so can all that the server answers.
-/

namespace AuthServer

/-! ## Bodies -/

structure LoginRequest.Respells (first second : LoginRequest) : Prop where
  email : Email.normalize first.email = Email.normalize second.email
  password : first.password = second.password

structure RegisterRequest.Respells (first second : RegisterRequest) : Prop where
  email : Email.normalize first.email = Email.normalize second.email
  name : first.name = second.name
  password : first.password = second.password
  passwordConfirm : first.passwordConfirm = second.passwordConfirm

namespace LoginRequest

theorem Respells.fieldErrors {first second : LoginRequest} (respells : first.Respells second) :
    first.fieldErrors = second.fieldErrors := by
  rw [LoginRequest.fieldErrors, LoginRequest.fieldErrors, Email.isValid_trim_congr respells.email,
    respells.password]

theorem Respells.authenticate_eq {first second : LoginRequest} (respells : first.Respells second)
    (directory : Directory) :
    directory.authenticate (Text.trim first.email) first.password =
      directory.authenticate (Text.trim second.email) second.password := by
  simp only [Directory.authenticate, Email.normalize_trim, respells.email, respells.password]

theorem passes_iff {login : LoginRequest} : login.fieldErrors.result = .ok () ↔
    Email.IsAddress (Email.normalize login.email) ∧ login.password ≠ "" := by
  rw [result_eq_ok_iff, ← Email.isValid_normalize, Email.isValid_iff_isAddress]

end LoginRequest

namespace RegisterRequest

theorem Respells.fieldErrors {first second : RegisterRequest} (respells : first.Respells second) :
    first.fieldErrors = second.fieldErrors := by
  rw [RegisterRequest.fieldErrors, RegisterRequest.fieldErrors, respells.name,
    Email.isValid_trim_congr respells.email, respells.password, respells.passwordConfirm]

theorem Respells.register_eq {first second : RegisterRequest} (respells : first.Respells second)
    (directory : Directory) (id : String) (now : Instant) :
    directory.register first.newUser id now = directory.register second.newUser id now := by
  simp only [Directory.register, newUser, Email.normalize_trim, respells.email, respells.name,
    respells.password]

theorem passes_iff {asked : RegisterRequest} : asked.fieldErrors.result = .ok () ↔
    Text.isBlankText asked.name = false ∧ Email.IsAddress (Email.normalize asked.email) ∧
      8 ≤ asked.password.length ∧ asked.password = asked.passwordConfirm := by
  rw [result_eq_ok_iff, ← Email.isValid_normalize, Email.isValid_iff_isAddress]
  rfl

end RegisterRequest

/-! ## Endpoints -/

namespace Endpoint

variable {exchange other : Exchange}

theorem handler_congr {endpoint : Endpoint} {state : State}
    (same : endpoint exchange state.directory = endpoint other state.directory) :
    endpoint.handler exchange state = endpoint.handler other state := by
  rw [handler, handler, same]

variable (service : other.service = exchange.service)
  (context : other.context = exchange.context)

include service context

theorem login_eq_of_respells {first second : LoginRequest}
    (read : JsonBody.read LoginRequest.shape.read exchange.request = .ok first)
    (otherRead : JsonBody.read LoginRequest.shape.read other.request = .ok second)
    (respells : first.Respells second) (directory : Directory) :
    login exchange directory = login other directory := by
  simp only [login, Exchange.requireContext_congr context, service, read, otherRead, orStop,
    mapError_ok, ok_bind, respells.fieldErrors, respells.authenticate_eq]

theorem register_eq_of_respells {first second : RegisterRequest}
    (arrival : other.arrival = exchange.arrival)
    (read : JsonBody.read RegisterRequest.shape.read exchange.request = .ok first)
    (otherRead : JsonBody.read RegisterRequest.shape.read other.request = .ok second)
    (respells : first.Respells second) (directory : Directory) :
    register exchange directory = register other directory := by
  simp only [register, Exchange.requireContext_congr context, service, arrival, read, otherRead,
    orStop, mapError_ok, ok_bind, respells.fieldErrors, respells.register_eq]

end Endpoint

/-! ## Requests -/

/-- Two requests for the same login or the same registration, under spellings of an address that are
stored alike. -/
inductive Request.Respells (first second : Request) : Prop
  | login {asked other : LoginRequest} (asks : first.AsksLogin asked)
      (otherAsks : second.AsksLogin other) (respells : asked.Respells other)
  | register {asked other : RegisterRequest} (registers : first.Registers asked)
      (otherRegisters : second.Registers other) (respells : asked.Respells other)

namespace Router

variable {service : Service} {arrival : Arrival} {first second : Request} {state : State}

/-- An open route looks at nothing of a request that its endpoint does not look at. -/
theorem answer_eq_of_open {route : OpenRoute}
    (leads : Destination.ofPath (Target.path first.target) = .anyone route)
    (otherLeads : Destination.ofPath (Target.path second.target) = .anyone route)
    (posted : first.method = "POST") (otherPosted : second.method = "POST")
    (same : route.endpoint (Exchange.arriving service arrival first (.ok [])).entered
        state.directory =
      route.endpoint (Exchange.arriving service arrival second (.ok [])).entered
        state.directory) :
    server.answer service arrival first state = server.answer service arrival second state := by
  have path : Target.path second.target = Target.path first.target :=
    Target.segments?_inj (Destination.segments?_of_anyone otherLeads)
      (Destination.segments?_of_anyone leads)
  rw [server_answer_of_full service arrival first state (by rw [leads]; rfl),
    server_answer_of_full service arrival second state (by rw [otherLeads]; rfl),
    path, leads, posted, otherPosted]
  apply congrArg (Answer.mapResponse _)
  refine Stage.full_congr rfl (otherPosted.trans posted.symm) path ?_
  exact Endpoint.handler_congr same

theorem answer_eq_of_respells (respells : first.Respells second) :
    server.answer service arrival first state = server.answer service arrival second state := by
  cases respells with
  | login asks otherAsks respells =>
      apply answer_eq_of_open asks.leads otherAsks.leads asks.posted otherAsks.posted
      apply Endpoint.login_eq_of_respells
      · rfl
      · rfl
      · exact asks.read
      · exact otherAsks.read
      · exact respells
  | register registers otherRegisters respells =>
      apply answer_eq_of_open registers.leads otherRegisters.leads registers.posted
        otherRegisters.posted
      apply Endpoint.register_eq_of_respells
      · rfl
      · rfl
      · rfl
      · exact registers.read
      · exact otherRegisters.read
      · exact respells

end Router

/-! ## Main result -/

/-- An address is valid if it is in the language of addresses, and its trimmed form is valid if its
stored spelling is. So a login or a registration passes by the stored spelling of its address, and
under two spellings that are stored alike the server gives one answer. -/
theorem Email.isValid_exact :
    (∀ address, isValid address = true ↔ IsAddress address) ∧
    (∀ address, isValid (Text.trim address) = true ↔ isValid (normalize address) = true) ∧
    (∀ login : LoginRequest, login.fieldErrors.result = .ok () ↔
      IsAddress (normalize login.email) ∧ login.password ≠ "") ∧
    (∀ asked : RegisterRequest, asked.fieldErrors.result = .ok () ↔
      Text.isBlankText asked.name = false ∧ IsAddress (normalize asked.email) ∧
        8 ≤ asked.password.length ∧ asked.password = asked.passwordConfirm) ∧
    ∀ service arrival state, ∀ first second : Request, first.Respells second →
      Router.server.answer service arrival first state =
        Router.server.answer service arrival second state := by
  refine ⟨fun address => isValid_iff_isAddress, fun address => ?_,
    fun login => LoginRequest.passes_iff, fun asked => RegisterRequest.passes_iff, ?_⟩
  · rw [isValid_normalize]
  · intro service arrival state first second respells
    exact Router.answer_eq_of_respells respells

def Request.sampleRespelled : Request where
  method := "POST"
  target := "/users/register?again"
  headers := [("content-type", Utf8.encode "application/json; charset=utf-8")]
  body := Utf8.encode ("\x7b\"name\":\"Ada\",\"email\":\"\\tada@X.ORG \"," ++
    "\"password\":\"passw0rd\",\"password_confirm\":\"passw0rd\"\x7d")

theorem Request.registers_sampleRespelled :
    sampleRespelled.Registers ⟨"Ada", "\tada@X.ORG ", "passw0rd", "passw0rd"⟩ where
  leads := by decide +kernel
  posted := rfl
  read := by decide +kernel

theorem Email.isValid_exact_sample :
    isValid "..@[127.0.0.1]" = true ∧
      Router.server.answer .orderly .sample (.ofLogin .sampleOtherSpelling) .peopled =
        Router.server.answer .orderly .sample (.ofLogin ⟨"\u3000ADA@x.org\n", "passw0rd"⟩)
          .peopled ∧
      Router.server.answer .orderly .sample .sampleRegistration .empty =
        Router.server.answer .orderly .sample .sampleRespelled .empty := by
  rcases isValid_exact with ⟨language, -, -, -, alike⟩
  refine ⟨?_, ?_, ?_⟩
  · have unblank : "..@[127.0.0.1]".toList.any Text.isBlank = false := by decide
    exact (language _).mpr ⟨by simpa using List.any_eq_false.mp unblank, by decide, "..".toList,
      "[127.0.0.1]".toList, by decide, by decide, ⟨by decide, by decide, by decide⟩⟩
  · exact alike _ _ _ _ _ (.login (Request.asksLogin_ofLogin _ (by decide +kernel))
      (Request.asksLogin_ofLogin _ (by decide +kernel)) ⟨by decide +kernel, rfl⟩)
  · exact alike _ _ _ _ _ (.register Request.registers_sampleRegistration
      Request.registers_sampleRespelled ⟨by decide +kernel, rfl, rfl, rfl⟩)

end AuthServer
