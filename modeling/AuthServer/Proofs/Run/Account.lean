import AuthServer.Proofs.Routes.Accounts
import AuthServer.Proofs.Run.Trace

/-!
Accounts in use: who logs in to an account that is in the directory, and what a token from the login
is good for.
-/

namespace AuthServer

/-- A service whose directory is within reach, and whose tokens live for some seconds. -/
structure Service.InOrder (service : Service) (lifetime : Int) : Prop where
  available : service.availability = .available
  lives : service.authenticator.lifetime = .ofSeconds lifetime
  sound : service.authenticator.HasSoundKey

namespace Request

structure Registers (request : Request) (asked : RegisterRequest) : Prop where
  leads : Destination.ofPath (Target.path request.target) = .anyone .register
  posted : request.method = "POST"
  read : JsonBody.read RegisterRequest.shape.read request = .ok asked

structure AsksLogin (request : Request) (login : LoginRequest) : Prop where
  leads : Destination.ofPath (Target.path request.target) = .anyone .login
  posted : request.method = "POST"
  read : JsonBody.read LoginRequest.shape.read request = .ok login

structure Bears (request : Request) (token : String) (destination : Destination) : Prop where
  leads : Destination.ofPath (Target.path request.target) = destination
  got : request.method = "GET"
  header : request.header? "authorization" = some (Utf8.encode ("Bearer " ++ token))

def ofLogin (login : LoginRequest) : Request where
  method := "POST"
  target := "/users/login"
  headers := [("content-type", Utf8.encode "application/json")]
  body := Utf8.encode login.json

theorem asksLogin_ofLogin (login : LoginRequest)
    (short : (ofLogin login).body.length ≤ JsonBody.lengthLimit) :
    (ofLogin login).AsksLogin login where
  leads := by
    change Destination.ofPath (Target.path "/users/login") = _
    decide +kernel
  posted := rfl
  read := by
    have declared : JsonBody.isDeclared (ofLogin login) :=
      JsonBody.isDeclared_of_header (header?_eq rfl (by decide +kernel))
    exact LoginRequest.read_json declared rfl short

end Request

namespace Service

variable {service : Service} {lifetime : Int} {state : State} {id : String} {account : Account}
variable {arrival : Arrival} {request : Request}

section Login

variable {login : LoginRequest} (order : service.InOrder lifetime)
  (consistent : state.directory.IsConsistent) (member : (id, account) ∈ state.directory.accounts)
  (asks : request.AsksLogin login) (same : Email.normalize login.email = account.user.email)
  (complete : login.fieldErrors.result = .ok ())

include order consistent member asks same complete

theorem responds_to_login (powerful : account.user.roles.isEmpty = false)
    (right : login.password = account.password) (later : 0 ≤ arrival.now.seconds + lifetime) :
    ∃ token claims,
      (Router.server.answer service arrival request state).Responds 200 (tokenJson token) ∧
        service.authenticator.IsSession account.user.principal arrival.now lifetime token
          claims := by
  have known : state.directory.authenticate (Text.trim login.email) login.password =
      .ok account.user.principal := by
    rw [consistent.authenticate_eq member ((Email.normalize_trim _).trans same), if_pos right.symm]
  have roles : account.user.principal.roles.isEmpty = false := powerful
  rcases order.sound.exists_session order.lives roles later with ⟨token, issued, session⟩
  exact ⟨token, _, Router.responds_of_known asks.leads asks.posted asks.read complete
    order.available known issued, session⟩

theorem refuses_login (wrong : login.password ≠ account.password) :
    (Router.server.answer service arrival request state).Responds 401
      (Problem.unauthenticated .invalidCredentials).envelope.json := by
  have unknown : state.directory.authenticate (Text.trim login.email) login.password =
      .error .invalidCredentials := by
    rw [consistent.authenticate_eq member ((Email.normalize_trim _).trans same),
      if_neg (Ne.symm wrong)]
  exact Router.responds_of_unknown asks.leads asks.posted asks.read complete order.available
    unknown

end Login

section Session

variable {principal : Principal} {now : Instant} {token : String} {claims : Claims}
  {destination : Destination}

theorem caller_of_session
    (session : service.authenticator.IsSession principal now lifetime token claims)
    (bears : request.Bears token destination)
    (started : claims.issuedAt.toInt - 60 ≤ arrival.now.seconds)
    (alive : arrival.now.seconds ≤ claims.expiresAt.toInt) :
    request.caller service.authenticator arrival.now = .ok claims := by
  rw [Request.caller_of_header bears.header session.printable]
  exact session.accepted arrival.now started alive

end Session

end Service

end AuthServer
