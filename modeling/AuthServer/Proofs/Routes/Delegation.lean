import AuthServer.Proofs.Endpoint.Delegation
import AuthServer.Proofs.Routes.Accounts
import AuthServer.Proofs.Routes.Gatekeeping

/-!
Services that leave their decisions to this one get those that its own guards would have made. The
claims make a detour through JSON, and an empty id stands for no owner.
-/

namespace AuthServer

structure Request.AsksDecision (request : Request) (service : Service) (arrival : Arrival) :
    Prop where
  leads : Destination.ofPath (Target.path request.target) = .guarded .authorize []
  posted : request.method = "POST"
  known : ∃ caller, request.caller service.authenticator arrival.now = .ok caller

structure Request.Consults (request : Request) (service : Service) (arrival : Arrival)
    (asked : AuthorizeRequest) : Prop extends request.AsksDecision service arrival where
  read : JsonBody.read AuthorizeRequest.shape.read request = .ok asked

/-- A decision is asked for on a document, which the request has letter by letter. -/
structure Request.Delegates (request : Request) (service : Service) (arrival : Arrival)
    (document : String) (delegation : Delegation) : Prop extends
    request.AsksDecision service arrival where
  posed : JsonBody.read (Delegation.shape document).read request = .ok delegation

theorem Request.Delegates.consults {request : Request} {service : Service} {arrival : Arrival}
    {claims : Claims} {delegation : Delegation}
    (delegates : request.Delegates service arrival claims.json delegation) :
    request.Consults service arrival (delegation.about claims) where
  toAsksDecision := delegates.toAsksDecision
  read := Delegation.read_about delegates.posed

/-- An answer is a consent under a condition, and forbids whatever was asked for otherwise. -/
structure Answer.Decides (answer : Answer) (condition : Prop) : Prop where
  consents : condition → answer.status? = some 204
  forbids : ¬condition → answer.status? = some 403

/-- An exchange as it comes to the rule of a guard: its caller is verified, and its path parameters
are known. -/
structure Exchange.IsFrom (exchange : Exchange) (claims : Claims)
    (params : List (String × String)) : Prop where
  verified : ∃ context, exchange.context = some context ∧ context.claims = some claims
  decoded : exchange.params = .ok params

/-- An answer to a question about some claims is what the guards of routes would make of them. -/
structure Answer.Agrees (answer : Answer) (claims : Claims) (delegation : Delegation) : Prop where
  owner : delegation.rule = "user-only" → delegation.owner ≠ "" →
    answer.Decides (claims.subject = delegation.owner ∨ claims.roles.contains .admin = true)
  ownerGuard : delegation.rule = "user-only" → delegation.owner ≠ "" →
    ∀ param exchange params, exchange.IsFrom claims params →
      params.lookup param = some delegation.owner →
      answer.Decides (Stage.applyRule (.owner param) exchange = .ok ())
  unowned : delegation.rule = "user-only" → delegation.owner = "" → answer.status? = some 204
  admin : delegation.rule = "admin-only" → answer.Decides (claims.roles.contains .admin = true)
  adminGuard : delegation.rule = "admin-only" →
    ∀ exchange params, exchange.IsFrom claims params →
      answer.Decides (Stage.applyRule .adminOnly exchange = .ok ())
  unknown : delegation.rule ≠ "user-only" → delegation.rule ≠ "admin-only" →
    answer.Responds 400 (Problem.ofField "rule" (Rule.unknownMessage delegation.rule)).envelope.json

/-! ## Guards -/

theorem Rule.check_eq_ok_iff {rule : Rule} {claims : Claims} {owner : Option String} :
    rule.check claims owner = .ok () ↔
      match rule, owner with
      | .adminOnly, _ | .owner _, none => claims.isAdmin = true
      | .userOnly, some owner | .owner _, some owner => claims.ownsOrAdmin owner = true
      | .userOnly, none => True := by
  rcases rule with _ | _ | param <;> rcases owner with _ | owner <;>
    simp [check, Claims.hasRole_admin]

namespace Stage

variable {exchange : Exchange} {claims : Claims} {params : List (String × String)}

theorem applyRule_of_isFrom (isFrom : exchange.IsFrom claims params) {rule : Rule}
    {owner : Option String} (found : owner? rule (.ok params) = .ok owner) :
    applyRule rule exchange = .ok () ↔ rule.check claims owner = .ok () := by
  rcases isFrom.verified with ⟨context, entered, verified⟩
  have asked : applyRule rule exchange = (rule.check claims owner).mapError .ofDenied := by
    simp only [applyRule, Exchange.requireContext, entered, verified, Option.elim_some, ok_bind,
      isFrom.decoded, found]
  rw [asked]
  cases rule.check claims owner with
  | ok _ => simp
  | error denied => simp

theorem applyRule_owner_iff (isFrom : exchange.IsFrom claims params) {param owner : String}
    (named : params.lookup param = some owner) :
    applyRule (.owner param) exchange = .ok () ↔ claims.ownsOrAdmin owner = true := by
  have found : owner? (.owner param) (.ok params) = .ok (some owner) := by
    simp only [owner?, Rule.ownerParam, named]
  rw [applyRule_of_isFrom isFrom found, Rule.check_eq_ok_iff]

theorem applyRule_adminOnly_iff (isFrom : exchange.IsFrom claims params) :
    applyRule .adminOnly exchange = .ok () ↔ claims.isAdmin = true := by
  have found : owner? .adminOnly (.ok params) = .ok none := rfl
  rw [applyRule_of_isFrom isFrom found, Rule.check_eq_ok_iff]

end Stage

/-! ## More roles -/

theorem Roles.contains_insert (roles : Roles) (role other : Role) :
    (roles.insert role).contains other = (roles.contains other || other == role) := by
  rcases roles with ⟨admin, user⟩
  cases role <;> cases other <;> simp [insert, contains]

theorem Claims.isAdmin_insert {claims : Claims} (admin : claims.isAdmin = true) (role : Role) :
    { claims with roles := claims.roles.insert role }.isAdmin = true := by
  rw [isAdmin] at admin
  simp [isAdmin, Roles.contains_insert, admin]

theorem Claims.ownsOrAdmin_insert {claims : Claims} {owner : String}
    (owns : claims.ownsOrAdmin owner = true) (role : Role) :
    { claims with roles := claims.roles.insert role }.ownsOrAdmin owner = true := by
  rw [ownsOrAdmin, Bool.or_eq_true] at owns ⊢
  exact owns.imp_right fun admin => isAdmin_insert admin role

theorem Rule.check_insert {rule : Rule} {claims : Claims} {owner : Option String}
    (admitted : rule.check claims owner = .ok ()) (role : Role) :
    rule.check { claims with roles := claims.roles.insert role } owner = .ok () := by
  rw [check_eq_ok_iff] at admitted ⊢
  cases rule with
  | adminOnly => exact Claims.isAdmin_insert admitted role
  | userOnly =>
      cases owner with
      | none => trivial
      | some owner => exact Claims.ownsOrAdmin_insert admitted role
  | owner param =>
      cases owner with
      | none => exact Claims.isAdmin_insert admitted role
      | some owner => exact Claims.ownsOrAdmin_insert admitted role

theorem AuthorizeRequest.decide_insert {owner rule : String} {claims : Claims}
    (decided : decide ⟨owner, rule, claims⟩ = .ok ()) (role : Role) :
    decide ⟨owner, rule, { claims with roles := claims.roles.insert role }⟩ = .ok () := by
  unfold decide at decided ⊢
  cases known : Rule.ofText? rule with
  | none => simp [known] at decided
  | some rule =>
      simp only [known] at decided ⊢
      rw [Rule.check_insert (of_mapError decided) role]
      rfl

/-! ## Answers -/

namespace Request.Consults

variable {service : Service} {arrival : Arrival} {request : Request} {asked : AuthorizeRequest}

theorem wraps (consults : request.Consults service arrival asked) (state : State) :
    ∃ exchange : Exchange, exchange.request = request ∧
      (Router.server.answer service arrival request state).Wraps
        (Endpoint.authorize.handler exchange state.entered) := by
  rcases consults.known with ⟨caller, known⟩
  refine ⟨_, rfl, Router.wraps_of_admitted consults.leads ?_ ?_ rfl known rfl⟩
  · simp [consults.posted, GuardedRoute.verb, Verb.accepts]
  · simp [consults.posted]

theorem responds_of_ok (consults : request.Consults service arrival asked)
    (decided : asked.decide = .ok ()) (state : State) :
    (Router.server.answer service arrival request state).Responds 204 "" := by
  rcases consults.wraps state with ⟨exchange, rfl, wraps⟩
  apply wraps.responds_eq (.ofStatus 204)
  simp only [Endpoint.handler, Endpoint.authorize, Endpoint.plain, consults.read, ok_bind, decided]
  rfl

theorem responds_of_error (consults : request.Consults service arrival asked) {problem : Problem}
    (decided : asked.decide = .error problem) (state : State) :
    (Router.server.answer service arrival request state).Responds problem.status
      problem.envelope.json := by
  rcases consults.wraps state with ⟨exchange, rfl, wraps⟩
  apply wraps.responds_eq problem.response
  simp only [Endpoint.handler, Endpoint.authorize, Endpoint.plain, consults.read, ok_bind, decided]
  rfl

theorem status?_eq_iff (consults : request.Consults service arrival asked) (state : State) :
    (Router.server.answer service arrival request state).status? = some 204 ↔
      asked.decide = .ok () := by
  cases decided : asked.decide with
  | ok _ => simp [(consults.responds_of_ok decided state).status?]
  | error problem =>
      have failed : problem.status ≠ 204 := by cases problem <;> simp [Problem.status]
      simp [(consults.responds_of_error decided state).status?, failed]

theorem decides (consults : request.Consults service arrival asked) {allowed : Bool}
    {denied : Denied}
    (decided : asked.decide = if allowed then .ok () else .error (.ofDenied denied))
    {condition : Prop} (means : condition ↔ allowed = true) (state : State) :
    (Router.server.answer service arrival request state).Decides condition where
  consents holds := by
    rw [means.mp holds] at decided
    exact (consults.responds_of_ok decided state).status?
  forbids fails := by
    have refused : allowed = false := by simpa [means] using fails
    rw [refused] at decided
    exact (consults.responds_of_error decided state).status?

theorem agrees {claims : Claims} {delegation : Delegation}
    (consults : request.Consults service arrival (delegation.about claims)) (state : State) :
    (Router.server.answer service arrival request state).Agrees claims delegation := by
  rcases delegation with ⟨owner, rule⟩
  have owns : claims.subject = owner ∨ claims.roles.contains .admin = true ↔
      claims.ownsOrAdmin owner = true := by
    simp [Claims.ownsOrAdmin, Claims.isAdmin]
  constructor
  case owner =>
    rintro rfl named
    exact consults.decides (AuthorizeRequest.decide_owned claims named) owns state
  case ownerGuard =>
    rintro rfl named param exchange params isFrom found
    exact consults.decides (AuthorizeRequest.decide_owned claims named)
      (Stage.applyRule_owner_iff isFrom found) state
  case unowned =>
    rintro rfl rfl
    exact (consults.responds_of_ok (AuthorizeRequest.decide_unowned claims) state).status?
  case admin =>
    rintro rfl
    exact consults.decides (AuthorizeRequest.decide_adminOnly claims owner) .rfl state
  case adminGuard =>
    rintro rfl exchange params isFrom
    exact consults.decides (AuthorizeRequest.decide_adminOnly claims owner)
      (Stage.applyRule_adminOnly_iff isFrom) state
  case unknown =>
    intro notUser notAdmin
    exact consults.responds_of_error
      (AuthorizeRequest.decide_unknown claims owner notUser notAdmin) state

end Request.Consults

/-! ## Main result -/

theorem Router.responds_of_authenticate {service : Service} {arrival : Arrival} {request : Request}
    {state : State} {claims : Claims}
    (leads : Destination.ofPath (Target.path request.target) = .guarded .authenticate [])
    (got : request.method = "GET")
    (known : request.caller service.authenticator arrival.now = .ok claims) :
    (server.answer service arrival request state).Responds 200 claims.json :=
  (wraps_of_got leads rfl got rfl known rfl).responds_eq (.ofJson 200 claims.json) rfl

/-- A service that leaves its decisions to this one gets those of the guards. It is shown a document
for a token, sends it along with an owner and a rule, and is answered as the guards of that rule
would answer the bearer of the token. No role takes a consent away. -/
theorem Service.delegation_agrees {service : Service} {arrival : Arrival} {request : Request}
    {claims : Claims}
    (leads : Destination.ofPath (Target.path request.target) = .guarded .authenticate [])
    (got : request.method = "GET")
    (known : request.caller service.authenticator arrival.now = .ok claims) :
    (∀ state, (Router.server.answer service arrival request state).Responds 200 claims.json) ∧
    (∀ (asking : Request) delegation, JsonBody.isDeclared asking →
      asking.body = Utf8.encode (delegation.json claims.json) →
      asking.body.length ≤ JsonBody.lengthLimit →
      JsonBody.read (Delegation.shape claims.json).read asking = .ok delegation) ∧
    ∀ deciding visit asking state delegation,
      asking.Delegates deciding visit claims.json delegation →
      (Router.server.answer deciding visit asking state).Agrees claims delegation ∧
      ((Router.server.answer deciding visit asking state).status? = some 204 →
        ∀ role decidingMore visitMore askingMore stateMore,
          askingMore.Delegates decidingMore visitMore
            { claims with roles := claims.roles.insert role }.json delegation →
          (Router.server.answer decidingMore visitMore askingMore stateMore).status? =
            some 204) := by
  refine ⟨fun state => Router.responds_of_authenticate leads got known, ?_, ?_⟩
  · intro asking delegation declared body short
    exact Delegation.read_json (Json.startsValue_objectText _) declared body short
  · intro deciding visit asking state delegation delegates
    refine ⟨delegates.consults.agrees state, ?_⟩
    intro consented role decidingMore visitMore askingMore stateMore delegatesMore
    rw [delegates.consults.status?_eq_iff] at consented
    rw [delegatesMore.consults.status?_eq_iff]
    exact AuthorizeRequest.decide_insert consented role

def Request.ofDelegation (token document : String) (delegation : Delegation) : Request where
  method := "POST"
  target := "/auth/authorize"
  headers := [("authorization", Utf8.encode ("Bearer " ++ token)),
    ("content-type", Utf8.encode "application/json")]
  body := Utf8.encode (delegation.json document)

theorem Request.delegates_ofDelegation {token document : String} {delegation : Delegation}
    (issued : Authenticator.sample.issue "k" Authenticator.sampleClaims = .ok token)
    (starts : Json.StartsValue document)
    (short : (ofDelegation token document delegation).body.length ≤ JsonBody.lengthLimit) :
    (ofDelegation token document delegation).Delegates .sample .sample document delegation where
  leads := by
    change Destination.ofPath (Target.path "/auth/authorize") = _
    decide +kernel
  posted := rfl
  known := ⟨_, caller_of_issue_sample (header?_eq rfl (by decide +kernel)) issued⟩
  posed := by
    have header : (ofDelegation token document delegation).header? "content-type" =
        some (Utf8.encode "application/json") := by
      have first : Text.lowerAscii "authorization" ≠ "content-type" := by decide +kernel
      have second : Text.lowerAscii "content-type" = "content-type" := by decide +kernel
      simp [header?, ofDelegation, first, second]
    have declared := JsonBody.isDeclared_of_header header
    exact Delegation.read_json starts declared rfl short

theorem Service.delegation_agrees_sample :
    ∃ token, Authenticator.sample.issue "k" Authenticator.sampleClaims = .ok token ∧
      ∃ document,
        (Router.server.answer .sample .sample
          { Request.sample token with target := "/auth/authenticate" } .empty).Responds 200
            document ∧
        ∀ delegation status,
          (delegation, status) ∈ [(Delegation.mk "s" "user-only", 204), (⟨"u", "user-only"⟩, 403),
            (⟨"", "user-only"⟩, 204), (⟨"s", "admin-only"⟩, 403), (⟨"s", "owner"⟩, 400)] →
          (Router.server.answer .sample .sample
            (.ofDelegation token document delegation) .empty).status? = some status := by
  rcases Authenticator.exists_issue_sample with ⟨token, issued⟩
  let request : Request := { Request.sample token with target := "/auth/authenticate" }
  have leads : Destination.ofPath (Target.path request.target) = .guarded .authenticate [] := by
    change Destination.ofPath (Target.path "/auth/authenticate") = _
    decide +kernel
  have known : request.caller Service.sample.authenticator Arrival.sample.now =
      .ok Authenticator.sampleClaims := Request.caller_sample issued
  rcases delegation_agrees leads rfl known with ⟨shown, -, decided⟩
  have agrees (delegation : Delegation)
      (short : (Utf8.encode (delegation.json Authenticator.sampleClaims.json)).length ≤
        JsonBody.lengthLimit) :
      (Router.server.answer .sample .sample (.ofDelegation token _ delegation) .empty).Agrees
        Authenticator.sampleClaims delegation :=
    (decided _ _ _ .empty delegation
      (Request.delegates_ofDelegation issued (Json.startsValue_objectText _) short)).1
  refine ⟨token, issued, Authenticator.sampleClaims.json, shown .empty, ?_⟩
  intro delegation status listed
  simp only [List.mem_cons, Prod.mk.injEq, List.not_mem_nil, or_false] at listed
  rcases listed with ⟨rfl, rfl⟩ | ⟨rfl, rfl⟩ | ⟨rfl, rfl⟩ | ⟨rfl, rfl⟩ | ⟨rfl, rfl⟩
  · exact ((agrees _ (by decide +kernel)).owner rfl (by decide)).consents (by decide)
  · exact ((agrees _ (by decide +kernel)).owner rfl (by decide)).forbids (by decide)
  · exact (agrees _ (by decide +kernel)).unowned rfl rfl
  · exact ((agrees _ (by decide +kernel)).admin rfl).forbids (by decide)
  · exact ((agrees _ (by decide +kernel)).unknown (by decide) (by decide)).status?

end AuthServer
