import SignOn.Proofs.Service.LeftPending
import SignOn.Proofs.Service.Reentry

/-!
# The round trip through the login form

A pending request was read from the parameters that the session keeps of it, for a client that is
still in the registry (`Run.pending_read`). So a login sends the browser back with these parameters
(`posted_login`), and the request that follows is judged as the same request with a login that has
just happened (`followed_login`). The two together complete the interaction (`login_round_trip`).
-/

namespace SignOn

open Session (State)

-- ---------------------------------------------------------------------------
-- Requests that may proceed
-- ---------------------------------------------------------------------------

/-- Whether the age of the last login is within the limit of the pending request. A request that
must not lead to a login page has no limit. -/
def Session.State.AllowsAge (state : State) (pending : Request.Record) (micros : Int) : Prop :=
  pending.isPassive = false →
    ∀ limit, state.ageLimit = some limit → Time.wholeSeconds micros ≤ limit

theorem Interceptor.verdict_eq_proceed {interceptor : Interceptor} {state : State}
    {request : Request} {client : Client} {login : Instant}
    (hlive : interceptor.clock.isLive state = true) (hlogin : state.loginTime = some login)
    (hforced : request.toRecord.wantsLogin = true → state.loginForced = true)
    (hage : request.toRecord.isPassive = false → ∀ limit,
      Decision.ageLimit request.maxAge client.defaultMaxAge = some limit →
      Time.wholeSeconds (interceptor.clock.now.since login) ≤ limit) :
    interceptor.verdict state request client = .proceed := by
  cases hp : request.toRecord.isPassive with
  | true => rw [verdict_of_passive hp, if_pos hlive]
  | false =>
    have hn : ¬ (request.toRecord.wantsLogin = true ∧ state.loginForced = false) := by
      rintro ⟨hw, hf⟩
      cases hf.symm.trans (hforced hw)
    rw [verdict_of_age hp hn, hlogin]
    cases hl : Decision.ageLimit request.maxAge client.defaultMaxAge with
    | none => rfl
    | some limit =>
      rw [Decision.ofAge, if_neg]
      exact Int.not_lt.mpr (hage hp limit hl)

namespace Service

variable {settings : Settings} {first service : Service} {earlier later history : List Exchange}
  {e : Exchange} {request : Request} {client : Client} {parameters : Assoc String}
  {pending : Request.Record} {user : User}

-- ---------------------------------------------------------------------------
-- The parameters of a pending request
-- ---------------------------------------------------------------------------

theorem Run.pending_read (h : Run settings first history service) (hf : first.IsFresh)
    (sid : Session.Id) (hp : (service.store.state sid).pending ≠ none) :
    ∃ parameters request client, KeepsRequest service.database.clients (service.store.state sid)
      parameters request client := by
  obtain ⟨x, request, client, own, since, parameters, hown, -, ht, -, hfound, -⟩ :=
    h.pending_since hf sid hp
  have hmem : x ∈ history := by
    have hx : x ∈ ofSession sid history := by simp [hown]
    exact (List.mem_filter.mp hx).1
  obtain ⟨earlier, later, rfl⟩ := List.append_of_mem hmem
  have hclients : x.before.database.clients = service.database.clients :=
    (h.before.1.tables hf).1.trans (h.tables hf).1.symm
  have hk := ht.keepsRequest (ht.not_denied (by rw [hfound]; exact hp))
  rw [hfound, hclients] at hk
  exact ⟨parameters, request, client, hk⟩

theorem reentryParameters_of_read
    (h : Interceptor.readRequest registry parameters = .ok (request, client))
    (pending : Request.Record) :
    reentryParameters (some parameters) pending = parameters.entries :=
  reentryParameters_of_ne_nil
    (Request.entries_of_ofParameters (Interceptor.readRequest_eq_ok.mp h).1) pending

-- ---------------------------------------------------------------------------
-- The login form
-- ---------------------------------------------------------------------------

/-- A form with a name and a password, neither of them empty. -/
structure Submits (request : Http.Request) (username password : String) : Prop where
  form : ∃ fields, request.formPairs = .ok fields ∧
    Http.lastValue "username" fields = some username ∧
    Http.lastValue "password" fields = some password
  username_ne : username ≠ ""
  password_ne : password ≠ ""

theorem Submits.authenticates {http : Http.Request} {username password : String}
    {hasher : Hasher} {database : Database} (h : Submits http username password)
    (hu : database.user? username = some user)
    (hv : hasher.verifyPassword password user.passwordHash = .ok true) :
    Authenticates hasher database.users http user := by
  obtain ⟨fields, hfields, husername, hpassword⟩ := h.form
  refine ⟨fields, hfields, ?_, ?_⟩
  · simp [missingFields, husername, hpassword, Request.nonEmpty, h.username_ne, h.password_ne]
  · have hu' : ({ users := database.users } : Database).user? username = some user := hu
    rw [husername, hpassword, Option.getD_some, Option.getD_some, checkPassword, hu']
    simp only [hv, Except.map, ↓reduceIte]

theorem Authenticates.unique {hasher : Hasher} {users : List User} {http : Http.Request}
    {other : User} (h : Authenticates hasher users http user)
    (h' : Authenticates hasher users http other) : user = other := by
  obtain ⟨fields, hf, -, hu⟩ := h
  obtain ⟨fields', hf', -, hu'⟩ := h'
  cases hf.symm.trans hf'
  cases hu.symm.trans hu'
  rfl

theorem Exchange.Lawful.logsIn_of (h : e.Lawful settings) (hr : e.Reaches settings .login)
    (hp : e.found.pending = some pending)
    (hu : Authenticates e.before.hasher e.before.database.users e.request user) :
    e.LogsIn settings pending user := by
  rcases h.left_cases with hs | ⟨other, hc⟩ | ⟨other, found, hl⟩
  · exact absurd hu (hs.not_authenticated hr (by simp [hp]) user)
  · cases hr.2.symm.trans hc.reaches.2
  · obtain rfl : other = pending := Option.some.inj (hl.pending_eq.symm.trans hp)
    obtain rfl := hl.authenticated.unique hu
    exact hl

theorem posted_login (hs : settings.HasPlainPaths) (he : e.Lawful settings)
    (hk : KeepsRequest registry e.entered parameters request client)
    (hpost : e.request.GoesTo "POST" settings.loginPath)
    (hu : Authenticates e.before.hasher e.before.database.users e.request user) :
    e.answer = .ok (.reentry parameters.entries) ∧
      e.left = e.entered.loggedIn user.username e.before.now := by
  obtain ⟨hi, hfound⟩ := he.unconcerned_of (hpost.addressPath_eq hs.login) hs.apart
  have hr : e.Reaches settings .login := by
    refine ⟨⟨_, hi, rfl⟩, ?_⟩
    rw [hpost.method_eq, hpost.path_eq, route_login hs]
  have hl := he.logsIn_of hr (by rw [hfound, hk.pending_eq]) hu
  refine ⟨?_, ?_⟩
  · rw [hl.answer_eq, hfound, hk.parameters_eq, reentryParameters_of_read hk.read]
  · rw [hl.left_eq, hfound]

-- ---------------------------------------------------------------------------
-- The way back
-- ---------------------------------------------------------------------------

def handoffOf (pending : Request.Record) (user : User) (login : Instant) : Handoff :=
  { clientId := pending.clientId
    subject := some user.username
    authTime := some login.epochSeconds
    redirectUri := pending.redirectUri
    state := pending.state
    scope := Handoff.scopeLine pending.scopes
    nonce := pending.nonce
    acrValues := pending.acrValues
    forced := pending.prompts Request.loginToken
    passive := pending.prompts Request.noneToken }

theorem handoffAnswer_of_read
    (h : Interceptor.readRequest registry parameters = .ok (request, client)) {state : State}
    {login : Instant} (hs : state.subject = some user.username)
    (hl : state.loginTime = some login) :
    handoffAnswer request.toRecord state =
      .ok (.handoff (handoffOf request.toRecord user login)) := by
  rw [handoffAnswer, Handoff.ofRequest_eq (Interceptor.readRequest_eq_ok.mp h).1, hs, hl]
  rfl

theorem Exchange.TakesUp.found_of_proceed (h : e.TakesUp settings request client parameters)
    (hv : (e.before.interceptor settings).verdict e.entered request client = .proceed) :
    e.found = (e.entered.started request parameters client).judged request := by
  rw [h.found_eq, Interceptor.accepted, hv]
  rfl

theorem Exchange.TakesUp.completes (h : e.TakesUp settings request client parameters)
    (he : e.Lawful settings)
    (hv : (e.before.interceptor settings).verdict e.entered request client = .proceed)
    (hlive : (e.before.clock settings).isLive e.entered = true)
    (hr : route settings e.request.method e.request.path = .endpoint .authorize) :
    e.Completes settings request.toRecord := by
  have hfound := h.found_of_proceed hv
  have hthrough : e.Reaches settings .authorize := by
    refine ⟨⟨_, h.decided, ?_⟩, hr⟩
    rw [hv]
    rfl
  refine he.completes_iff.mpr ⟨hthrough, by rw [hfound]; rfl, ?_⟩
  rw [hfound, ← hlive]
  exact Session.Login.Clock.isLive_congr rfl rfl

/-- A request that comes with the parameters of the last login's request is completed, if the login
is live and young enough. -/
theorem followed_login {g : Exchange} {state : State} {login : Instant}
    (hs : settings.HasPlainPaths) (hg : g.Lawful settings)
    (hk : KeepsRequest g.before.database.clients state parameters request client)
    (ht : g.before.store.takes state = true)
    (hentered : g.entered = state.loggedIn user.username login)
    (hget : g.request.GoesTo "GET" settings.authorizePath)
    (hq : g.request.query = Http.Reply.reentryQuery parameters.entries)
    (hforced : request.toRecord.wantsLogin = true → state.loginForced = true)
    (hlive : g.before.now.since login ≤ settings.sessionTimeout * Time.microsPerSecond)
    (hage : state.AllowsAge request.toRecord (g.before.now.since login)) :
    g.answer = .ok (.handoff (handoffOf request.toRecord user login)) ∧
      g.left = g.found.ended false := by
  have hexpired : (g.before.clock settings).isExpired login = false := by
    rw [Session.Login.Clock.isExpired, decide_eq_false_iff_not]
    exact Int.not_lt.mpr hlive
  have hisLive : (g.before.clock settings).isLive g.entered = true := by
    rw [Session.Login.Clock.isLive_eq, hentered]
    exact ⟨_, _, rfl, rfl, hexpired⟩
  have hstart : g.before.store.takes (g.entered.started request parameters client) = true := by
    rw [← ht]
    exact Session.Store.takes_congr hk.pending_eq.symm hk.client_eq.symm
  have htaken := hg.takesUp_of (hget.addressPath_eq hs.authorize)
    (Interceptor.covers_self hs.authorize.ne_empty) (hget.parameters_eq hq) (by rw [hentered]; rfl)
    hk.read hstart
  have hlogin : g.entered.loginTime = some login := by
    rw [hentered]
    rfl
  have hproceed : (g.before.interceptor settings).verdict g.entered request client = .proceed := by
    refine Interceptor.verdict_eq_proceed hisLive hlogin ?_ ?_
    · intro hw
      rw [hentered]
      simpa [Session.State.loggedIn, Session.State.ended] using hforced hw
    · intro hp limit hl
      exact hage hp limit (by rw [Session.State.ageLimit_eq hk.pending_eq hk.client_eq, hl])
  have hc : g.Completes settings request.toRecord := by
    refine htaken.completes hg hproceed hisLive ?_
    rw [hget.method_eq, hget.path_eq, route_authorize settings (by decide)]
  refine ⟨?_, hc.left_eq⟩
  rw [hc.answer_eq, htaken.found_of_proceed hproceed]
  -- neither starting nor judging a request touches the login
  refine handoffAnswer_of_read hk.read ?_ ?_
  · show g.entered.subject = _
    rw [hentered]
    rfl
  · exact hlogin

-- ---------------------------------------------------------------------------
-- There and back
-- ---------------------------------------------------------------------------

/-- Wherever a run has left a request pending, a login sends the browser back to the authorize path
with the parameters of the request, and the request that follows in the same session completes it:
at once or later, as long as the login is live and not too old for the request, and whatever other
sessions do in between. -/
theorem login_round_trip (hs : settings.HasPlainPaths) (hf : first.IsFresh)
    (h : Run settings first (earlier ++ e :: later) service)
    (hothers : ∀ other ∈ later, other.sid ≠ e.sid)
    (hp : e.entered.pending = some pending)
    (hforced : pending.wantsLogin = true → e.entered.loginForced = true)
    (hpost : e.request.GoesTo "POST" settings.loginPath)
    (hform : Submits e.request username password)
    (huser : e.before.database.user? username = some user)
    (hpassword : e.before.hasher.verifyPassword password user.passwordHash = .ok true) :
    ∃ parameters,
      e.entered.parameters = some parameters ∧
      e.answer = .ok (.reentry parameters.entries) ∧
      (∀ newSession,
        (Http.Reply.ofAnswer settings (.reentry parameters.entries) newSession).status = 302 ∧
        (Http.Reply.ofAnswer settings (.reentry parameters.entries) newSession).location =
          some (settings.authorizePath ++ "?" ++ Http.Reply.reentryQuery parameters.entries)) ∧
      Uri.Form.decodeBytes (Text.Utf8.encodeString (Http.Reply.reentryQuery parameters.entries)) =
        parameters.entries ∧
      ∀ get : Http.Request, get.GoesTo "GET" settings.authorizePath →
        get.query = Http.Reply.reentryQuery parameters.entries →
        service.sessionOf settings get = e.sid →
        service.now.since e.before.now ≤ settings.sessionTimeout * Time.microsPerSecond →
        e.entered.AllowsAge pending (service.now.since e.before.now) →
        (exchange settings service get).answer =
            .ok (.handoff (handoffOf pending user e.before.now)) ∧
          (exchange settings service get).left.pending = none ∧
          (exchange settings service get).left.parameters = none ∧
          (exchange settings service get).left.client = none ∧
          (exchange settings service get).left.loginForced = false := by
  have hrun := h.before.1
  have hclients : e.before.database.clients = service.database.clients :=
    (hrun.tables hf).1.trans (h.tables hf).1.symm
  have htakes : e.before.store.takes = service.store.takes :=
    (hrun.tables hf).2.trans (h.tables hf).2.symm
  obtain ⟨parameters, request, client, hk⟩ :=
    hrun.pending_read hf e.sid (by rw [← Exchange.entered, hp]; simp)
  obtain rfl := Option.some.inj (hp.symm.trans hk.pending_eq)
  obtain ⟨hanswer, hleft⟩ :=
    posted_login hs (h.lawful hf) hk hpost (hform.authenticates huser hpassword)
  refine ⟨parameters, hk.parameters_eq, hanswer,
    fun newSession => ⟨rfl, Http.Reply.location_reentry hs _ newSession⟩,
    Http.Reply.reentryQuery_pairs _, ?_⟩
  intro get hget hq hsid hlive hage
  have hg := exchange_lawful (h.healthy hf) settings get
  have hentered : (exchange settings service get).entered =
      e.entered.loggedIn user.username e.before.now := by
    rw [Exchange.entered, ← hleft, ← h.state_of_others hf hothers]
    exact congrArg service.store.state hsid
  have htaken : service.store.takes e.entered = true := by
    rw [← htakes]
    exact (hrun.healthy hf).takes_state e.sid
  rw [hclients] at hk
  obtain ⟨hdone, hended⟩ :=
    followed_login hs hg hk htaken hentered hget hq hforced hlive hage
  rw [hended]
  exact ⟨hdone, rfl, rfl, rfl, rfl⟩

-- A request that asks for a login and sets an age limit, its login, and half a minute.
def returningExchange : Exchange :=
  exchange {} (replay {} demo [.request (ask "client_id=web&prompt=login&max_age=60")]).2 logIn

def returned : Service := { returningExchange.after with now := ⟨30000000⟩ }

theorem hasPlainPaths_default : ({} : Settings).HasPlainPaths :=
  ⟨⟨rfl, List.all_eq_true.mp (by decide +kernel)⟩, ⟨rfl, List.all_eq_true.mp (by decide +kernel)⟩,
    by decide +kernel⟩

theorem isOrigin_demo : Http.IsOrigin "http://idp" := by
  have hhost : "idp".toList.all (fun c => !Uri.endsAuthority c && !Uri.isLineBreak c) = true := rfl
  refine ⟨"http".toList, "idp".toList, rfl, rfl, fun c hc => ?_, rfl, rfl⟩
  simpa using List.all_eq_true.mp hhost c hc

theorem logIn_submits : Submits logIn "ada" "pw" := by
  have hfields : logIn.formPairs = .ok [("username", "ada"), ("password", "pw")] :=
    eq_ok_of_toOption (by decide +kernel)
  exact ⟨⟨_, hfields, rfl, rfl⟩, by decide, by decide⟩

theorem returningExchange_entered :
    ∃ pending parameters, returningExchange.entered.pending = some pending ∧
      pending.wantsLogin = true ∧ returningExchange.entered.loginForced = true ∧
      returningExchange.entered.ageLimit = some 60 ∧
      returningExchange.entered.parameters = some parameters ∧
      Http.Reply.reentryQuery parameters.entries = "client_id=web&prompt=login&max_age=60" := by
  have hpending : returningExchange.entered.pending.any (·.wantsLogin) = true := by decide +kernel
  have hparameters : returningExchange.entered.parameters.any (fun parameters =>
      Http.Reply.reentryQuery parameters.entries == "client_id=web&prompt=login&max_age=60") =
      true := by decide +kernel
  obtain ⟨pending, hp, hwants⟩ := (Option.any_eq_true ..).mp hpending
  obtain ⟨parameters, hstored, hquery⟩ := (Option.any_eq_true ..).mp hparameters
  exact ⟨pending, parameters, hp, hwants, by decide +kernel, by decide +kernel, hstored,
    eq_of_beq hquery⟩

theorem returningExchange_round_trip :
    ∃ pending, returningExchange.entered.pending = some pending ∧ pending.wantsLogin = true ∧
      returningExchange.entered.loginForced = true ∧
      returningExchange.entered.ageLimit = some 60 ∧
      (exchange {} returned (ask "client_id=web&prompt=login&max_age=60")).answer =
        .ok (.handoff (handoffOf pending ⟨"ada", "=pw"⟩ ⟨0⟩)) := by
  obtain ⟨pending, stored, hp, hwants, hforced, hlimit, hstored, hquery⟩ :=
    returningExchange_entered
  have hrun : Run {} demo
      ((replay {} demo [.request (ask "client_id=web&prompt=login&max_age=60")]).1 ++
        returningExchange :: []) returned :=
    .clock (.request (run_replay ..) _) _
  have huser : returningExchange.before.database.user? "ada" =
      some ⟨"ada", "=pw"⟩ := by decide +kernel
  have hpassword : returningExchange.before.hasher.verifyPassword "pw" "=pw" = .ok true :=
    eq_ok_of_toOption (by decide +kernel)
  have hnow : returningExchange.before.now = ⟨0⟩ := by decide +kernel
  have hsid : returned.sessionOf {} (ask "client_id=web&prompt=login&max_age=60") =
      returningExchange.sid := by decide +kernel
  obtain ⟨parameters, hparameters, -, -, -, hback⟩ := login_round_trip hasPlainPaths_default
    demo_isFresh hrun (by simp) hp (fun _ => hforced) ⟨rfl, rfl, isOrigin_demo⟩ logIn_submits
    huser hpassword
  obtain rfl := Option.some.inj (hstored.symm.trans hparameters)
  rw [hnow] at hback
  have hage : returningExchange.entered.AllowsAge pending (returned.now.since ⟨0⟩) := by
    intro _ limit hl
    obtain rfl := Option.some.inj (hlimit.symm.trans hl)
    decide
  have hlive : returned.now.since ⟨0⟩ ≤ ({} : Settings).sessionTimeout * Time.microsPerSecond := by
    decide
  obtain ⟨hanswer, -⟩ :=
    hback (ask _) ⟨rfl, rfl, isOrigin_demo⟩ hquery.symm hsid hlive hage
  exact ⟨pending, hp, hwants, hforced, hlimit, hanswer⟩

end Service

end SignOn
