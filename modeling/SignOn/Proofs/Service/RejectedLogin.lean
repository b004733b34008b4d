import SignOn.Proofs.Service.Isolation
import SignOn.Proofs.Service.LoginRoundTrip

/-!
# Logins that fail

While a request is pending, a login form comes to what its password check finds (`login_responds`),
and a check that finds nobody is answered with the user name that was sent and nothing of the tables
(`login_rejected`). So two forms with one user name that both fail are answered alike, whatever
users there are and whatever the passwords were (`failed_logins_alike`).
-/

namespace SignOn.Service

open Session (State)

/-- Every stored hash is one that a hasher can check passwords by. -/
def HasUsableHashes (hasher : Hasher) (users : List User) : Prop :=
  ∀ user ∈ users, ∀ bytes, (hasher.check bytes user.passwordHash).isSome

/-- A login form of a session that is sent to the login path with a user name and a password. -/
structure AttemptsLogin (settings : Settings) (request : Http.Request) (sid : Session.Id)
    (username : String) : Prop where
  session : cookieSession? settings request = some sid
  address : ∃ path, request.addressPath = .ok path
  route_eq : route settings request.method request.path = .endpoint .login
  form : ∃ password, Submits request username password

section
variable {settings : Settings} {service : Service} {request : Http.Request} {sid : Session.Id}
  {username : String} {pending : Request.Record}

-- ---------------------------------------------------------------------------
-- Forms that reach the password check
-- ---------------------------------------------------------------------------

theorem checkPassword_ok {hasher : Hasher} {database : Database}
    (h : HasUsableHashes hasher database.users) (username password : String) :
    ∃ found, checkPassword hasher database username password = .ok found := by
  unfold checkPassword
  cases hu : database.user? username with
  | none => exact ⟨none, rfl⟩
  | some user =>
    obtain ⟨valid, hvalid⟩ := Option.isSome_iff_exists.mp
      (h user (List.mem_of_find?_eq_some hu) (Hasher.significant password))
    simp only [Hasher.verifyPassword, hvalid]
    exact ⟨_, rfl⟩

theorem AttemptsLogin.parameters_ok (h : AttemptsLogin settings request sid username) :
    ∃ parameters, request.parameters = .ok parameters := by
  obtain ⟨_, ⟨fields, hfields, -⟩, -, -⟩ := h.form
  unfold Http.Request.parameters Http.Request.parameterPairs
  rw [hfields]
  split <;> exact ⟨_, rfl⟩

/-- While a request is pending, the interception lets a session through and logs nothing. -/
theorem Intercepted.of_pending {interceptor : Interceptor} {takes : State → Bool}
    {state found : State} {result : Except Failure Interception}
    (h : Intercepted interceptor takes request state result found)
    (hp : state.pending = some pending) (haddress : ∃ path, request.addressPath = .ok path)
    (hparameters : ∃ parameters, request.parameters = .ok parameters) :
    ∃ interception, result = .ok interception ∧ interception.decision? = none ∧
      eventsOf interception = [] ∧ found = state := by
  obtain ⟨path, hpath⟩ := haddress
  obtain ⟨parameters, hparameters⟩ := hparameters
  cases h with
  | unreadAddress hpath' => cases hpath.symm.trans hpath'
  | unreadParameters _ _ hparameters' => cases hparameters.symm.trans hparameters'
  | read _ _ ho =>
    cases ho with
    | unconcerned _ => exact ⟨_, rfl, rfl, rfl, rfl⟩
    | resumed _ _ => exact ⟨_, rfl, rfl, rfl, rfl⟩
    | rejected _ hidle => cases hidle.symm.trans hp
    | failed _ hidle => cases hidle.symm.trans hp
    | refused _ hidle => cases hidle.symm.trans hp
    | decided _ hidle => cases hidle.symm.trans hp

theorem serve_login (hr : route settings request.method request.path = .endpoint .login)
    {password : String} (h : Submits request username password) (sid : Session.Id) :
    serve settings request sid = login settings sid username password request.ip := by
  obtain ⟨⟨fields, hfields, husername, hpassword⟩, husername_ne, hpassword_ne⟩ := h
  have hmissing : missingFields fields = [] := by
    simp [missingFields, husername, hpassword, Request.nonEmpty, husername_ne, hpassword_ne]
  simp only [serve, hr, submitLogin, hfields, hmissing, husername, hpassword, Option.getD_some]

theorem login_responds (h : service.store.Healthy)
    (hr : AttemptsLogin settings request sid username)
    (hp : (service.store.state sid).pending = some pending) :
    ∃ password, Does (respond settings request sid) service sid
      (loginAnswer (service.store.state sid) pending username
        (checkPassword service.hasher service.database username password))
      (loginState (service.store.state sid) service.now
        (checkPassword service.hasher service.database username password))
      (loginLog service.now pending request.ip
        (checkPassword service.hasher service.database username password)) := by
  obtain ⟨password, hform⟩ := hr.form
  obtain ⟨result, found, hd, hi⟩ := intercept_does h settings request sid
  obtain ⟨interception, rfl, hdecision, hevents, rfl⟩ :=
    hi.of_pending hp hr.address hr.parameters_ok
  rw [interceptionLog, hevents, List.map_nil] at hd
  refine ⟨password, .bind_silent hd fun middle hm => ?_⟩
  have hpending : (middle.store.state sid).pending = some pending := by rw [hm.state_eq, hp]
  have hlogin := login_does hm.healthy settings username password request.ip hpending
  have hcheck : checkPassword middle.hasher middle.database username password =
      checkPassword service.hasher service.database username password := by
    rw [hm.hasher, checkPassword, checkPassword, Database.user?, Database.user?, hm.users]
  rw [hm.state_eq, hm.now, hcheck] at hlogin
  simp only [hdecision, Option.bind_none, serve_login hr.route_eq hform]
  exact hlogin

-- ---------------------------------------------------------------------------
-- Forms that are rejected
-- ---------------------------------------------------------------------------

/-- The answer to a login that fails depends on the pending request and the user name alone. -/
theorem login_rejected (h : service.store.Healthy)
    (hr : AttemptsLogin settings request sid username)
    (hp : (service.store.state sid).pending = some pending)
    (hu : HasUsableHashes service.hasher service.database.users)
    (hfailed : ∀ other, ¬ (exchange settings service request).LogsInFor other) :
    ∃ after, handle settings request service =
        .ok (.loginRejected pending.clientId username, none) after ∧
      service.Moved after sid (service.store.state sid)
        [Audit.Event.loginFailed.entry service.now pending.clientId.text? none request.ip] := by
  obtain ⟨password, after, hrun, hm⟩ := login_responds h hr hp
  have hhandle := handle_of_respond hr.session hrun
  obtain ⟨found, hcheck⟩ := checkPassword_ok hu username password
  rw [hcheck] at hhandle hm
  cases found with
  | none => exact ⟨after, hhandle, hm⟩
  | some user =>
    have hanswer : (exchange settings service request).answer =
        .ok (.reentry (reentryParameters (service.store.state sid).parameters pending)) := by
      rw [exchange, hhandle, resultOf_ending]
      rfl
    have hentered : (exchange settings service request).entered = service.store.state sid :=
      congrArg service.store.state (sessionOf_cookie hr.session service)
    have hfound := (exchange_lawful h settings request).found_of_pending (by simp [hentered, hp])
    rw [hentered] at hfound
    exact absurd ⟨⟨_, hanswer⟩, by rw [hfound, hp]⟩ (hfailed pending)

end

/-- Two forms of a session with one user name, from one address and at one time, that both fail are
answered alike and logged alike and change no session, whatever the users of the two services and
the two passwords are. -/
theorem failed_logins_alike {settings : Settings} {first second : Service}
    {request other : Http.Request} {sid : Session.Id} {username : String}
    (hfirst : first.store.Healthy) (hsecond : second.store.Healthy)
    (hnow : second.now = first.now)
    (hstate : second.store.state sid = first.store.state sid)
    (hpending : (first.store.state sid).pending ≠ none)
    (husers : HasUsableHashes first.hasher first.database.users)
    (husers' : HasUsableHashes second.hasher second.database.users)
    (hrequest : AttemptsLogin settings request sid username)
    (hother : AttemptsLogin settings other sid username) (hip : other.ip = request.ip)
    (hfailed : ∀ pending, ¬ (exchange settings first request).LogsInFor pending)
    (hfailed' : ∀ pending, ¬ (exchange settings second other).LogsInFor pending) :
    ∃ answer entries firstAfter secondAfter,
      handle settings request first = .ok (answer, none) firstAfter ∧
      handle settings other second = .ok (answer, none) secondAfter ∧
      firstAfter.database.audit = first.database.audit ++ entries ∧
      secondAfter.database.audit = second.database.audit ++ entries ∧
      (∀ sid, firstAfter.store.state sid = first.store.state sid) ∧
      ∀ sid, secondAfter.store.state sid = second.store.state sid := by
  obtain ⟨pending, hp⟩ := Option.ne_none_iff_exists'.mp hpending
  have hp' : (second.store.state sid).pending = some pending := by rw [hstate, hp]
  obtain ⟨firstAfter, hrun, hm⟩ := login_rejected hfirst hrequest hp husers hfailed
  obtain ⟨secondAfter, hrun', hm'⟩ := login_rejected hsecond hother hp' husers' hfailed'
  rw [hnow, hip] at hm'
  exact ⟨_, _, firstAfter, secondAfter, hrun, hrun', hm.audit, hm'.audit, hm.store.unchanged,
    hm'.store.unchanged⟩

-- One service has the user with another password, the other has no users; the second form has the
-- password that would do at the first service.
def knowingService : Service := (replay {} demo [.request (ask "client_id=web")]).2

def strangerService : Service :=
  { knowingService with database := { knowingService.database with users := [] } }

def mistypedLogIn : Http.Request :=
  { logIn with body := Text.Utf8.encodeString "username=ada&password=wp" }

theorem mistypedLogIn_submits : Submits mistypedLogIn "ada" "wp" := by
  have hfields : mistypedLogIn.formPairs = .ok [("username", "ada"), ("password", "wp")] :=
    eq_ok_of_toOption (by decide +kernel)
  exact ⟨⟨_, hfields, rfl, rfl⟩, by decide, by decide⟩

theorem not_logsInFor_of_rejected {e : Exchange}
    (h : e.answer.toOption = some (.loginRejected clientId username)) (pending : Request.Record) :
    ¬ e.LogsInFor pending := by
  rintro ⟨⟨parameters, hreentry⟩, -⟩
  cases (eq_ok_of_toOption h).symm.trans hreentry

theorem mistypedLogIn_alike :
    ∃ answer entries firstAfter secondAfter,
      handle {} mistypedLogIn knowingService = .ok (answer, none) firstAfter ∧
      handle {} logIn strangerService = .ok (answer, none) secondAfter ∧
      firstAfter.database.audit = knowingService.database.audit ++ entries ∧
      secondAfter.database.audit = strangerService.database.audit ++ entries ∧
      (∀ sid, firstAfter.store.state sid = knowingService.store.state sid) ∧
      ∀ sid, secondAfter.store.state sid = strangerService.store.state sid := by
  have hhealthy : knowingService.store.Healthy := (run_replay ..).healthy demo_isFresh
  have haddress : mistypedLogIn.addressPath = .ok "/profile/oidc/login" :=
    eq_ok_of_toOption (by decide +kernel)
  have haddress' : logIn.addressPath = .ok "/profile/oidc/login" :=
    eq_ok_of_toOption (by decide +kernel)
  have hattempt : AttemptsLogin {} mistypedLogIn "s" "ada" :=
    ⟨by decide +kernel, ⟨_, haddress⟩, by decide +kernel, _, mistypedLogIn_submits⟩
  have hattempt' : AttemptsLogin {} logIn "s" "ada" :=
    ⟨by decide +kernel, ⟨_, haddress'⟩, by decide +kernel, _, logIn_submits⟩
  have hanswer : (exchange {} knowingService mistypedLogIn).answer.toOption =
      some (.loginRejected (.text "web") "ada") := by decide +kernel
  have hanswer' : (exchange {} strangerService logIn).answer.toOption =
      some (.loginRejected (.text "web") "ada") := by decide +kernel
  have husers : knowingService.database.users = [⟨"ada", "=pw"⟩] := by
    decide +kernel
  have husable : HasUsableHashes knowingService.hasher knowingService.database.users := by
    rw [husers, HasUsableHashes, List.forall_mem_singleton]
    exact fun bytes => rfl
  exact failed_logins_alike hhealthy hhealthy rfl rfl (by decide +kernel) husable
    (fun user hu => nomatch hu) hattempt hattempt' rfl (not_logsInFor_of_rejected hanswer)
    (not_logsInFor_of_rejected hanswer')

end SignOn.Service
