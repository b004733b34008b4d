import SignOn.Proofs.Service.InteractionLaws
import SignOn.Service.Routes

/-!
# One request and its answer

An `Exchange` is a request with everything that came of it: the session it belongs to, the
interception, the state that the endpoint found, and the answer. `exchange_lawful` says what an
exchange on a healthy store can be; the inductive relations `Intercepted`, `Answered` and `Served`
are its cases.
-/

namespace SignOn

theorem Interception.letsThrough_eq (interception : Interception) :
    interception.letsThrough = (interception.decision?.bind Answer.ofDecision?).isNone := by
  cases interception with
  | decided decision clientId => cases decision <;> rfl
  | _ => rfl

def Answer.movesInteraction : Answer → Bool
  | .handoff _ | .loginForm .. | .reentry _ => true
  | _ => false

namespace Service

open Session (State)

-- ---------------------------------------------------------------------------
-- Endpoints
-- ---------------------------------------------------------------------------

/-- The form of a request names a user and has the user's password. -/
def Authenticates (hasher : Hasher) (users : List User) (request : Http.Request) (user : User) :
    Prop :=
  ∃ fields, request.formPairs = .ok fields ∧ missingFields fields = [] ∧
    checkPassword hasher { users } ((Http.lastValue "username" fields).getD "")
      ((Http.lastValue "password" fields).getD "") = .ok (some user)

/-- What an endpoint answers to a session in a state, and the state and the entries of the log it
leaves. -/
inductive Served (settings : Settings) (clock : Session.Login.Clock) (hasher : Hasher)
    (users : List User) (request : Http.Request) (state : State) : Except Failure Answer → State → Audit.Log → Prop
  | kept (hr : route settings request.method request.path = .endpoint .authorize →
        state.pending = none)
      (hn : route settings request.method request.path = .endpoint .login →
        state.pending ≠ none → ∀ user, ¬ Authenticates hasher users request user)
      (ha : ∀ answer, result = .ok answer → answer.movesInteraction = false)
      (hlog : ∀ entry ∈ entries, entry.event = Audit.Event.loginFailed.name) :
    Served settings clock hasher users request state result state entries
  | shown (hr : route settings request.method request.path = .endpoint .authorize)
      (hp : state.pending = some pending) (hl : clock.isLive state = false) :
    Served settings clock hasher users request state
      (.ok (.loginForm pending.clientId state.loginHint)) state []
  | completed (hr : route settings request.method request.path = .endpoint .authorize)
      (hp : state.pending = some pending) (hl : clock.isLive state = true) :
    Served settings clock hasher users request state (handoffAnswer pending state) (state.ended false)
      [Audit.Event.completed.entry clock.now pending.clientId.text? state.subject request.ip]
  | loggedIn (hr : route settings request.method request.path = .endpoint .login)
      (hp : state.pending = some pending) (hu : Authenticates hasher users request user) :
    Served settings clock hasher users request state
      (.ok (.reentry (reentryParameters state.parameters pending)))
      (state.loggedIn user.username clock.now)
      [Audit.Event.loginSucceeded.entry clock.now pending.clientId.text? user.username request.ip]

def Serves (action : ServiceM Answer) (settings : Settings) (request : Http.Request)
    (service : Service) (sid : Session.Id) : Prop :=
  ∃ result state entries, Does action service sid result state entries ∧
    Served settings (service.clock settings) service.hasher service.database.users request
      (service.store.state sid) result state entries

section
variable {service : Service} {sid : Session.Id} {settings : Settings} {request : Http.Request}

theorem Serves.of_kept {action : ServiceM Answer} {r : Except Failure Answer}
    (hd : Does action service sid r (service.store.state sid) [])
    (hr : route settings request.method request.path = .endpoint .authorize →
      (service.store.state sid).pending = none)
    (hn : route settings request.method request.path = .endpoint .login →
      (service.store.state sid).pending ≠ none →
      ∀ user, ¬ Authenticates service.hasher service.database.users request user)
    (ha : ∀ answer, r = .ok answer → answer.movesInteraction = false) :
    Serves action settings request service sid :=
  ⟨_, _, _, hd, .kept hr hn ha (by simp)⟩

theorem plain_ok (h : answer.movesInteraction = false) (other : Answer)
    (hok : (.ok answer : Except Failure Answer) = .ok other) : other.movesInteraction = false := by
  cases hok
  exact h

theorem authorize_serves (h : service.store.Healthy) (sid : Session.Id)
    (hr : route settings request.method request.path = .endpoint .authorize) :
    Serves (authorize settings sid request.ip) settings request service sid := by
  cases hp : (service.store.state sid).pending with
  | none =>
    exact .of_kept (authorize_without h settings request.ip hp) (fun _ => hp)
      (fun _ hne => absurd hp hne) (plain_ok rfl)
  | some pending =>
    cases hl : (service.clock settings).isLive (service.store.state sid) with
    | false => exact ⟨_, _, _, authorize_without_login h settings _ hp hl, .shown hr hp hl⟩
    | true => exact ⟨_, _, _, authorize_with_login h settings _ hp hl, .completed hr hp hl⟩

theorem login_serves (h : service.store.Healthy) (sid : Session.Id)
    (hr : route settings request.method request.path = .endpoint .login)
    (hfields : request.formPairs = .ok fields) (hmissing : missingFields fields = []) :
    Serves (login settings sid ((Http.lastValue "username" fields).getD "")
      ((Http.lastValue "password" fields).getD "") request.ip) settings request service sid := by
  have hne : route settings request.method request.path = .endpoint .authorize →
      (service.store.state sid).pending = none := by simp [hr]
  cases hp : (service.store.state sid).pending with
  | none =>
    exact .of_kept (login_without h settings _ _ _ hp) hne (fun _ hne => absurd hp hne)
      (plain_ok rfl)
  | some pending =>
    refine ⟨_, _, _, login_does h settings _ _ request.ip hp, ?_⟩
    have hsame (user : User) (hu : Authenticates service.hasher service.database.users request user) :
        checkPassword service.hasher service.database ((Http.lastValue "username" fields).getD "")
          ((Http.lastValue "password" fields).getD "") = .ok (some user) := by
      obtain ⟨others, ho, -, hu⟩ := hu
      cases hfields.symm.trans ho
      exact hu
    cases hc : checkPassword service.hasher service.database ((Http.lastValue "username" fields).getD "")
        ((Http.lastValue "password" fields).getD "") with
    | error cause =>
      refine .kept hne (fun _ _ user hu => ?_) (by simp [loginAnswer]) (by simp [loginLog])
      cases hc.symm.trans (hsame user hu)
    | ok found =>
      cases found with
      | none =>
        refine .kept hne (fun _ _ user hu => ?_) (plain_ok rfl)
          (by simp [loginLog, Audit.Event.entry])
        cases hc.symm.trans (hsame user hu)
      | some user => exact .loggedIn hr hp ⟨fields, hfields, hmissing, hc⟩

theorem submitLogin_serves (h : service.store.Healthy) (sid : Session.Id)
    (hr : route settings request.method request.path = .endpoint .login) :
    Serves (submitLogin settings sid request) settings request service sid := by
  have hne : route settings request.method request.path = .endpoint .authorize →
      (service.store.state sid).pending = none := by simp [hr]
  unfold submitLogin
  cases hf : request.formPairs with
  | error cause =>
    refine .of_kept (.return h (.ok _) rfl) hne ?_ (plain_ok rfl)
    rintro - - user ⟨fields, hfields, -⟩
    cases hf.symm.trans hfields
  | ok fields =>
    cases hm : missingFields fields with
    | nil =>
      simp only [hm]
      exact login_serves h sid hr hf hm
    | cons field rest =>
      simp only [hm]
      refine .of_kept (.return h (.ok _) rfl) hne ?_ (plain_ok rfl)
      rintro - - user ⟨others, hfields, hmissing, -⟩
      cases hf.symm.trans hfields
      cases hm.symm.trans hmissing

theorem listing_movesInteraction (log : Audit.Log) (pairs : List (String × String)) :
    (listing log pairs).movesInteraction = false := by
  unfold listing
  split <;> rfl

theorem Serves.of_answer (h : service.store.Healthy)
    (hr : route settings request.method request.path ≠ .endpoint .authorize)
    (hn : route settings request.method request.path ≠ .endpoint .login)
    (ha : answer.movesInteraction = false) :
    Serves (pure answer) settings request service sid :=
  .of_kept (.return h (.ok answer) rfl) (fun he => absurd he hr) (fun he => absurd he hn)
    (plain_ok ha)

theorem serve_serves (h : service.store.Healthy) (settings : Settings) (request : Http.Request)
    (sid : Session.Id) : Serves (serve settings request sid) settings request service sid := by
  unfold serve
  cases hr : route settings request.method request.path with
  | endpoint endpoint =>
    cases endpoint with
    | authorize => exact authorize_serves h sid hr
    | login => exact submitLogin_serves h sid hr
    | audit =>
      exact .of_kept (.of_read (a := service) rfl (.return h (.ok _) rfl)) (by simp [hr])
        (by simp [hr]) (plain_ok (listing_movesInteraction ..))
    | health => exact .of_answer h (by simp [hr]) (by simp [hr]) rfl
  | wrongMethod => exact .of_answer h (by simp [hr]) (by simp [hr]) rfl
  | slashless path => exact .of_answer h (by simp [hr]) (by simp [hr]) rfl
  | unknown => exact .of_answer h (by simp [hr]) (by simp [hr]) rfl

end

-- ---------------------------------------------------------------------------
-- Answers
-- ---------------------------------------------------------------------------

/-- What a session whose request was intercepted gets as an answer. -/
inductive Answered (settings : Settings) (clock : Session.Login.Clock) (hasher : Hasher)
    (users : List User) (request : Http.Request) (found : State) :
    Except Failure Interception → Except Failure Answer → State → Audit.Log → Prop
  | failed (cause : Failure) :
    Answered settings clock hasher users request found (.error cause) (.error cause) found []
  | stopped (hs : interception.decision?.bind Answer.ofDecision? = some answer) :
    Answered settings clock hasher users request found (.ok interception) (.ok answer) found []
  | served (hs : interception.letsThrough = true)
      (hv : Served settings clock hasher users request found result left entries) :
    Answered settings clock hasher users request found (.ok interception) result left entries

theorem respond_does {service : Service} (h : service.store.Healthy) (settings : Settings)
    (request : Http.Request) (sid : Session.Id) :
    ∃ interception found result left entries,
      Does (intercept settings request sid) service sid interception found
        (interceptionLog service.now request.ip interception) ∧
      Intercepted (service.interceptor settings) service.store.takes request
        (service.store.state sid) interception found ∧
      Does (respond settings request sid) service sid result left
        (interceptionLog service.now request.ip interception ++ entries) ∧
      Answered settings (service.clock settings) service.hasher service.database.users request found
        interception result left entries := by
  obtain ⟨interception, found, hd, hi⟩ := intercept_does h settings request sid
  refine ⟨interception, found, ?_⟩
  unfold respond
  cases interception with
  | error cause =>
    exact ⟨_, _, [], hd, hi, by simpa using hd.bind_error, .failed cause⟩
  | ok interception =>
    cases hs : interception.decision?.bind Answer.ofDecision? with
    | some answer =>
      refine ⟨.ok answer, _, [], hd, hi, hd.bind fun middle hm => ?_, .stopped hs⟩
      simp only [hs]
      exact ⟨middle, rfl, hm.self⟩
    | none =>
      have hl : interception.letsThrough = true := by simp [Interception.letsThrough_eq, hs]
      obtain ⟨middle, hrun, hm⟩ := hd
      obtain ⟨result, left, entries, ⟨after, hrun', hm'⟩, hv⟩ :=
        serve_serves hm.healthy settings request sid
      rw [hm.state_eq, hm.clock_eq, hm.hasher, hm.users] at hv
      refine ⟨result, left, entries, ⟨middle, hrun, hm⟩, hi, ⟨after, ?_, hm.trans hm'⟩,
        .served hl hv⟩
      rw [run_bind hrun]
      simp only [hs]
      exact hrun'

-- ---------------------------------------------------------------------------
-- Exchanges
-- ---------------------------------------------------------------------------

structure Exchange where
  request : Http.Request
  sid : Session.Id
  /-- The service when the request arrives. -/
  before : Service
  interception : Except Failure Interception
  /-- The state of the session behind the interception. -/
  found : State
  answer : Except Failure Answer
  after : Service

/-- The session of a request: that of its cookie, or a new one. -/
def sessionOf (settings : Settings) (service : Service) (request : Http.Request) : Session.Id :=
  (Request.nonEmpty (request.cookie? settings.cookieName)).getD (service.supply service.issued)

def opened (settings : Settings) (service : Service) (request : Http.Request) : Service :=
  stateOf (openSession (request.cookie? settings.cookieName) service)

def exchange (settings : Settings) (service : Service) (request : Http.Request) : Exchange :=
  let sid := service.sessionOf settings request
  let intercepted := intercept settings request sid (service.opened settings request)
  let handled := handle settings request service
  { request, sid
    before := service
    interception := resultOf intercepted
    found := (stateOf intercepted).store.state sid
    answer := (resultOf handled).map Prod.fst
    after := stateOf handled }

def Exchange.entered (e : Exchange) : State := e.before.store.state e.sid

def Exchange.left (e : Exchange) : State := e.after.store.state e.sid

/-- What is true of every exchange on a healthy store. -/
structure Exchange.Lawful (settings : Settings) (e : Exchange) : Prop where
  intercepted : Intercepted (e.before.interceptor settings) e.before.store.takes e.request
    e.entered e.interception e.found
  answered : ∃ entries,
    Answered settings (e.before.clock settings) e.before.hasher e.before.database.users e.request
      e.found e.interception e.answer e.left entries ∧
    e.before.Moved e.after e.sid e.left
      (interceptionLog e.before.now e.request.ip e.interception ++ entries)

theorem openSession_run (settings : Settings) (service : Service) (request : Http.Request) :
    ∃ issued newSession, openSession (request.cookie? settings.cookieName) service =
      .ok (service.sessionOf settings request, newSession) { service with issued } := by
  unfold openSession sessionOf
  cases Request.nonEmpty (request.cookie? settings.cookieName) with
  | some sid => exact ⟨service.issued, none, rfl⟩
  | none => exact ⟨service.issued + 1, some (service.supply service.issued), rfl⟩

theorem exchange_lawful {service : Service} (h : service.store.Healthy) (settings : Settings)
    (request : Http.Request) : (exchange settings service request).Lawful settings := by
  obtain ⟨issued, newSession, hopen⟩ := openSession_run settings service request
  have hissued : ({ service with issued } : Service).store.Healthy := h
  have ho : service.opened settings request = { service with issued } := by rw [opened, hopen]; rfl
  obtain ⟨interception, found, answer, left, entries, ⟨middle, hrun, hm⟩, hi, ⟨after, hrun', hm'⟩,
    ha⟩ := respond_does hissued settings request (service.sessionOf settings request)
  have hhandle : handle settings request service =
      ending (answer.map (·, newSession)) after := by
    rw [handle, run_bind hopen]
    cases answer with
    | error cause => exact run_bind_error hrun'
    | ok answer => exact run_bind hrun'
  have he : exchange settings service request =
      ⟨request, service.sessionOf settings request, service, interception, found, answer,
        after⟩ := by
    rw [exchange, ho, hrun, hhandle, resultOf_ending, stateOf_ending, resultOf_ending,
      stateOf_ending, hm.state_eq]
    cases answer <;> rfl
  rw [he]
  refine ⟨hi, entries, ?_, ?_⟩
  · rw [Exchange.left, hm'.state_eq]
    exact ha
  · rw [Exchange.left, hm'.state_eq]
    exact ⟨hm'.store, hm'.now, hm'.hasher, hm'.users, hm'.clients, hm'.audit⟩

end Service

end SignOn
