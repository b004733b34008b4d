import SignOn.Proofs.Interception.Outcome
import SignOn.Service.Interaction

/-!
# The actions of the service on one session

`Service.Moved` says what an action may change: the state of one session and the end of the log.
`Service.Does` is an action with its result and such a change. Every action of the interaction has
one law here, from the interception (`intercept_does`) to the login form (`login_does`).
-/

namespace SignOn.Service

open Session (State Store)

-- ---------------------------------------------------------------------------
-- Changes of one session
-- ---------------------------------------------------------------------------

/-- `after` is the service after one session got a state and some entries were logged. -/
structure Moved (service after : Service) (sid : Session.Id) (state : State) (entries : Audit.Log) :
    Prop where
  store : service.store.Updated after.store sid state
  now : after.now = service.now
  hasher : after.hasher = service.hasher
  users : after.database.users = service.database.users
  clients : after.database.clients = service.database.clients
  audit : after.database.audit = service.database.audit ++ entries

/-- `action` ends with a result and moves one session. -/
def Does (action : ServiceM α) (service : Service) (sid : Session.Id) (result : Except Failure α)
    (state : State) (entries : Audit.Log) : Prop :=
  ∃ after, action service = ending result after ∧ service.Moved after sid state entries

section
variable {service middle after : Service} {sid : Session.Id} {s t state : State}
  {entries entries' : Audit.Log}

theorem Moved.healthy (h : service.Moved after sid state entries) : after.store.Healthy :=
  h.store.healthy

theorem Moved.state_eq (h : service.Moved after sid state entries) :
    after.store.state sid = state :=
  h.store.state_eq

theorem Moved.refl (h : service.store.Healthy) :
    service.Moved service sid (service.store.state sid) [] :=
  ⟨.refl h, rfl, rfl, rfl, rfl, (List.append_nil _).symm⟩

theorem Moved.self (h : service.Moved after sid state entries) : after.Moved after sid state [] :=
  h.state_eq ▸ .refl h.healthy

theorem Moved.trans (h : service.Moved middle sid s entries)
    (h' : middle.Moved after sid t entries') :
    service.Moved after sid t (entries ++ entries') where
  store := h.store.trans h'.store
  now := h'.now.trans h.now
  hasher := h'.hasher.trans h.hasher
  users := h'.users.trans h.users
  clients := h'.clients.trans h.clients
  audit := by rw [h'.audit, h.audit, List.append_assoc]

theorem Moved.clock_eq (h : service.Moved after sid state entries) (settings : Settings) :
    after.clock settings = service.clock settings := by
  rw [clock, clock, h.now]

theorem Does.return (h : service.store.Healthy) (result : Except Failure α)
    (hrun : action service = ending result service) :
    Does action service sid result (service.store.state sid) [] :=
  ⟨service, hrun, .refl h⟩

theorem Does.bind {x : ServiceM α} {f : α → ServiceM β} (h : Does x service sid (.ok a) s entries)
    (hf : ∀ middle, service.Moved middle sid s entries → Does (f a) middle sid result t entries') :
    Does (x >>= f) service sid result t (entries ++ entries') := by
  obtain ⟨middle, hx, hm⟩ := h
  obtain ⟨after, hfx, hm'⟩ := hf middle hm
  exact ⟨after, by rw [run_bind hx, hfx], hm.trans hm'⟩

theorem Does.bind_silent {x : ServiceM α} {f : α → ServiceM β}
    (h : Does x service sid (.ok a) s [])
    (hf : ∀ middle, service.Moved middle sid s [] → Does (f a) middle sid result t entries) :
    Does (x >>= f) service sid result t entries :=
  .bind h hf

theorem Does.bind_then_silent {x : ServiceM α} {f : α → ServiceM β}
    (h : Does x service sid (.ok a) s entries)
    (hf : ∀ middle, service.Moved middle sid s entries → Does (f a) middle sid result t []) :
    Does (x >>= f) service sid result t entries :=
  List.append_nil entries ▸ .bind h hf

theorem Does.bind_error {x : ServiceM α} {f : α → ServiceM β}
    (h : Does x service sid (.error e) s entries) :
    Does (x >>= f) service sid (.error e) s entries := by
  obtain ⟨after, hx, hm⟩ := h
  exact ⟨after, run_bind_error hx, hm⟩

theorem Does.discard {x : ServiceM α} (h : Does x service sid (.ok a) s entries) :
    Does (discard x) service sid (.ok ()) s entries := by
  obtain ⟨after, hx, hm⟩ := h
  exact ⟨after, run_bind hx, hm⟩

theorem Does.of_read {x : ServiceM α} {f : α → ServiceM β} (hx : x service = .ok a service)
    (h : Does (f a) service sid result state entries) :
    Does (x >>= f) service sid result state entries := by
  obtain ⟨after, hf, hm⟩ := h
  exact ⟨after, by rw [run_bind hx, hf], hm⟩

theorem onStore_read {action : Session.StoreM α} (h : action service.store = .ok a service.store) :
    onStore action service = .ok a service := by
  simp only [onStore, h]

theorem onStore_does {action : Session.StoreM α} {r : Except Failure α} {store' : Store}
    (hrun : action service.store = ending r store')
    (hu : service.store.Updated store' sid state) :
    Does (onStore action) service sid r state [] := by
  refine ⟨{ service with store := store' }, ?_, hu, rfl, rfl, rfl, rfl, (List.append_nil _).symm⟩
  cases r <;> simp only [onStore, hrun, ending]

theorem onStore_ok {action : Session.StoreM α} {store' : Store}
    (hrun : action service.store = .ok a store') (hu : service.store.Updated store' sid state) :
    Does (onStore action) service sid (.ok a) state [] :=
  onStore_does (r := .ok a) hrun hu

theorem append_does (h : service.store.Healthy) (sid : Session.Id) (entries : Audit.Log) :
    Does (append entries) service sid (.ok ()) (service.store.state sid) entries :=
  ⟨_, rfl, .refl h, rfl, rfl, rfl, rfl, rfl⟩

theorem log_does (h : service.store.Healthy) (sid : Session.Id) (event : Audit.Event)
    (clientId subject ip : Option String) :
    Does (log event clientId subject ip) service sid (.ok ()) (service.store.state sid)
      [event.entry service.now clientId subject ip] :=
  .of_read (a := service) rfl (append_does h sid _)

end

-- ---------------------------------------------------------------------------
-- The interception of a request
-- ---------------------------------------------------------------------------

inductive Intercepted (interceptor : Interceptor) (takes : State → Bool) (request : Http.Request)
    (state : State) : Except Failure Interception → State → Prop
  | unreadAddress (hpath : request.addressPath = .error cause) :
    Intercepted interceptor takes request state (.error cause) state
  | unreadParameters (hpath : request.addressPath = .ok path)
      (hc : Interceptor.covers interceptor.authorizePath path = true)
      (hparameters : request.parameters = .error cause) :
    Intercepted interceptor takes request state (.error cause) state
  | read (hpath : request.addressPath = .ok path)
      (hparameters : Interceptor.covers interceptor.authorizePath path = true →
        request.parameters = .ok parameters)
      (ho : interceptor.Outcome takes path parameters.entries state result found) :
    Intercepted interceptor takes request state result found

def interceptionLog (now : Instant) (ip : Option String) : Except Failure Interception → Audit.Log
  | .error _ => []
  | .ok interception =>
    (eventsOf interception).map (·.entry now interception.clientId.text? none ip)

section
variable {service : Service} {sid : Session.Id}

theorem raise_run (result : Except Failure α) (service : Service) :
    raise result service = ending result service := by
  cases result <;> rfl

theorem onStore_intercept (h : service.store.Healthy) (settings : Settings) (sid : Session.Id)
    (path : String) (parameters : Request.Parameters) :
    ∃ result state,
      Does (onStore ((service.interceptor settings).intercept path parameters sid)) service sid
        result state [] ∧
      (service.interceptor settings).Outcome service.store.takes path parameters
        (service.store.state sid) result state := by
  obtain ⟨result, store', state, hrun, hu, ho⟩ :=
    Interceptor.intercept_run h (service.interceptor settings) sid path parameters
  exact ⟨result, state, onStore_does hrun hu, ho⟩

theorem intercept_rest (h : service.store.Healthy) (settings : Settings) (sid : Session.Id)
    (path : String) (parameters : Request.Parameters) (ip : Option String) :
    ∃ result state,
      Does (do
          let service ← get
          let interception ←
            onStore ((service.interceptor settings).intercept path parameters sid)
          append ((eventsOf interception).map
            (·.entry service.now interception.clientId.text? none ip))
          return interception) service sid result state (interceptionLog service.now ip result) ∧
      (service.interceptor settings).Outcome service.store.takes path parameters
        (service.store.state sid) result state := by
  obtain ⟨result, state, hd, ho⟩ := onStore_intercept h settings sid path parameters
  refine ⟨result, state, ?_, ho⟩
  refine .of_read (a := service) rfl ?_
  cases result with
  | error cause => exact .bind_error hd
  | ok interception =>
    refine .bind_silent hd fun middle hm => ?_
    obtain ⟨after, hrun, hm'⟩ := append_does hm.healthy sid
      (interceptionLog service.now ip (.ok interception))
    rw [hm.state_eq] at hm'
    exact ⟨after, run_bind hrun, hm'⟩

theorem intercept_does (h : service.store.Healthy) (settings : Settings) (request : Http.Request)
    (sid : Session.Id) :
    ∃ result state,
      Does (intercept settings request sid) service sid result state
        (interceptionLog service.now request.ip result) ∧
      Intercepted (service.interceptor settings) service.store.takes request
        (service.store.state sid) result state := by
  unfold intercept
  cases hpath : request.addressPath with
  | error cause =>
    exact ⟨.error cause, _, .return h _ (run_bind_error (raise_run ..)), .unreadAddress hpath⟩
  | ok path =>
    have hr := raise_run (.ok path) service
    cases hc : Interceptor.covers settings.authorizePath path with
    | false =>
      obtain ⟨result, state, hd, ho⟩ := intercept_rest h settings sid path [] request.ip
      have hnone : Interceptor.covers settings.authorizePath path = true →
          request.parameters = .ok ∅ := by simp [hc]
      refine ⟨result, state, .of_read hr ?_, .read hpath hnone ho⟩
      simpa [hc] using hd
    | true =>
      cases hparameters : request.parameters with
      | error cause =>
        refine ⟨.error cause, _, .return h _ ?_, .unreadParameters hpath hc hparameters⟩
        rw [run_bind hr]
        simp only [hc, ↓reduceIte]
        exact run_bind_error (raise_run ..)
      | ok parameters =>
        obtain ⟨result, state, hd, ho⟩ :=
          intercept_rest h settings sid path parameters.entries request.ip
        refine ⟨result, state, .of_read hr ?_, .read hpath (fun _ => hparameters) ho⟩
        simp only [hc, ↓reduceIte]
        exact .of_read (raise_run ..) hd

end

-- ---------------------------------------------------------------------------
-- The authorize path
-- ---------------------------------------------------------------------------

def handoffAnswer (pending : Request.Record) (state : State) : Except Failure Answer :=
  match Handoff.ofRequest pending state.subject state.loginTime with
  | .ok handoff => .ok (.handoff handoff)
  | .error cause => .error (.document cause)

section
variable {service : Service} {sid : Session.Id} {pending : Request.Record}

theorem complete_does (h : service.store.Healthy) (sid : Session.Id) (pending : Request.Record)
    (ip : Option String) :
    Does (complete sid pending ip) service sid (handoffAnswer pending (service.store.state sid))
      ((service.store.state sid).ended false)
      [Audit.Event.completed.entry service.now pending.clientId.text?
        (service.store.state sid).subject ip] := by
  obtain ⟨store', hrun, hu⟩ := Session.endInteraction_run h sid false
  refine .of_read (onStore_read (Session.subject?_run h)) ?_
  refine .of_read (onStore_read (Session.loginTime?_run h)) ?_
  refine .bind_silent (onStore_ok hrun hu) fun middle hm => ?_
  obtain ⟨after, hrun', hm'⟩ := log_does hm.healthy sid .completed pending.clientId.text?
    (service.store.state sid).subject ip
  rw [hm.state_eq, hm.now] at hm'
  refine ⟨after, ?_, hm'⟩
  rw [run_bind hrun', handoffAnswer]
  cases Handoff.ofRequest pending (service.store.state sid).subject
    (service.store.state sid).loginTime <;> rfl

theorem authorize_without (h : service.store.Healthy) (settings : Settings) (ip : Option String)
    (hp : (service.store.state sid).pending = none) :
    Does (authorize settings sid ip) service sid (.ok .noInteraction) (service.store.state sid)
      [] := by
  refine .of_read (onStore_read (Session.pending?_run h)) ?_
  rw [hp]
  exact .return h _ rfl

theorem authorize_without_login (h : service.store.Healthy) (settings : Settings)
    (ip : Option String) (hp : (service.store.state sid).pending = some pending)
    (hl : (service.clock settings).isLive (service.store.state sid) = false) :
    Does (authorize settings sid ip) service sid
      (.ok (.loginForm pending.clientId (service.store.state sid).loginHint))
      (service.store.state sid) [] := by
  refine .of_read (onStore_read (Session.pending?_run h)) ?_
  rw [hp]
  refine .of_read (a := service) rfl (.of_read (onStore_read (Session.isLive_run h _)) ?_)
  rw [hl]
  exact .of_read (onStore_read (Session.loginHint?_run h)) (.return h _ rfl)

theorem authorize_with_login (h : service.store.Healthy) (settings : Settings)
    (ip : Option String) (hp : (service.store.state sid).pending = some pending)
    (hl : (service.clock settings).isLive (service.store.state sid) = true) :
    Does (authorize settings sid ip) service sid
      (handoffAnswer pending (service.store.state sid)) ((service.store.state sid).ended false)
      [Audit.Event.completed.entry service.now pending.clientId.text?
        (service.store.state sid).subject ip] := by
  refine .of_read (onStore_read (Session.pending?_run h)) ?_
  rw [hp]
  refine .of_read (a := service) rfl (.of_read (onStore_read (Session.isLive_run h _)) ?_)
  rw [hl]
  exact complete_does h sid pending ip

end

-- ---------------------------------------------------------------------------
-- The login path
-- ---------------------------------------------------------------------------

theorem reentryParameters_of_ne_nil {parameters : Assoc String} (h : parameters.entries ≠ [])
    (pending : Request.Record) :
    reentryParameters (some parameters) pending = parameters.entries := by
  rw [reentryParameters, Option.getD_some]
  split
  · next hnil => exact absurd hnil h
  · rfl

def loginAnswer (state : State) (pending : Request.Record) (username : String) :
    Except Failure (Option User) → Except Failure Answer
  | .error cause => .error cause
  | .ok none => .ok (.loginRejected pending.clientId username)
  | .ok (some _) => .ok (.reentry (reentryParameters state.parameters pending))

def loginState (state : State) (now : Instant) : Except Failure (Option User) → State
  | .error _ | .ok none => state
  | .ok (some user) => state.loggedIn user.username now

def loginLog (now : Instant) (pending : Request.Record) (ip : Option String) :
    Except Failure (Option User) → Audit.Log
  | .error _ => []
  | .ok none => [Audit.Event.loginFailed.entry now pending.clientId.text? none ip]
  | .ok (some user) =>
    [Audit.Event.loginSucceeded.entry now pending.clientId.text? user.username ip]

section
variable {service : Service} {sid : Session.Id} {pending : Request.Record}

theorem login_without (h : service.store.Healthy) (settings : Settings)
    (username password : String) (ip : Option String)
    (hp : (service.store.state sid).pending = none) :
    Does (login settings sid username password ip) service sid (.ok .noInteraction)
      (service.store.state sid) [] := by
  refine .of_read (onStore_read (Session.pending?_run h)) ?_
  rw [hp]
  exact .return h _ rfl

theorem login_accepted (h : service.store.Healthy) (settings : Settings)
    (pending : Request.Record) (user : User) (ip : Option String) :
    Does (do
        discard <| onStore (Session.Login.record ((← get).clock settings) sid user.username)
        log .loginSucceeded pending.clientId.text? user.username ip
        let parameters ← onStore (Session.parameters? sid)
        onStore (Session.endInteraction sid true)
        return .reentry (reentryParameters parameters pending)) service sid
      (loginAnswer (service.store.state sid) pending user.username (.ok (some user)))
      (loginState (service.store.state sid) service.now (.ok (some user)))
      (loginLog service.now pending ip (.ok (some user))) := by
  obtain ⟨store', hrun, hu⟩ :=
    Session.record_run h sid (service.clock settings) user.username
  refine .of_read (a := service) rfl ?_
  refine .bind_silent (onStore_ok hrun hu).discard fun recorded hm => ?_
  have hlog := log_does hm.healthy sid .loginSucceeded pending.clientId.text?
    (some user.username) ip
  rw [hm.state_eq, hm.now] at hlog
  refine .bind_then_silent hlog fun logged hm' => ?_
  refine .of_read (onStore_read (Session.parameters?_run hm'.healthy)) ?_
  obtain ⟨store'', hend, hu'⟩ := Session.endInteraction_run hm'.healthy sid true
  rw [hm'.state_eq] at hu' ⊢
  refine .bind_silent (onStore_ok hend hu') fun ended hm'' => ?_
  exact ⟨ended, rfl, hm''.self⟩

theorem login_does (h : service.store.Healthy) (settings : Settings)
    (username password : String) (ip : Option String)
    (hp : (service.store.state sid).pending = some pending) :
    Does (login settings sid username password ip) service sid
      (loginAnswer (service.store.state sid) pending username
        (checkPassword service.hasher service.database username password))
      (loginState (service.store.state sid) service.now
        (checkPassword service.hasher service.database username password))
      (loginLog service.now pending ip
        (checkPassword service.hasher service.database username password)) := by
  refine .of_read (onStore_read (Session.pending?_run h)) ?_
  rw [hp]
  refine .of_read (a := service) rfl ?_
  cases hc : checkPassword service.hasher service.database username password with
  | error cause => exact .return h _ (run_bind_error (raise_run ..))
  | ok found =>
    refine .of_read (raise_run ..) ?_
    cases found with
    | none =>
      obtain ⟨after, hlog, hm⟩ := log_does h sid .loginFailed pending.clientId.text? none ip
      exact ⟨after, run_bind hlog, hm⟩
    | some user => exact login_accepted h settings pending user ip

end

end SignOn.Service
