import Mathlib.Tactic.Choose
import SignOn.Proofs.Service.Scripts

/-!
# Store failures reach the caller

Every action of the service is a script (`Scripted`), up to the answer to a request
(`scripted_handle`). So no failure of the session store is taken for anything else (`Unmasked`): an
action whose call fails ends with that failure, and neither calls the store nor logs anything after
it (`actions_unmasked`).
-/

namespace SignOn.Service

open Session (State StoreM)

-- ---------------------------------------------------------------------------
-- Actions that are scripts
-- ---------------------------------------------------------------------------

def Scripted (action : ServiceM α) : Prop :=
  ∃ script : Script α, script.run = action

theorem Scripted.return (a : α) : Scripted (pure a) :=
  ⟨.done a, rfl⟩

theorem Scripted.throw (cause : Failure) : Scripted (throw cause : ServiceM α) :=
  ⟨.fail cause, rfl⟩

theorem Scripted.bind {action : ServiceM α} {rest : α → ServiceM β} (h : Scripted action)
    (hrest : ∀ a, Scripted (rest a)) : Scripted (action >>= rest) := by
  obtain ⟨script, rfl⟩ := h
  choose later hlater using hrest
  exact ⟨script.bind later, by rw [Script.run_bind, funext hlater]⟩

theorem Scripted.discard {action : ServiceM α} (h : Scripted action) : Scripted (discard action) :=
  h.bind fun _ => .return _

def bare (now : Instant) (hasher : Hasher) (database : Database) : Service :=
  { now, hasher, database, store := { sessions := .memory ∅ }, supply := fun _ => "" }

/-- What is read off the service may play a part by its clock, its hasher and its
tables. -/
theorem Scripted.get {rest : Service → ServiceM α}
    (hrest : ∀ service, rest service = rest (bare service.now service.hasher service.database))
    (h : ∀ service, Scripted (rest service)) : Scripted (get >>= rest) := by
  choose next hnext using h
  refine ⟨.look fun now hasher database => next (bare now hasher database),
    funext fun service => ?_⟩
  change (next (bare service.now service.hasher service.database)).run service =
    rest service service
  rw [hnext, hrest service]

theorem scripted_append (entries : Audit.Log) : Scripted (append entries) :=
  ⟨.log entries (.done ()), rfl⟩

theorem scripted_raise (result : Except Failure α) : Scripted (raise result) := by
  cases result with
  | ok a => exact .return a
  | error failure => exact .throw failure

theorem scripted_log (event : Audit.Event) (clientId subject ip : Option String) :
    Scripted (log event clientId subject ip) :=
  .get (fun _ => rfl) fun _ => scripted_append _

-- ---------------------------------------------------------------------------
-- The session store
-- ---------------------------------------------------------------------------

theorem onStore_bind (action : StoreM α) (rest : α → StoreM β) :
    onStore (action >>= rest) = onStore action >>= fun a => onStore (rest a) := by
  funext service
  cases ha : action service.store with
  | ok a store => rw [run_bind (onStore_of_ok ha), onStore, onStore, run_bind ha]
  | error cause store => rw [run_bind_error (onStore_of_error ha), onStore, run_bind_error ha]

def Calls (action : StoreM α) : Prop :=
  Scripted (onStore action)

theorem Calls.return (a : α) : Calls (pure a) :=
  ⟨.done a, rfl⟩

theorem Calls.throw (cause : Failure) : Calls (throw cause : StoreM α) :=
  ⟨.fail cause, rfl⟩

theorem Calls.bind {action : StoreM α} {rest : α → StoreM β} (h : Calls action)
    (hrest : ∀ a, Calls (rest a)) : Calls (action >>= rest) := by
  unfold Calls
  rw [onStore_bind]
  exact Scripted.bind h hrest

theorem calls_load (sid : Session.Id) : Calls (Session.load sid) :=
  ⟨.load sid .done, bind_pure _⟩

theorem calls_save (sid : Session.Id) (state : State) : Calls (Session.save sid state) :=
  ⟨.save sid state (.done ()), bind_pure _⟩

theorem calls_read (sid : Session.Id) (f : State → α) :
    Calls (do return f (← Session.load sid)) :=
  (calls_load sid).bind fun _ => .return _

theorem calls_update (sid : Session.Id) (change : State → State) :
    Calls (Session.update sid change) :=
  (calls_load sid).bind fun _ => calls_save sid _

theorem calls_startInteraction (sid : Session.Id) (request : Request.Record)
    (parameters : Assoc String) (client : Client.Record) :
    Calls (Session.startInteraction sid request parameters client) := by
  unfold Session.startInteraction
  split
  · exact Calls.bind (.throw _) fun _ => calls_update sid _
  · exact calls_update sid _

theorem calls_liveSubject (clock : Session.Login.Clock) (sid : Session.Id) :
    Calls (Session.Login.liveSubject clock sid) := by
  refine (calls_read sid State.subject).bind fun subject => ?_
  cases subject with
  | none => exact .return _
  | some subject =>
    refine (calls_read sid State.loginTime).bind fun time => ?_
    cases time with
    | none => exact .return _
    | some time => exact .return _

theorem calls_isLive (clock : Session.Login.Clock) (sid : Session.Id) :
    Calls (Session.Login.isLive clock sid) :=
  (calls_liveSubject clock sid).bind fun _ => .return _

theorem calls_record (clock : Session.Login.Clock) (sid : Session.Id) (subject : String) :
    Calls (Session.Login.record clock sid subject) :=
  (calls_update sid _).bind fun _ => .return _

-- ---------------------------------------------------------------------------
-- The interception
-- ---------------------------------------------------------------------------

theorem calls_judge (interceptor : Interceptor) (sid : Session.Id) (request : Request)
    (client : Client) : Calls (interceptor.judge sid request client) := by
  unfold Interceptor.judge
  refine (calls_read sid State.loginForced).bind fun forced => ?_
  refine (calls_isLive interceptor.clock sid).bind fun live => ?_
  cases Decision.ofPrompt request.prompt live forced (some client) request.redirectUri
      request.state Client.Redirect.resolve with
  | error cause => exact .throw (.uri cause)
  | ok decision =>
    simp only [pure_bind]
    -- the age of the login is looked at whether the marker is written or not
    have hage : Calls (if (decide (decision = .proceed) &&
          !request.prompt.contains Request.noneToken) = true then do
            let last ← Session.loginTime? sid
            return Decision.ofAge (Decision.ageLimit request.maxAge client.defaultMaxAge) last
              interceptor.clock.now
        else pure decision) := by
      split
      · exact (calls_read sid State.loginTime).bind fun _ => .return _
      · exact .return _
    split
    · exact (calls_update sid _).bind fun _ => hage
    · exact hage

theorem calls_carryOut (sid : Session.Id) (decision : Decision) :
    Calls (Interceptor.carryOut sid decision) := by
  cases decision with
  | proceed => exact .return ()
  | reauthenticate reason => exact calls_update sid _
  | redirect uri => exact calls_update sid _
  | refuse status message => exact calls_update sid _

theorem calls_accept (interceptor : Interceptor) (sid : Session.Id) (parameters : Assoc String)
    (request : Request) (client : Client) :
    Calls (interceptor.accept sid parameters request client) := by
  refine (calls_update sid _).bind fun _ => ?_
  refine (calls_startInteraction sid _ parameters _).bind fun _ => ?_
  refine (calls_judge interceptor sid request client).bind fun decision => ?_
  exact (calls_carryOut sid decision).bind fun _ => .return _

theorem calls_intercept (interceptor : Interceptor) (path : String)
    (parameters : Request.Parameters) (sid : Session.Id) :
    Calls (interceptor.intercept path parameters sid) := by
  unfold Interceptor.intercept
  split
  · exact .return _
  · refine (calls_read sid State.pending).bind fun pending => ?_
    cases pending with
    | some pending => exact .return _
    | none =>
      dsimp only
      split
      · exact calls_accept interceptor sid _ _ _
      · exact .return _
      · exact .return _
      · exact .throw _

-- ---------------------------------------------------------------------------
-- The actions of the service
-- ---------------------------------------------------------------------------

theorem scripted_intercept (settings : Settings) (request : Http.Request) (sid : Session.Id) :
    Scripted (intercept settings request sid) := by
  refine (scripted_raise _).bind fun path => ?_
  have hrest (parameters : Assoc (List String)) : Scripted (do
      let service ← get
      let interception ←
        onStore ((service.interceptor settings).intercept path parameters.entries sid)
      append ((eventsOf interception).map
        (·.entry service.now interception.clientId.text? none request.ip))
      return interception) := by
    refine .get (fun _ => rfl) fun service => ?_
    refine Scripted.bind (calls_intercept _ path parameters.entries sid) fun interception => ?_
    exact (scripted_append _).bind fun _ => .return _
  split
  · exact (scripted_raise _).bind hrest
  · exact Scripted.bind (.return _) hrest

theorem scripted_complete (sid : Session.Id) (pending : Request.Record) (ip : Option String) :
    Scripted (complete sid pending ip) := by
  refine Scripted.bind (calls_read sid State.subject) fun subject => ?_
  refine Scripted.bind (calls_read sid State.loginTime) fun login => ?_
  refine Scripted.bind (calls_update sid _) fun _ => ?_
  refine (scripted_log ..).bind fun _ => ?_
  split
  · exact .return _
  · exact .throw _

theorem scripted_authorize (settings : Settings) (sid : Session.Id) (ip : Option String) :
    Scripted (authorize settings sid ip) := by
  refine Scripted.bind (calls_read sid State.pending) fun pending => ?_
  cases pending with
  | none => exact .return _
  | some pending =>
    refine .get (fun _ => rfl) fun service => ?_
    refine Scripted.bind (calls_isLive _ sid) fun live => ?_
    split
    · exact scripted_complete sid pending ip
    · exact Scripted.bind (calls_read sid State.loginHint) fun _ => .return _

theorem scripted_login (settings : Settings) (sid : Session.Id) (username password : String)
    (ip : Option String) : Scripted (login settings sid username password ip) := by
  refine Scripted.bind (calls_read sid State.pending) fun pending => ?_
  cases pending with
  | none => exact .return _
  | some pending =>
    refine .get (fun _ => rfl) fun service => ?_
    refine (scripted_raise _).bind fun found => ?_
    cases found with
    | none => exact (scripted_log ..).bind fun _ => .return _
    | some user =>
      refine .get (fun _ => rfl) fun service => ?_
      refine Scripted.bind (.discard (calls_record (service.clock settings) sid user.username))
        fun _ => ?_
      refine (scripted_log ..).bind fun _ => ?_
      refine Scripted.bind (calls_read sid State.parameters) fun parameters => ?_
      exact Scripted.bind (calls_update sid _) fun _ => .return _

theorem scripted_submitLogin (settings : Settings) (sid : Session.Id) (request : Http.Request) :
    Scripted (submitLogin settings sid request) := by
  unfold submitLogin
  split
  · exact .return _
  · split
    · exact scripted_login ..
    · exact .return _

theorem scripted_serve (settings : Settings) (request : Http.Request) (sid : Session.Id) :
    Scripted (serve settings request sid) := by
  unfold serve
  split
  · exact scripted_authorize ..
  · exact scripted_submitLogin ..
  · exact .get (fun _ => rfl) fun _ => .return _
  all_goals exact .return _

theorem scripted_respond (settings : Settings) (request : Http.Request) (sid : Session.Id) :
    Scripted (respond settings request sid) := by
  refine (scripted_intercept settings request sid).bind fun interception => ?_
  split
  · exact .return _
  · exact scripted_serve settings request sid

theorem scripted_openSession (cookie : Option String) : Scripted (openSession cookie) := by
  unfold openSession
  split
  · exact .return _
  · exact ⟨.issue fun sid => .done (sid, some sid), rfl⟩

theorem scripted_handle (settings : Settings) (request : Http.Request) :
    Scripted (handle settings request) :=
  (scripted_openSession _).bind fun _ =>
    (scripted_respond settings request _).bind fun _ => .return _

-- ---------------------------------------------------------------------------
-- Failures of the store
-- ---------------------------------------------------------------------------

/-- A call that fails is the last thing that an action does: the action ends with the failure of the
call, and it has logged what it logged before. -/
structure Unmasked (action : ServiceM α) : Prop where
  scripted : Scripted action
  /-- Where a script for it comes to a call that fails. -/
  ends : ∀ script : Script α, script.run = action →
    ∀ service earlier call later cause, script.events service = earlier ++ call :: later →
      call.failure? = some cause →
        later = [] ∧ resultOf (action service) = .error cause ∧
          (stateOf (action service)).database.audit =
            service.database.audit ++ earlier.flatMap Script.Event.entries
  /-- But for an unavailable store it ends as on a store that works. -/
  survives : ∀ service, Survives action service

theorem Scripted.unmasked {action : ServiceM α} (h : Scripted action) : Unmasked action := by
  refine ⟨h, ?_, ?_⟩
  · rintro script rfl service earlier call later cause hevents hf
    obtain ⟨rfl, hresult⟩ := script.ends_at_failure hf hevents
    have haudit := script.audit_run service
    rw [hevents, List.flatMap_append, List.flatMap_singleton, Script.entries_of_failure hf,
      List.append_nil] at haudit
    exact ⟨rfl, hresult, haudit⟩
  · obtain ⟨script, rfl⟩ := h
    exact script.survives

/-- Whatever the sessions and the faults of the store are, no failure of a call is taken for
anything else: by the interception of a request, by the answers of the two endpoints, or by the
answer to a whole request. -/
theorem actions_unmasked (settings : Settings) (request : Http.Request) (sid : Session.Id)
    (username password : String) (ip : Option String) :
    Unmasked (intercept settings request sid) ∧ Unmasked (authorize settings sid ip) ∧
      Unmasked (login settings sid username password ip) ∧ Unmasked (handle settings request) :=
  ⟨(scripted_intercept settings request sid).unmasked,
    (scripted_authorize settings sid ip).unmasked,
    (scripted_login settings sid username password ip).unmasked,
    (scripted_handle settings request).unmasked⟩

-- The third load of a login fails, behind the entry that logs its success.
example :
    let pending : Request := { clientId := "web" }
    let store : Session.Store :=
      { sessions := .memory (.ofList [("s", { pending := some pending.toRecord })])
        faults := { loadFails := (· == 2) } }
    let service : Service :=
      { now := ⟨0⟩, store, hasher := .plain, supply := toString
        database := { users := [⟨"ada", "=pw"⟩] } }
    let run := login {} "s" "ada" "pw" none service
    (match resultOf run with
      | .ok _ => none
      | .error cause => some cause) = some .storeUnavailable ∧
      (stateOf run).database.audit =
        [Audit.Event.loginSucceeded.entry ⟨0⟩ (some "web") (some "ada") none] := by
  decide +kernel

end SignOn.Service
