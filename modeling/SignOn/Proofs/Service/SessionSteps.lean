import SignOn.Proofs.Service.Run

/-!
# What an exchange does to its session

An exchange passes its session by or takes a request up (`Lawful.passes_or_takesUp`), and then it
leaves the session as it is, completes the interaction or logs the user in (`Lawful.left_cases`).
While a request is pending nothing in its session changes, so that a pending request is always the
one of an exchange after which the session stood still (`Run.pending_since`).
-/

namespace SignOn

open Session (State)

-- ---------------------------------------------------------------------------
-- Decisions carried out
-- ---------------------------------------------------------------------------

section
variable {state : State} {decision : Decision}

theorem Session.State.carried_of_denial (h : decision.isDenial = true) :
    state.carried decision = state.ended false := by
  cases decision <;> first | rfl | cases h

/-- What is let through loses its subject at most. -/
theorem Session.State.carried_of_through (h : decision.isDenial = false) :
    ∃ subject, state.carried decision = { state with subject } := by
  cases decision with
  | proceed => exact ⟨state.subject, rfl⟩
  | reauthenticate reason => exact ⟨none, rfl⟩
  | redirect uri => cases h
  | refuse status message => cases h

theorem Session.State.carried_loginTime : (state.carried decision).loginTime = state.loginTime := by
  cases decision <;> rfl

end

theorem Session.Login.Clock.isLive_eq (clock : Session.Login.Clock) (state : State) :
    clock.isLive state = true ↔ ∃ subject login, state.subject = some subject ∧
      state.loginTime = some login ∧ clock.isExpired login = false := by
  unfold isLive
  split
  · next hs hl => simp [hs, hl]
  · next hn =>
    simp only [Bool.false_eq_true, false_iff]
    rintro ⟨subject, login, hs, hl, -⟩
    exact hn subject login hs hl

namespace Service

-- ---------------------------------------------------------------------------
-- Taking a request up
-- ---------------------------------------------------------------------------

/-- An exchange that takes no request up changes the login hint at most, and nothing while a
request is pending. -/
structure Exchange.Passes (e : Exchange) : Prop where
  undecided : ∀ decision clientId, e.interception ≠ .ok (.decided decision clientId)
  found_eq : e.found = { e.entered with loginHint := e.found.loginHint }
  kept : e.entered.pending ≠ none → e.found = e.entered

/-- What a session keeps of a pending request: the parameters that it was read from and the client
that was found. -/
structure KeepsRequest (registry : Client.Registry) (state : State) (parameters : Assoc String)
    (request : Request) (client : Client) : Prop where
  pending_eq : state.pending = some request.toRecord
  parameters_eq : state.parameters = some parameters
  client_eq : state.client = some client.toRecord
  read : Interceptor.readRequest registry parameters = .ok (request, client)

structure Exchange.TakesUp (settings : Settings) (e : Exchange) (request : Request)
    (client : Client) (parameters : Assoc String) : Prop where
  idle : e.entered.pending = none
  read : Interceptor.readRequest e.before.database.clients parameters = .ok (request, client)
  decided : e.interception = .ok (.decided
    ((e.before.interceptor settings).verdict e.entered request client) client.clientId)
  found_eq : e.found =
    (e.before.interceptor settings).accepted e.entered parameters request client

section
variable {settings : Settings} {e : Exchange} {request : Request} {client : Client}
  {parameters : Assoc String}

theorem Intercepted.passes_or_decided {interceptor : Interceptor} {state found : State}
    {result : Except Failure Interception}
    (h : Intercepted interceptor takes http state result found) :
    ((∀ decision clientId, result ≠ .ok (.decided decision clientId)) ∧
      found = { state with loginHint := found.loginHint } ∧
      (state.pending ≠ none → found = state)) ∨
    ∃ request client parameters, state.pending = none ∧
      Interceptor.readRequest interceptor.registry parameters = .ok (request, client) ∧
      result = .ok (.decided (interceptor.verdict state request client) client.clientId) ∧
      found = interceptor.accepted state parameters request client := by
  cases h with
  | unreadAddress hpath => exact .inl ⟨by simp, rfl, fun _ => rfl⟩
  | unreadParameters hpath hc hparameters => exact .inl ⟨by simp, rfl, fun _ => rfl⟩
  | read hpath hparameters ho =>
    cases ho with
    | unconcerned hc => exact .inl ⟨by simp, rfl, fun _ => rfl⟩
    | resumed hc hp => exact .inl ⟨by simp, rfl, fun _ => rfl⟩
    | rejected hc hp hr clientId => exact .inl ⟨by simp, rfl, fun _ => rfl⟩
    | failed hc hp hr => exact .inl ⟨by simp, rfl, fun _ => rfl⟩
    | refused hc hp hr ht => exact .inl ⟨by simp, rfl, fun hn => absurd hp hn⟩
    | decided hc hp hr ht => exact .inr ⟨_, _, _, hp, hr, rfl, rfl⟩

theorem Exchange.Lawful.passes_or_takesUp (h : e.Lawful settings) :
    e.Passes ∨ ∃ request client parameters, e.TakesUp settings request client parameters := by
  rcases h.intercepted.passes_or_decided with
    ⟨hn, hf, hk⟩ | ⟨request, client, parameters, hp, hr, hd, hf⟩
  · exact .inl ⟨hn, hf, hk⟩
  · exact .inr ⟨request, client, parameters, hp, hr, hd, hf⟩

section
variable (h : e.TakesUp settings request client parameters)
  (hd : ((e.before.interceptor settings).verdict e.entered request client).isDenial = false)
include h hd

theorem Exchange.TakesUp.found_of_through :
    ∃ subject, e.found =
      { (e.entered.started request parameters client).judged request with subject } := by
  rw [h.found_eq]
  exact Session.State.carried_of_through hd

theorem Exchange.TakesUp.keepsRequest :
    KeepsRequest e.before.database.clients e.found parameters request client := by
  obtain ⟨subject, hf⟩ := h.found_of_through hd
  rw [hf]
  exact ⟨rfl, rfl, rfl, h.read⟩

theorem Exchange.TakesUp.loginForced_eq :
    e.found.loginForced = (e.entered.judged request).loginForced := by
  obtain ⟨subject, hf⟩ := h.found_of_through hd
  rw [hf]
  rfl

end

theorem Exchange.TakesUp.found_of_denial (h : e.TakesUp settings request client parameters)
    (hd : ((e.before.interceptor settings).verdict e.entered request client).isDenial = true) :
    e.found.pending = none ∧ e.found.loginForced = false := by
  rw [h.found_eq, Interceptor.accepted, Session.State.carried_of_denial hd]
  exact ⟨rfl, rfl⟩

theorem Exchange.TakesUp.loginTime_eq (h : e.TakesUp settings request client parameters) :
    e.found.loginTime = e.entered.loginTime := by
  rw [h.found_eq, Interceptor.accepted, Session.State.carried_loginTime]
  rfl

-- ---------------------------------------------------------------------------
-- Leaving the session
-- ---------------------------------------------------------------------------

/-- Whether a request goes on to an endpoint behind the interception. -/
def Exchange.Reaches (settings : Settings) (e : Exchange) (endpoint : Endpoint) : Prop :=
  (∃ interception, e.interception = .ok interception ∧ interception.letsThrough = true) ∧
    route settings e.request.method e.request.path = .endpoint endpoint

def Exchange.HandsOff (e : Exchange) : Prop :=
  ∃ handoff, e.answer = .ok (.handoff handoff)

def Exchange.ShowsLoginForm (e : Exchange) : Prop :=
  ∃ clientId hint, e.answer = .ok (.loginForm clientId hint)

def Exchange.LogsInFor (e : Exchange) (pending : Request.Record) : Prop :=
  (∃ parameters, e.answer = .ok (.reentry parameters)) ∧ e.found.pending = some pending

structure Exchange.Stays (settings : Settings) (e : Exchange) : Prop where
  left_eq : e.left = e.found
  no_handoff : ¬ e.HandsOff
  no_login : ∀ pending, ¬ e.LogsInFor pending
  /-- A pending request that reaches its endpoint gets the login form. -/
  form_iff : e.ShowsLoginForm ↔ e.Reaches settings .authorize ∧ e.found.pending ≠ none
  not_live : e.ShowsLoginForm → (e.before.clock settings).isLive e.found = false
  not_authenticated : e.Reaches settings .login → e.found.pending ≠ none →
    ∀ user, ¬ Authenticates e.before.hasher e.before.database.users e.request user

structure Exchange.Completes (settings : Settings) (e : Exchange) (pending : Request.Record) :
    Prop where
  reaches : e.Reaches settings .authorize
  pending_eq : e.found.pending = some pending
  live : (e.before.clock settings).isLive e.found = true
  answer_eq : e.answer = handoffAnswer pending e.found
  left_eq : e.left = e.found.ended false

structure Exchange.LogsIn (settings : Settings) (e : Exchange) (pending : Request.Record)
    (user : User) : Prop where
  reaches : e.Reaches settings .login
  pending_eq : e.found.pending = some pending
  authenticated : Authenticates e.before.hasher e.before.database.users e.request user
  answer_eq : e.answer = .ok (.reentry (reentryParameters e.found.parameters pending))
  left_eq : e.left = e.found.loggedIn user.username e.before.now

theorem Exchange.stays_of_plain (hl : e.left = e.found)
    (ha : ∀ answer, e.answer = .ok answer → answer.movesInteraction = false)
    (hr : e.Reaches settings .authorize → e.found.pending = none)
    (hn : e.Reaches settings .login → e.found.pending ≠ none →
      ∀ user, ¬ Authenticates e.before.hasher e.before.database.users e.request user) : e.Stays settings := by
  have hform : ¬ e.ShowsLoginForm := by
    rintro ⟨clientId, hint, h⟩
    cases ha _ h
  refine ⟨hl, ?_, ?_, ⟨fun h => absurd h hform, ?_⟩, fun h => absurd h hform, hn⟩
  · rintro ⟨handoff, h⟩
    cases ha _ h
  · rintro pending ⟨⟨parameters, h⟩, -⟩
    cases ha _ h
  · rintro ⟨h, hp⟩
    exact absurd (hr h) hp

theorem ofDecision?_movesInteraction (h : Answer.ofDecision? decision = some answer) :
    answer.movesInteraction = false := by
  cases decision <;> cases h <;> rfl

theorem Exchange.Lawful.left_cases (h : e.Lawful settings) :
    e.Stays settings ∨ (∃ pending, e.Completes settings pending) ∨
      ∃ pending user, e.LogsIn settings pending user := by
  obtain ⟨entries, ha, -⟩ := h.answered
  generalize hi : e.interception = interception at ha
  generalize hans : e.answer = result at ha
  generalize hleft : e.left = left at ha
  cases ha with
  | failed cause =>
    have hnone (endpoint : Endpoint) : ¬ e.Reaches settings endpoint := by
      rintro ⟨⟨interception, h, -⟩, -⟩
      cases hi.symm.trans h
    exact .inl (stays_of_plain hleft (by simp [hans]) (fun h => absurd h (hnone _))
      fun h => absurd h (hnone _))
  | @stopped interception answer hs =>
    have hnone (endpoint : Endpoint) : ¬ e.Reaches settings endpoint := by
      rintro ⟨⟨_, h, ht⟩, -⟩
      cases hi.symm.trans h
      simp [Interception.letsThrough_eq, hs] at ht
    obtain ⟨decision, -, hd⟩ := Option.bind_eq_some_iff.mp hs
    refine .inl (stays_of_plain hleft ?_ (fun h => absurd h (hnone _))
      fun h => absurd h (hnone _))
    rw [hans]
    exact plain_ok (ofDecision?_movesInteraction hd)
  | served hs hv =>
    have hthrough : ∃ interception, e.interception = .ok interception ∧
      interception.letsThrough = true := ⟨_, hi, hs⟩
    generalize hfound : e.found = found at hv
    cases hv with
    | kept hr hn hplain hlog =>
      subst hfound
      exact .inl (stays_of_plain hleft (by rwa [hans]) (fun h => hr h.2) fun h => hn h.2)
    | shown hr hp hl =>
      subst hfound
      refine .inl ⟨hleft, ?_, ?_, ⟨fun _ => ⟨⟨hthrough, hr⟩, by simp [hp]⟩, fun _ => ⟨_, _, hans⟩⟩,
        fun _ => hl, fun h => by cases hr.symm.trans h.2⟩
      · rintro ⟨handoff, h⟩
        cases hans.symm.trans h
      · rintro pending ⟨⟨parameters, h⟩, -⟩
        cases hans.symm.trans h
    | completed hr hp hl =>
      subst hfound
      exact .inr (.inl ⟨_, ⟨hthrough, hr⟩, hp, hl, hans, hleft⟩)
    | @loggedIn pending user hr hp hu =>
      subst hfound
      exact .inr (.inr ⟨_, user, ⟨hthrough, hr⟩, hp, hu, hans, hleft⟩)

theorem Exchange.Completes.no_login (h : e.Completes settings pending) (other : Request.Record) :
    ¬ e.LogsInFor other := by
  rintro ⟨⟨parameters, hans⟩, -⟩
  rw [h.answer_eq, handoffAnswer] at hans
  split at hans <;> cases hans

theorem Exchange.Completes.no_form (h : e.Completes settings pending) : ¬ e.ShowsLoginForm := by
  rintro ⟨clientId, hint, hans⟩
  rw [h.answer_eq, handoffAnswer] at hans
  split at hans <;> cases hans

theorem Exchange.LogsIn.no_handoff (h : e.LogsIn settings pending user) : ¬ e.HandsOff := by
  rintro ⟨handoff, hans⟩
  cases h.answer_eq.symm.trans hans

theorem Exchange.LogsIn.logsInFor (h : e.LogsIn settings pending user) : e.LogsInFor pending :=
  ⟨⟨_, h.answer_eq⟩, h.pending_eq⟩

theorem Exchange.Lawful.completes_of_handsOff (h : e.Lawful settings) (hh : e.HandsOff) :
    ∃ pending, e.Completes settings pending := by
  rcases h.left_cases with hs | hc | ⟨pending, user, hl⟩
  · exact absurd hh hs.no_handoff
  · exact hc
  · exact absurd hh hl.no_handoff

theorem Exchange.LogsIn.not_reaches (h : e.LogsIn settings pending user) :
    ¬ e.Reaches settings .authorize := by
  rintro ⟨-, hr⟩
  cases hr.symm.trans h.reaches.2

theorem Exchange.Lawful.showsLoginForm_iff (h : e.Lawful settings) :
    e.ShowsLoginForm ↔ e.Reaches settings .authorize ∧ e.found.pending ≠ none ∧
      (e.before.clock settings).isLive e.found = false := by
  rcases h.left_cases with hs | ⟨pending, hc⟩ | ⟨pending, user, hl⟩
  · constructor
    · intro hform
      obtain ⟨hr, hp⟩ := hs.form_iff.mp hform
      exact ⟨hr, hp, hs.not_live hform⟩
    · rintro ⟨hr, hp, -⟩
      exact hs.form_iff.mpr ⟨hr, hp⟩
  · refine ⟨fun hform => absurd hform hc.no_form, ?_⟩
    rintro ⟨-, -, hn⟩
    cases hn.symm.trans hc.live
  · refine ⟨?_, fun ⟨hr, _, _⟩ => absurd hr hl.not_reaches⟩
    rintro ⟨clientId, hint, hans⟩
    cases hl.answer_eq.symm.trans hans

theorem Exchange.Lawful.completes_iff (h : e.Lawful settings) :
    e.Completes settings pending ↔ e.Reaches settings .authorize ∧ e.found.pending = some pending ∧
      (e.before.clock settings).isLive e.found = true := by
  refine ⟨fun hc => ⟨hc.reaches, hc.pending_eq, hc.live⟩, ?_⟩
  rintro ⟨hr, hp, hlive⟩
  rcases h.left_cases with hs | ⟨other, hc⟩ | ⟨other, user, hl⟩
  · have hform := hs.form_iff.mpr ⟨hr, by simp [hp]⟩
    cases (hs.not_live hform).symm.trans hlive
  · obtain rfl : other = pending := Option.some.inj (hc.pending_eq.symm.trans hp)
    exact hc
  · exact absurd hr hl.not_reaches

end

-- ---------------------------------------------------------------------------
-- Where a pending request comes from
-- ---------------------------------------------------------------------------

/-- `x` took up the request of a client that is pending now, and its session stood still since. -/
def StandsSince (settings : Settings) (own : List Exchange) (state : State) (x : Exchange)
    (request : Request) (client : Client) : Prop :=
  ∃ earlier later parameters, own = earlier ++ x :: later ∧ x.Lawful settings ∧
    x.TakesUp settings request client parameters ∧ state.pending = some request.toRecord ∧
    x.found = state ∧ ∀ y ∈ x :: later, y.left = state

section
variable {settings : Settings} {first service : Service} {history : List Exchange} {e : Exchange}

theorem Exchange.Lawful.found_of_pending (h : e.Lawful settings) (hp : e.entered.pending ≠ none) :
    e.found = e.entered := by
  rcases h.passes_or_takesUp with hpass | ⟨request, client, parameters, ht⟩
  · exact hpass.kept hp
  · exact absurd ht.idle hp

theorem Exchange.Lawful.stays_of_pending (h : e.Lawful settings) (hp : e.left.pending ≠ none) :
    e.Stays settings := by
  rcases h.left_cases with hs | ⟨pending, hc⟩ | ⟨pending, user, hl⟩
  · exact hs
  · rw [hc.left_eq] at hp
    exact absurd rfl hp
  · rw [hl.left_eq] at hp
    exact absurd rfl hp

theorem Run.pending_since (h : Run settings first history service) (hf : first.IsFresh)
    (sid : Session.Id) (hp : (service.store.state sid).pending ≠ none) :
    ∃ x request client,
      StandsSince settings (ofSession sid history) (service.store.state sid) x request client := by
  refine Run.session_inv (motive := fun own state => state.pending ≠ none →
    ∃ x request client, StandsSince settings own state x request client) hf
    (fun hn => absurd rfl hn) ?_ h sid hp
  intro own e history _ hl ih hp
  have hs := hl.stays_of_pending hp
  rw [hs.left_eq] at hp ⊢
  rcases hl.passes_or_takesUp with hpass | ⟨request, client, parameters, ht⟩
  · have hentered : e.entered.pending ≠ none := by
      rw [hpass.found_eq] at hp
      exact hp
    have hsame := hpass.kept hentered
    obtain ⟨x, request, client, a, b, parameters, rfl, hx, ht, hpending, hfound, hleft⟩ :=
      ih hentered
    refine ⟨x, request, client, a, b ++ [e], parameters, by simp, hx, ht, ?_, ?_, ?_⟩
    · rwa [hsame]
    · rwa [hsame]
    · rintro y hy
      rw [← List.cons_append, List.mem_append, List.mem_singleton] at hy
      rcases hy with hy | rfl
      · rw [hsame]
        exact hleft y hy
      · exact hs.left_eq
  · cases hd : ((e.before.interceptor settings).verdict e.entered request client).isDenial with
    | true => exact absurd (ht.found_of_denial hd).1 hp
    | false =>
      refine ⟨e, request, client, own, [], parameters, rfl, hl, ht,
        (ht.keepsRequest hd).pending_eq, rfl, ?_⟩
      rintro y hy
      rw [List.mem_singleton.mp hy]
      exact hs.left_eq

end

end Service

end SignOn
