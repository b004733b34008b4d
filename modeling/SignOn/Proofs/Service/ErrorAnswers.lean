import SignOn.Proofs.Service.Mediation

/-!
# What an error answer leaves of the interaction

An error answer is no step of the interaction: the session of an exchange that is answered with a
client error keeps its pending request, the parameters and the client as they were, with one
exception. The interception looks at the beginning of the path only and the routes at the whole of
it and at the method. A request that strays, as one to a path under the authorize path that has no
endpoint, is accepted by the first and refused by the second, and stays pending
(`error_keeps_interaction_iff`).
-/

namespace SignOn

open Session (State)

/-- What a session keeps of its interaction: the pending request, its parameters and its client. -/
def Session.State.interaction (state : State) :
    Option Request.Record × Option (Assoc String) × Option Client.Record :=
  (state.pending, state.parameters, state.client)

def Session.State.noInteraction :
    Option Request.Record × Option (Assoc String) × Option Client.Record :=
  (none, none, none)

theorem Answer.movesInteraction_of_error {answer : Answer} (h : 400 ≤ answer.status) :
    answer.movesInteraction = false := by
  cases answer <;> first | rfl | exact absurd h (by simp [status])

theorem Interception.letsThrough_decided (clientId : String) (h : decision.isDenial = false) :
    (decided decision clientId).letsThrough = true := by
  cases decision <;> first | rfl | cases h

namespace Service

variable {settings : Settings} {first service : Service} {history earlier later : List Exchange}
  {e : Exchange} {request : Request} {client : Client} {parameters : Assoc String} {answer : Answer}

/-- The interception accepts the request of an exchange, but the request is not one for the
authorize endpoint. -/
structure Exchange.Strays (settings : Settings) (e : Exchange) (request : Request)
    (client : Client) (parameters : Assoc String) : Prop where
  idle : e.entered.pending = none
  sends : e.Sends settings parameters
  read : Interceptor.readRequest e.before.database.clients parameters = .ok (request, client)
  admitted : request.toRecord.isPassive = true → (e.before.clock settings).isLive e.entered = true
  astray : route settings e.request.method e.request.path ≠ .endpoint .authorize

-- ---------------------------------------------------------------------------
-- Idle sessions
-- ---------------------------------------------------------------------------

theorem Exchange.Passes.interaction_eq (h : e.Passes) :
    e.found.interaction = e.entered.interaction := by
  rw [h.found_eq]
  rfl

theorem Exchange.TakesUp.interaction_of_denial
    (h : e.TakesUp settings request client parameters)
    (hd : ((e.before.interceptor settings).verdict e.entered request client).isDenial = true) :
    e.found.interaction = State.noInteraction := by
  rw [h.found_eq, Interceptor.accepted, Session.State.carried_of_denial hd]
  rfl

theorem Exchange.TakesUp.interaction_of_through
    (h : e.TakesUp settings request client parameters)
    (hd : ((e.before.interceptor settings).verdict e.entered request client).isDenial = false) :
    e.found.interaction = (some request.toRecord, some parameters, some client.toRecord) := by
  have hk := h.keepsRequest hd
  rw [State.interaction, hk.pending_eq, hk.parameters_eq, hk.client_eq]

/-- A session without a pending request keeps nothing of an earlier one. -/
theorem Run.idle_interaction (h : Run settings first history service) (hf : first.IsFresh)
    (sid : Session.Id) (hp : (service.store.state sid).pending = none) :
    (service.store.state sid).interaction = State.noInteraction := by
  refine Run.session_inv (motive := fun _ state => state.pending = none →
    state.interaction = State.noInteraction) hf (fun _ => rfl) ?_ h sid hp
  intro _ e _ _ hl ih hp
  rcases hl.left_cases with hs | ⟨pending, hc⟩ | ⟨pending, user, hlogin⟩
  · rw [hs.left_eq] at hp ⊢
    rcases hl.passes_or_takesUp with hpass | ⟨request, client, parameters, ht⟩
    · rw [hpass.interaction_eq]
      refine ih ?_
      rwa [hpass.found_eq] at hp
    · cases hd : ((e.before.interceptor settings).verdict e.entered request client).isDenial with
      | true => exact ht.interaction_of_denial hd
      | false => cases (ht.keepsRequest hd).pending_eq.symm.trans hp
  · rw [hc.left_eq]
    rfl
  · rw [hlogin.left_eq]
    rfl

-- ---------------------------------------------------------------------------
-- Requests that go astray
-- ---------------------------------------------------------------------------

/-- A request that strays is taken up, unless the store refuses it, and then there is no answer. -/
theorem Exchange.Strays.takesUp (h : e.Strays settings request client parameters)
    (hl : e.Lawful settings) (ha : e.answer = .ok answer) :
    e.TakesUp settings request client parameters := by
  obtain ⟨path, sent, hpath, hc, hsent, rfl⟩ := h.sends
  obtain ⟨entries, hanswered, -⟩ := hl.answered
  have hi := hl.intercepted
  generalize hinterception : e.interception = interception at hi hanswered
  generalize hfound : e.found = found at hi
  cases hi with
  | unreadAddress hpath' => cases hpath.symm.trans hpath'
  | unreadParameters hpath' hc' hparameters => cases hsent.symm.trans hparameters
  | read hpath' hparameters ho =>
    cases hpath.symm.trans hpath'
    cases hsent.symm.trans (hparameters hc)
    cases ho with
    | unconcerned hc' => cases hc.symm.trans hc'
    | resumed hc' hp => cases h.idle.symm.trans hp
    | rejected hc' hp hr clientId => cases h.read.symm.trans hr
    | failed hc' hp hr => cases h.read.symm.trans hr
    | refused hc' hp hr ht =>
      rw [ha] at hanswered
      cases hanswered
    | decided hc' hp hr ht =>
      cases h.read.symm.trans hr
      exact ⟨h.idle, h.read, hinterception, hfound⟩

theorem Exchange.Strays.not_denied (h : e.Strays settings request client parameters) :
    ((e.before.interceptor settings).verdict e.entered request client).isDenial = false :=
  Interceptor.verdict_through_iff.mpr h.admitted

-- ---------------------------------------------------------------------------
-- Error answers
-- ---------------------------------------------------------------------------

theorem Exchange.Lawful.stays_of_error (hl : e.Lawful settings) (ha : e.answer = .ok answer)
    (hs : 400 ≤ answer.status) : e.Stays settings := by
  rcases hl.left_cases with hstays | ⟨pending, hc⟩ | ⟨pending, user, hlogin⟩
  · exact hstays
  · have hanswer := hc.answer_eq
    rw [ha, handoffAnswer] at hanswer
    split at hanswer <;> cases hanswer
    cases Answer.movesInteraction_of_error hs
  · cases ha.symm.trans hlogin.answer_eq
    cases Answer.movesInteraction_of_error hs

theorem Exchange.no_form_of_error (ha : e.answer = .ok answer) (hs : 400 ≤ answer.status) :
    ¬ e.ShowsLoginForm := by
  rintro ⟨clientId, hint, hform⟩
  cases ha.symm.trans hform
  cases Answer.movesInteraction_of_error hs

theorem Exchange.TakesUp.astray_of_error (h : e.TakesUp settings request client parameters)
    (hd : ((e.before.interceptor settings).verdict e.entered request client).isDenial = false)
    (hl : e.Lawful settings) (ha : e.answer = .ok answer) (hs : 400 ≤ answer.status) :
    route settings e.request.method e.request.path ≠ .endpoint .authorize := by
  intro hr
  have hreaches : e.Reaches settings .authorize :=
    ⟨⟨_, h.decided, Interception.letsThrough_decided _ hd⟩, hr⟩
  have hp : e.found.pending ≠ none := by simp [(h.keepsRequest hd).pending_eq]
  exact no_form_of_error ha hs ((hl.stays_of_error ha hs).form_iff.mpr ⟨hreaches, hp⟩)

/-- An exchange that is answered with a client error leaves the interaction of its session as it
was, unless its request strays. Then the request is pending, with its parameters and its client,
where nothing was before. -/
theorem error_keeps_interaction_iff (hf : first.IsFresh)
    (h : Run settings first (earlier ++ e :: later) service) (ha : e.answer = .ok answer)
    (herror : 400 ≤ answer.status ∧ answer.status < 500) :
    (e.left.interaction = e.entered.interaction ↔
      ¬ ∃ request client parameters, e.Strays settings request client parameters) ∧
    ∀ request client parameters, e.Strays settings request client parameters →
      e.entered.interaction = State.noInteraction ∧
        e.left.interaction = (some request.toRecord, some parameters, some client.toRecord) := by
  have hl := h.lawful hf
  have hleft := (hl.stays_of_error ha herror.1).left_eq
  have hstrays (request : Request) (client : Client) (parameters : Assoc String)
      (hx : e.Strays settings request client parameters) :
      e.entered.interaction = State.noInteraction ∧
        e.left.interaction = (some request.toRecord, some parameters, some client.toRecord) := by
    rw [hleft]
    exact ⟨h.before.1.idle_interaction hf e.sid hx.idle,
      (hx.takesUp hl ha).interaction_of_through hx.not_denied⟩
  refine ⟨⟨?_, fun hn => ?_⟩, hstrays⟩
  · rintro hsame ⟨request, client, parameters, hx⟩
    obtain ⟨hnone, hsome⟩ := hstrays _ _ _ hx
    rw [hnone, hsome] at hsame
    cases hsame
  · rw [hleft]
    rcases hl.passes_or_sends with hpass | ⟨parameters, request, client, ht, hsends⟩
    · exact hpass.interaction_eq
    · cases hd : ((e.before.interceptor settings).verdict e.entered request client).isDenial with
      | true =>
        rw [ht.interaction_of_denial hd, Exchange.entered,
          h.before.1.idle_interaction hf e.sid ht.idle]
      | false =>
        exact absurd ⟨request, client, parameters, ht.idle, hsends, ht.read,
          Interceptor.verdict_through_iff.mp hd, ht.astray_of_error hd hl ha herror.1⟩ hn

-- After a login a passive request goes below the authorize path, where there is nothing.
def straySteps : List Step :=
  [.request (ask "client_id=web"), .request logIn]

def strayExchange : Exchange :=
  exchange {} (replay {} demo straySteps).2
    { ask "client_id=app&prompt=none" with path := "/profile/oidc/authorize/extra" }

theorem strayExchange_run :
    Run {} demo ((replay {} demo straySteps).1 ++ [strayExchange]) strayExchange.after :=
  .request (run_replay {} demo straySteps) _

theorem strayExchange_answer : strayExchange.answer = .ok .notFound :=
  eq_ok_of_toOption (by decide +kernel)

theorem strayExchange_keeps_interaction_iff :
    strayExchange.answer = .ok .notFound ∧
    (400 ≤ Answer.notFound.status ∧ Answer.notFound.status < 500) ∧
    (strayExchange.left.interaction = strayExchange.entered.interaction ↔
      ¬ ∃ request client parameters, strayExchange.Strays {} request client parameters) ∧
    ∀ request client parameters, strayExchange.Strays {} request client parameters →
      strayExchange.entered.interaction = State.noInteraction ∧
        strayExchange.left.interaction =
          (some request.toRecord, some parameters, some client.toRecord) :=
  ⟨strayExchange_answer, by decide,
    error_keeps_interaction_iff demo_isFresh strayExchange_run strayExchange_answer (by decide)⟩

/-- An error answer can leave a request pending. -/
theorem error_answer_leaves_request :
    ¬ ∀ (first service : Service) (earlier later : List Exchange) (e : Exchange)
      (answer : Answer), first.IsFresh → Run {} first (earlier ++ e :: later) service →
      e.answer = .ok answer → 400 ≤ answer.status → answer.status < 500 →
      e.left.pending = e.entered.pending ∧ e.left.parameters = e.entered.parameters ∧
        e.left.client = e.entered.client := by
  intro h
  have hkept := (h _ _ _ _ _ _ demo_isFresh strayExchange_run strayExchange_answer (by decide)
    (by decide)).1
  have hmoved : strayExchange.left.pending ≠ strayExchange.entered.pending := by decide +kernel
  exact hmoved hkept

end Service

end SignOn
