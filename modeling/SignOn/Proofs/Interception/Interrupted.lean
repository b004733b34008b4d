import SignOn.Proofs.Interception.Outcome

/-!
# Interceptions cut short

The states of a request that is taken up are saved one after the other. When the store fails from
some save on, the session is left with the last state that was saved: idle before the second save,
and with a pending request that was never judged after it (`unavailable_leaves_request_iff`). Such a
request is not judged later either.
-/

namespace SignOn.Interceptor

open Session (State Store)

-- ---------------------------------------------------------------------------
-- The states on the way
-- ---------------------------------------------------------------------------

section
variable {interceptor : Interceptor} {state : State} {request : Request} {client : Client}
  {parameters : Assoc String}

theorem length_carriedStates_le (state : State) (decision : Decision) :
    (carriedStates state decision).length ≤ 1 := by
  cases decision with
  | proceed => exact Nat.zero_le 1
  | _ => exact Nat.le_refl 1

theorem pending_of_mem_judgedStates {judged : State} (hp : state.pending ≠ none)
    (h : judged ∈ judgedStates state request) : judged.pending ≠ none := by
  unfold judgedStates at h
  split at h
  · rw [List.mem_singleton.mp h]
    exact hp
  · cases h

theorem pending_take_judgedStates (hp : state.pending ≠ none) (decision : Decision) {saves : Nat}
    (h : saves < (judgedStates state request ++
      carriedStates (state.judged request) decision).length) :
    (((judgedStates state request ++ carriedStates (state.judged request) decision).take
      saves).getLastD state).pending ≠ none := by
  have hc := length_carriedStates_le (state.judged request) decision
  rw [List.length_append] at h
  rw [List.take_append_of_le_length (by omega)]
  rcases List.mem_cons.mp List.getLastD_mem_cons with hlast | hlast
  · rwa [hlast]
  · exact pending_of_mem_judgedStates hp (List.mem_of_mem_take hlast)

/-- Of the states before the last one, those from the second on have the request. -/
theorem pending_lastSaved (hp : state.pending = none) {saves : Nat}
    (h : saves < (interceptor.acceptedStates state parameters request client).length) :
    (Session.lastSaved (some saves)
        (interceptor.acceptedStates state parameters request client) state).pending = none ↔
      saves < 2 := by
  match saves with
  | 0 => exact iff_of_true hp (by decide)
  | 1 => exact iff_of_true hp (by decide)
  | rest + 2 =>
    refine iff_of_false ?_ (by omega)
    have hstarted : (state.started request parameters client).pending ≠ none := by
      simp [Session.State.started]
    simp only [acceptedStates, List.length_cons, Nat.add_lt_add_iff_right] at h
    simp only [Session.lastSaved, acceptedStates, List.take_succ_cons, List.getLastD_cons]
    exact pending_take_judgedStates hstarted (interceptor.verdict state request client) h

end

-- ---------------------------------------------------------------------------
-- Interceptions on a failing store
-- ---------------------------------------------------------------------------

theorem readRequest_available {registry : Client.Registry} {parameters : Assoc String} :
    readRequest registry parameters ≠ .error .storeUnavailable := by
  unfold readRequest
  cases Request.ofParameters parameters with
  | error cause => simp
  | ok request =>
    simp only
    unfold findClient
    split <;> simp [Except.map]

/-- Only a store that cuts an interception short makes it fail in this way. -/
theorem Outcome.available {interceptor : Interceptor} {takes : State → Bool} {path : String}
    {parameters : Request.Parameters} {s t : State} {result : Except Failure Interception}
    (h : interceptor.Outcome takes path parameters s result t) :
    result ≠ .error .storeUnavailable := by
  cases h with
  | failed hc hp hr =>
    intro he
    cases he
    exact readRequest_available hr
  | _ => simp

theorem exists_resumed_iff {store : Store} (h : store.Healthy) {interceptor : Interceptor}
    {path : String} (hc : covers interceptor.authorizePath path = true) (sid : Session.Id)
    (parameters : Request.Parameters) :
    (∃ clientId, resultOf (interceptor.intercept path parameters sid store) =
        .ok (.resumed clientId)) ↔ (store.state sid).pending ≠ none := by
  obtain ⟨result, after, state, hrun, -, ho⟩ := intercept_run h interceptor sid path parameters
  rw [hrun, resultOf_ending]
  cases ho with
  | unconcerned hc' => cases hc.symm.trans hc'
  | resumed hc hp => simp [hp]
  | rejected hc hp hr clientId => simp [hp]
  | failed hc hp hr => simp [hp]
  | refused hc hp hr ht => simp [hp]
  | decided hc hp hr ht => simp [hp]

/-- When the store fails for good in the course of an interception, after some number of saves, the
session is left idle if that were less than two. Otherwise it is left with a request that was not
judged, and that no later interception judges. -/
theorem unavailable_leaves_request_iff {store : Store} {saves : Nat}
    (h : store.Lasts (some saves)) (interceptor : Interceptor) (sid : Session.Id) (path : String)
    (parameters : Request.Parameters) (hp : (store.state sid).pending = none)
    (hu : resultOf (interceptor.intercept path parameters sid store) =
      .error .storeUnavailable) :
    (((stateOf (interceptor.intercept path parameters sid store)).state sid).pending = none ↔
        saves < 2) ∧
      ∀ (later : Interceptor) (path' : String) (parameters' : Request.Parameters),
        covers later.authorizePath path' = true →
        ((∃ clientId, resultOf (later.intercept path' parameters' sid
            (stateOf (interceptor.intercept path parameters sid store)).restored) =
              .ok (.resumed clientId)) ↔ 2 ≤ saves) := by
  obtain ⟨result, written, hw, ho, hs⟩ :=
    interceptor.intercept_writes store.takes sid path parameters (store.state sid)
  obtain ⟨after, hrun, hl, ua⟩ := hw (some saves) store h rfl rfl
  rw [hrun, resultOf_ending] at hu
  rw [hrun, stateOf_ending]
  have hcut : Session.cuts (some saves) written = true := by
    cases hc : Session.cuts (some saves) written with
    | true => rfl
    | false =>
      rw [hc] at hu
      exact absurd hu ho.available
  have hlt : saves < written.length := by simpa [Session.cuts] using hcut
  have hafter : (after.state sid).pending = none ↔ saves < 2 := by
    rw [show after.state sid = _ from ua.state_eq]
    cases hs with
    | nothing => cases hlt
    | refused request =>
      refine iff_of_true ?_ hlt
      obtain rfl | rfl : saves = 0 ∨ saves = 1 := by
        simp only [List.length_cons, List.length_nil] at hlt
        omega
      · exact hp
      · exact hp
    | accepted request client => exact pending_lastSaved hp hlt
  refine ⟨hafter, fun later path' parameters' hc => ?_⟩
  rw [exists_resumed_iff (Store.restored_healthy hl) hc]
  show (after.state sid).pending ≠ none ↔ 2 ≤ saves
  rw [ne_eq, hafter, Nat.not_lt]

-- ---------------------------------------------------------------------------
-- A denial that is not carried out
-- ---------------------------------------------------------------------------

def webInterceptor : Interceptor where
  authorizePath := "/profile/oidc/authorize"
  registry := [.ofAddresses "web" [] none]
  clock := ⟨⟨0⟩, 28800⟩

/-- Asks for no page, so that a session without a login is denied. -/
def passiveParameters : Request.Parameters :=
  [("client_id", ["web"]), ("prompt", ["none"])]

/-- A table that takes the login hint and the request and nothing more. -/
def failingTable : Store where
  sessions := .table ∅
  faults := .lasting (some 2)

theorem failingTable_lasts : failingTable.Lasts (some 2) :=
  ⟨rfl, by simp [failingTable, Session.Sessions.Sound]⟩

def interruptedRun : EStateM.Result Failure Store Interception :=
  webInterceptor.intercept "/profile/oidc/authorize" passiveParameters "s" failingTable

theorem interruptedRun_unavailable : resultOf interruptedRun = .error .storeUnavailable := by
  rfl

theorem interruptedRun_leaves_request_iff :
    (((stateOf interruptedRun).state "s").pending = none ↔ 2 < 2) ∧
      ∀ (later : Interceptor) (path : String) (parameters : Request.Parameters),
        covers later.authorizePath path = true →
        ((∃ clientId, resultOf (later.intercept path parameters "s"
            (stateOf interruptedRun).restored) = .ok (.resumed clientId)) ↔ 2 ≤ 2) :=
  unavailable_leaves_request_iff failingTable_lasts webInterceptor "s" "/profile/oidc/authorize"
    passiveParameters rfl interruptedRun_unavailable

/-- A store that fails in time leaves a request pending that was not judged. -/
theorem failed_interception_leaves_request :
    ¬ ∀ (interceptor : Interceptor) (store : Store) (saves : Nat) (sid : Session.Id)
      (path : String) (parameters : Request.Parameters), store.Lasts (some saves) →
      (store.state sid).pending = none →
      resultOf (interceptor.intercept path parameters sid store) = .error .storeUnavailable →
      ((stateOf (interceptor.intercept path parameters sid store)).state sid).pending = none := by
  intro h
  have hnone := h webInterceptor failingTable 2 "s" "/profile/oidc/authorize" passiveParameters
    failingTable_lasts rfl interruptedRun_unavailable
  have hsome : ((stateOf interruptedRun).state "s").pending.isSome = true := by decide +kernel
  rw [interruptedRun, hnone] at hsome
  cases hsome

end SignOn.Interceptor
