import SignOn.Proofs.HandoffLaws
import SignOn.Proofs.Interception.Outcome

/-!
# Interceptions without a decision

An interception that decides nothing leaves every session as it was, with one exception: the login
hint is saved before the request is stored, so that a table that refuses the request keeps its hint.
This happens to the clients whose redirect addresses cannot be put in order
(`undecided_keeps_sessions_iff`).
-/

namespace SignOn

open Session (State Store)

-- ---------------------------------------------------------------------------
-- What a table refuses
-- ---------------------------------------------------------------------------

namespace Session

def Store.IsTable (store : Store) : Prop :=
  ∃ rows, store.sessions = .table rows

/-- A request that was read is refused by a table only, and for the addresses of its client. -/
theorem Store.takes_started {parameters : Assoc String} {request : Request}
    (h : Request.ofParameters parameters = .ok request) (store : Store) (state : State)
    (client : Client) :
    store.takes (state.started request parameters client) = false ↔
      store.IsTable ∧ client.redirectUris.ordered? = none := by
  have hscopes : request.toRecord.scopes.ordered?.isSome = true := by
    show request.scopes.ordered?.isSome = true
    rw [Request.scopes_of_ofParameters h, AtomSet.ordered?_ofTexts]
    rfl
  unfold Store.takes Store.IsTable
  cases store.sessions with
  | memory states => simp
  | table rows =>
    simp [State.isListable, State.started, hscopes, Client.toRecord]

/-- Every session is loaded from both stores, with the same state. -/
def Store.SameStates (store after : Store) : Prop :=
  ∀ sid, ∃ state, load sid store = .ok state store ∧ load sid after = .ok state after

theorem Store.SameStates.state_eq {store after : Store} (h : store.SameStates after)
    (hs : store.Healthy) (ha : after.Healthy) (sid : Id) : after.state sid = store.state sid := by
  obtain ⟨state, hload, hload'⟩ := h sid
  obtain ⟨hbefore, -⟩ := EStateM.Result.ok.inj ((load_run hs).symm.trans hload)
  obtain ⟨hafter, -⟩ := EStateM.Result.ok.inj ((load_run ha).symm.trans hload')
  rw [hbefore, hafter]

theorem Store.Updated.sameStates_iff {store after : Store} {sid : Id} {state : State}
    (hs : store.Healthy) (h : store.Updated after sid state) :
    store.SameStates after ↔ state = store.state sid := by
  constructor
  · intro hsame
    rw [← h.state_eq]
    exact hsame.state_eq hs h.healthy sid
  · rintro rfl other
    exact ⟨_, load_run hs, h.unchanged other ▸ load_run h.healthy⟩

end Session

-- ---------------------------------------------------------------------------
-- Interceptions that decide nothing
-- ---------------------------------------------------------------------------

namespace Interceptor

/-- A request of an idle session that a table refuses for the addresses of its client, with a login
hint that is not the one of the session. -/
def StrandsHint (interceptor : Interceptor) (store : Store) (sid : Session.Id) (path : String)
    (parameters : Request.Parameters) : Prop :=
  covers interceptor.authorizePath path = true ∧ (store.state sid).pending = none ∧
    store.IsTable ∧
    ∃ request client,
      readRequest interceptor.registry (Request.singleValues parameters) = .ok (request, client) ∧
      client.redirectUris.ordered? = none ∧ request.loginHint ≠ (store.state sid).loginHint

section
variable {interceptor : Interceptor} {store : Store} {sid : Session.Id} {path : String}
  {parameters : Request.Parameters} {state : State} {result : Except Failure Interception}

theorem Outcome.state_of_undecided
    (h : interceptor.Outcome store.takes path parameters (store.state sid) result state)
    (hn : ∀ decision clientId, result ≠ .ok (.decided decision clientId)) :
    state = { store.state sid with loginHint := state.loginHint } ∧
      (state ≠ store.state sid ↔ interceptor.StrandsHint store sid path parameters) := by
  cases h with
  | unconcerned hc => exact ⟨rfl, iff_of_false (fun h => h rfl) (by simp [StrandsHint, hc])⟩
  | resumed hc hp => exact ⟨rfl, iff_of_false (fun h => h rfl) (by simp [StrandsHint, hp])⟩
  | rejected hc hp hr clientId =>
    exact ⟨rfl, iff_of_false (fun h => h rfl) (by simp [StrandsHint, hr])⟩
  | failed hc hp hr => exact ⟨rfl, iff_of_false (fun h => h rfl) (by simp [StrandsHint, hr])⟩
  | @refused request client hc hp hr ht =>
    obtain ⟨htable, hordered⟩ := (Store.takes_started (readRequest_eq_ok.mp hr).1 ..).mp ht
    refine ⟨rfl, fun hstate => ⟨hc, hp, htable, request, client, hr, hordered, ?_⟩, ?_⟩
    · intro hhint
      exact hstate (by rw [hhint])
    · rintro ⟨-, -, -, other, _, hr', -, hhint⟩ hstate
      cases hr.symm.trans hr'
      exact hhint (congrArg State.loginHint hstate)
  | decided hc hp hr ht => exact absurd rfl (hn _ _)

/-- An interception without a decision keeps all but the login hint, and the hint as well unless a
table refuses the request. -/
theorem undecided_keeps_sessions_iff (h : store.Healthy) (interceptor : Interceptor)
    (sid : Session.Id) (path : String) (parameters : Request.Parameters)
    (hn : ∀ decision clientId,
      resultOf (interceptor.intercept path parameters sid store) ≠
        .ok (.decided decision clientId)) :
    (∀ other, ∃ loginHint,
        (stateOf (interceptor.intercept path parameters sid store)).state other =
          { store.state other with loginHint }) ∧
      (store.SameStates (stateOf (interceptor.intercept path parameters sid store)) ↔
        ¬ interceptor.StrandsHint store sid path parameters) := by
  obtain ⟨result, after, state, hrun, hu, ho⟩ := intercept_run h interceptor sid path parameters
  rw [hrun, resultOf_ending] at hn
  rw [hrun, stateOf_ending]
  obtain ⟨hstate, hstrands⟩ := ho.state_of_undecided hn
  refine ⟨fun other => ?_, ?_⟩
  · by_cases hsid : other = sid
    · exact ⟨state.loginHint, by rw [hsid, hu.state_eq, ← hstate]⟩
    · exact ⟨(store.state other).loginHint, hu.frame other hsid⟩
  · rw [hu.sameStates_iff h, ← hstrands, Classical.not_not]

theorem intercept_healthy (h : store.Healthy) (interceptor : Interceptor) (sid : Session.Id)
    (path : String) (parameters : Request.Parameters) :
    (stateOf (interceptor.intercept path parameters sid store)).Healthy := by
  obtain ⟨result, after, state, hrun, hu, -⟩ := intercept_run h interceptor sid path parameters
  rw [hrun, stateOf_ending]
  exact hu.healthy

end

-- ---------------------------------------------------------------------------
-- A client with addresses of two kinds
-- ---------------------------------------------------------------------------

def mixedClient : Client.Row where
  clientId := "mixed"
  redirectUris := "[\"https://rp/cb\", 1]"

def mixedInterceptor : Interceptor where
  authorizePath := "/profile/oidc/authorize"
  registry := [mixedClient]
  clock := ⟨⟨0⟩, 28800⟩

def hintedParameters : Request.Parameters :=
  [("client_id", ["mixed"]), ("login_hint", ["ada"])]

def emptyTable : Store where
  sessions := .table ∅

theorem emptyTable_healthy : emptyTable.Healthy :=
  ⟨rfl, by simp [emptyTable, Session.Sessions.Sound]⟩

def mixedRun : EStateM.Result Failure Store Interception :=
  mixedInterceptor.intercept "/profile/oidc/authorize" hintedParameters "s" emptyTable

theorem mixedRun_undecided (decision : Decision) (clientId : String) :
    resultOf mixedRun ≠ .ok (.decided decision clientId) := by
  have hnone : (resultOf mixedRun).toOption = none := by decide +kernel
  intro h
  rw [h] at hnone
  cases hnone

theorem mixedRun_keeps_sessions_iff :
    (∀ other, ∃ loginHint, (stateOf mixedRun).state other =
        { emptyTable.state other with loginHint }) ∧
      (emptyTable.SameStates (stateOf mixedRun) ↔
        ¬ mixedInterceptor.StrandsHint emptyTable "s" "/profile/oidc/authorize"
          hintedParameters) :=
  undecided_keeps_sessions_iff emptyTable_healthy mixedInterceptor "s" "/profile/oidc/authorize"
    hintedParameters mixedRun_undecided

/-- A request that fails can leave its login hint behind. -/
theorem failed_interception_keeps_hint :
    ¬ ∀ (interceptor : Interceptor) (store : Store) (sid : Session.Id) (path : String)
      (parameters : Request.Parameters), store.Healthy →
      (∀ decision clientId,
        resultOf (interceptor.intercept path parameters sid store) ≠
          .ok (.decided decision clientId)) →
      store.SameStates (stateOf (interceptor.intercept path parameters sid store)) := by
  intro h
  have hsame := h mixedInterceptor emptyTable "s" "/profile/oidc/authorize" hintedParameters
    emptyTable_healthy mixedRun_undecided
  have hstate := hsame.state_eq emptyTable_healthy (intercept_healthy emptyTable_healthy ..) "s"
  have hhint : ((stateOf mixedRun).state "s").loginHint = some "ada" := by decide +kernel
  rw [mixedRun, hstate] at hhint
  cases hhint

end Interceptor

end SignOn
