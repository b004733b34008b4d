import SignOn.Http.Reply
import SignOn.Proofs.Client.RedirectLaws
import SignOn.Proofs.Service.Coupling
import SignOn.Proofs.Service.Mediation
import SignOn.Proofs.Session.FaultLaws

/-!
# Where the service sends a browser

Two kinds of answers send a browser elsewhere. The one to a login leads back to the authorize path
with the parameters of the session, and the one to a denied request to the address that the request
names, which its client has registered (`redirect_targets`). This is so whatever the faults of the
session store are.
-/

namespace SignOn

-- ---------------------------------------------------------------------------
-- The parameters of a pending request
-- ---------------------------------------------------------------------------

def Session.State.HasParameters (state : State) : Prop :=
  state.pending ≠ none → ∃ parameters, state.parameters = some parameters ∧ parameters.entries ≠ []

theorem Session.State.steady_hasParameters : Steady HasParameters where
  congr := by
    rintro s t hp hr - h hne
    rw [hr]
    exact h (hp ▸ hne)
  idle := fun hp _ hne => absurd hp hne

theorem Interceptor.starts_hasParameters (registry : Client.Registry) :
    Starts Session.State.HasParameters registry := by
  intro parameters request client hr state _
  exact ⟨parameters, rfl, Request.entries_of_ofParameters (readRequest_eq_ok.mp hr).1⟩

namespace Service

open Session (State Store)
open Session.State (HasParameters steady_hasParameters)

/-- A service is paired with itself when every session has the parameters of its pending request. -/
abbrev Stands (registry : Client.Registry) (service : Service) : Prop :=
  Paired (Store.Same HasParameters) registry service service

theorem stands_iff {registry : Client.Registry} {service : Service} :
    Stands registry service ↔
      service.store.Every HasParameters ∧ service.database.clients = registry :=
  ⟨fun h => ⟨h.stores.2, h.clients⟩, fun h => ⟨⟨rfl, h.1⟩, rfl, h.2⟩⟩

theorem coupling_hasParameters : Session.Coupling (Store.Same HasParameters) HasParameters :=
  Session.coupling_same HasParameters

-- ---------------------------------------------------------------------------
-- Answers with a redirect
-- ---------------------------------------------------------------------------

section
variable {registry : Client.Registry} {settings : Settings} {service after : Service}
  {sid : Session.Id} {request : Http.Request} {answer : Answer}

theorem store_of_onStore {action : Session.StoreM α} (h : onStore action service = .ok a after) :
    ∃ store, action service.store = .ok a store ∧ after = { service with store } := by
  unfold onStore at h
  cases hr : action service.store with
  | error failure store => simp [hr] at h
  | ok found store =>
    rw [hr] at h
    cases h
    exact ⟨store, rfl, rfl⟩

theorem read_of_onStore {f : State → α}
    (h : onStore (do return f (← Session.load sid)) service = .ok a after) :
    a = f (service.store.state sid) ∧ after.store.sessions = service.store.sessions := by
  obtain ⟨store, hrun, rfl⟩ := store_of_onStore h
  exact Session.read_ok hrun

theorem raise_ok {result : Except Failure α} (h : raise result service = .ok a after) :
    result = .ok a ∧ after = service := by
  rw [raise_run] at h
  cases result with
  | error failure => cases h
  | ok found =>
    cases h
    exact ⟨rfl, rfl⟩

theorem parameters_of_record {clock : Session.Login.Clock} {subject : String}
    (h : discard (onStore (Session.Login.record clock sid subject)) service = .ok () after) :
    (after.store.state sid).parameters = (service.store.state sid).parameters := by
  obtain ⟨_, recorded, hrecord, h⟩ := exists_of_run_bind h
  cases h
  obtain ⟨store, hrun, rfl⟩ := store_of_onStore hrecord
  obtain ⟨_, updated, hput, hreturn⟩ := exists_of_run_bind hrun
  cases hreturn
  show (store.state sid).parameters = _
  rw [Session.update_ok hput]

/-- The only redirect that a login form is answered with leads back with the parameters of the
session. -/
theorem reentry_of_login {username password : String} {ip : Option String}
    (h : login settings sid username password ip service = .ok answer after)
    (hs : answer.status = 302) :
    ∃ pending, (service.store.state sid).pending = some pending ∧
      answer = .reentry (reentryParameters (service.store.state sid).parameters pending) := by
  obtain ⟨pending, loaded, hp, h⟩ := exists_of_run_bind h
  obtain ⟨rfl, hloaded⟩ := read_of_onStore (f := State.pending) hp
  cases hpending : (service.store.state sid).pending with
  | none =>
    rw [hpending] at h
    cases h
    cases hs
  | some pending =>
    rw [hpending] at h
    obtain ⟨_, _, hget, h⟩ := exists_of_run_bind h
    cases hget
    obtain ⟨found, _, hcheck, h⟩ := exists_of_run_bind h
    obtain ⟨-, rfl⟩ := raise_ok hcheck
    cases found with
    | none =>
      obtain ⟨_, _, -, h⟩ := exists_of_run_bind h
      cases h
      cases hs
    | some user =>
      obtain ⟨_, _, hget, h⟩ := exists_of_run_bind h
      cases hget
      obtain ⟨_, recorded, hrecord, h⟩ := exists_of_run_bind h
      have hrecorded := parameters_of_record hrecord
      rw [Session.Store.state_congr hloaded] at hrecorded
      obtain ⟨_, logged, hlog, h⟩ := exists_of_run_bind h
      cases hlog
      obtain ⟨parameters, _, hparameters, h⟩ := exists_of_run_bind h
      obtain ⟨rfl, -⟩ := read_of_onStore (f := State.parameters) hparameters
      obtain ⟨_, _, -, h⟩ := exists_of_run_bind h
      cases h
      refine ⟨pending, rfl, ?_⟩
      show Answer.reentry (reentryParameters (recorded.store.state sid).parameters pending) = _
      rw [hrecorded]

theorem reentry_of_serve (hi : Stands registry service)
    (h : serve settings request sid service = .ok answer after) (hs : answer.status = 302) :
    ∃ pending, (service.store.state sid).pending = some pending ∧
      answer = .reentry (reentryParameters (service.store.state sid).parameters pending) := by
  unfold serve at h
  generalize route settings request.method request.path = target at h
  cases target with
  | endpoint endpoint =>
    cases endpoint with
    | authorize =>
      have hcouples : Couples (Paired (Store.Same HasParameters) registry)
          (authorize settings sid request.ip) (·.status ≠ 302) :=
        couples_authorize (pairing_paired _ _) (coupling_hasParameters.session sid)
          steady_hasParameters settings request.ip
      exact absurd hs (hcouples.of_ok hi h).2
    | login =>
      simp only [submitLogin] at h
      cases hf : request.formPairs with
      | error failure =>
        rw [hf] at h
        cases h
        cases hs
      | ok fields =>
        simp only [hf] at h
        cases hm : missingFields fields with
        | nil =>
          simp only [hm] at h
          exact reentry_of_login h hs
        | cons field rest =>
          simp only [hm] at h
          cases h
          cases hs
    | audit =>
      cases h
      rw [listing] at hs
      split at hs <;> cases hs
    | health =>
      cases h
      cases hs
  | wrongMethod =>
    cases h
    cases hs
  | slashless path =>
    cases h
    cases hs
  | unknown =>
    cases h
    cases hs

theorem answer_cases (h : (exchange settings service request).answer = .ok answer) :
    ∃ interception middle,
      intercept settings request (service.sessionOf settings request)
        (service.opened settings request) = .ok interception middle ∧
      (exchange settings service request).found =
        middle.store.state (service.sessionOf settings request) ∧
      (interception.decision?.bind Answer.ofDecision? = some answer ∨
        ∃ after, serve settings request (service.sessionOf settings request) middle =
          .ok answer after) := by
  obtain ⟨issued, newSession, hopen⟩ := openSession_run settings service request
  have ho : service.opened settings request = { service with issued } := by rw [opened, hopen]; rfl
  obtain ⟨⟨answer, cookie⟩, hresult, rfl⟩ := map_eq_ok.mp h
  have hhandle : ∃ after, handle settings request service = .ok (answer, cookie) after := by
    cases hr : handle settings request service with
    | error failure after =>
      rw [hr] at hresult
      cases hresult
    | ok found after =>
      rw [hr] at hresult
      cases hresult
      exact ⟨after, rfl⟩
  obtain ⟨after, hhandle⟩ := hhandle
  rw [handle, run_bind hopen] at hhandle
  obtain ⟨_, _, hrespond, hreturn⟩ := exists_of_run_bind hhandle
  cases hreturn
  obtain ⟨interception, middle, hintercept, hend⟩ := exists_of_run_bind hrespond
  rw [← ho] at hintercept
  refine ⟨interception, middle, hintercept, ?_, ?_⟩
  · simp only [exchange, hintercept, stateOf]
  · cases hd : interception.decision?.bind Answer.ofDecision? with
    | some answer =>
      simp only [hd] at hend
      cases hend
      exact .inl rfl
    | none =>
      simp only [hd] at hend
      exact .inr ⟨after, hend⟩

end

-- ---------------------------------------------------------------------------
-- Runs
-- ---------------------------------------------------------------------------

section
variable {settings : Settings} {first service : Service} {earlier later history : List Exchange}
  {e : Exchange} {answer : Answer}

theorem GrowingRun.hasParameters (h : GrowingRun settings first history service)
    (hf : first.store.sessions = first.store.sessions.emptied) :
    service.store.Every HasParameters := by
  induction h with
  | start =>
    intro sid
    have hempty : first.store.state sid = {} := by
      rw [Store.state, hf]
      cases first.store.sessions <;> rfl
    rw [hempty]
    exact steady_hasParameters.idle rfl rfl
  | clock _ _ ih => exact ih
  | tables _ _ _ ih => exact ih
  | @request history service h request ih =>
    have hcouples : Couples (Paired (Store.Same HasParameters) service.database.clients)
        (handle settings request) fun _ => True :=
      couples_handle coupling_hasParameters steady_hasParameters
        (Interceptor.starts_hasParameters _) settings request
    exact (stands_iff.mp (stateOf_of_couples hcouples (stands_iff.mpr ⟨ih, rfl⟩))).1

/-- The way back to the authorize path with the parameters of the session. -/
def Exchange.LeadsBackTo (settings : Settings) (e : Exchange) (target : String) : Prop :=
  ∃ parameters, e.found.parameters = some parameters ∧
    target = settings.authorizePath ++ "?" ++ String.ofList (Uri.Form.encode parameters.entries)

/-- The address that the request names, which is absolute and registered for its client, with the
error and the state of the request behind its query. -/
def Exchange.DeniesAt (settings : Settings) (e : Exchange) (target : String) : Prop :=
  ∃ parameters request address row addresses asked parts,
    e.Sends settings parameters ∧ Request.ofParameters parameters = .ok request ∧
    request.redirectUri = some address ∧
    e.before.database.clients.row? request.clientId = some row ∧
    row.Registers addresses ∧ address ∈ addresses ∧
    Uri.split address.toList = .ok asked ∧ asked.isAbsolute = true ∧
    Uri.split target.toList = .ok parts ∧
    Client.Redirect.Extends asked parts
      (("error", "login_required") :: ((Request.nonEmpty request.state).map ("state", ·)).toList)

theorem Exchange.leadsBackTo_of_reentry {pending : Request.Record}
    (hp : e.found.HasParameters) (hpending : e.found.pending = some pending) :
    e.LeadsBackTo settings
      (Http.Reply.reentryAddress settings (reentryParameters e.found.parameters pending)) := by
  obtain ⟨parameters, hparameters, hentries⟩ := hp (by simp [hpending])
  refine ⟨parameters, hparameters, ?_⟩
  rw [hparameters, reentryParameters_of_ne_nil hentries]
  rfl

theorem Exchange.deniesAt_of_grounds {interception : Interception}
    (hg : HasGrounds settings e.before.database.clients e.request interception)
    (hrows : ∀ row ∈ e.before.database.clients, ∃ addresses, row.Registers addresses)
    (hd : interception.decision?.bind Answer.ofDecision? = some answer)
    (hs : answer.status = 302) :
    ∃ target, answer = .clientRedirect target ∧ e.DeniesAt settings target := by
  obtain ⟨path, sent, hpath, hsent, hg⟩ := hg
  obtain ⟨decision, hdecision, ha⟩ := Option.bind_eq_some_iff.mp hd
  have hdenial : decision.isDenial = true := by
    cases decision with
    | proceed => cases ha
    | reauthenticate reason => cases ha
    | redirect uri => rfl
    | refuse status message => rfl
  rcases hg decision hdecision hdenial with rfl | ⟨request, client, hc, hread, rfl⟩
  · cases ha
    cases hs
  · obtain ⟨hrequest, hlookup⟩ := Interceptor.readRequest_eq_ok.mp hread
    obtain ⟨row, hrow, hclient⟩ := Client.Registry.lookup_eq_some.mp hlookup
    obtain ⟨addresses, hregisters⟩ := hrows row (List.mem_of_find?_eq_some hrow)
    rcases Decision.denial_cases request client with
      hforbidden | ⟨address, asked, target, parts, hn, hm, hasked, habs, hdeny, hparts, hext⟩
    · rw [hforbidden] at ha
      cases ha
      cases hs
    · rw [hdeny] at ha
      cases ha
      exact ⟨target, rfl, _, request, address, row, addresses, asked, parts,
        ⟨path, sent, hpath, hc, hsent hc, rfl⟩, hrequest, (Option.filter_eq_some_iff.mp hn).1, hrow,
        hregisters, hregisters.mem hclient hm, hasked, habs, hparts, hext⟩

/-- An answer with status 302 sends the browser back to the authorize path with the parameters of
its session, or to an address that its client has registered. -/
theorem redirect_targets (hf : first.store.sessions = first.store.sessions.emptied)
    (h : GrowingRun settings first (earlier ++ e :: later) service)
    (hrows : ∀ row ∈ e.before.database.clients, ∃ addresses, row.Registers addresses)
    (ha : e.answer = .ok answer) (hs : answer.status = 302) :
    ∃ target, Http.Reply.target? settings answer = some target ∧
      (e.LeadsBackTo settings target ∨ e.DeniesAt settings target) := by
  obtain ⟨hrun, he⟩ := h.before
  have hopened : Stands e.before.database.clients (e.before.opened settings e.request) := by
    obtain ⟨issued, newSession, hopen⟩ := openSession_run settings e.before e.request
    rw [opened, hopen]
    exact stands_iff.mpr ⟨hrun.hasParameters hf, rfl⟩
  rw [he] at ha
  obtain ⟨interception, middle, hintercept, hfound, hanswer⟩ := answer_cases ha
  rw [← he] at hfound
  obtain ⟨hmiddle, hgrounds⟩ := (couples_intercept (pairing_paired _ _)
    (coupling_hasParameters.session _) steady_hasParameters (Interceptor.starts_hasParameters _)
    settings e.request).of_ok hopened hintercept
  rcases hanswer with hd | ⟨after, hserve⟩
  · obtain ⟨target, rfl, hdenies⟩ := Exchange.deniesAt_of_grounds hgrounds hrows hd hs
    exact ⟨target, rfl, .inr hdenies⟩
  · obtain ⟨pending, hpending, rfl⟩ := reentry_of_serve hmiddle hserve hs
    rw [← hfound] at hpending
    refine ⟨_, rfl, .inl ?_⟩
    rw [← hfound]
    exact Exchange.leadsBackTo_of_reentry (hfound ▸ (stands_iff.mp hmiddle).1 _) hpending

end

-- A client with an address, asked without a login page, on a store whose later calls fail.
def partner : Service :=
  { demo with
    store := { sessions := .memory ∅, faults := { loadFails := fun n => decide (40 ≤ n) } }
    database := { clients := [.ofAddresses "rp" ["HTTPS://rp/cb?x=1#top"] none] } }

def deniedExchange : Exchange :=
  exchange {} partner
    (ask "client_id=rp&prompt=none&state=s&redirect_uri=HTTPS%3A%2F%2Frp%2Fcb%3Fx%3D1%23top")

theorem deniedExchange_deniesAt :
    deniedExchange.answer =
        .ok (.clientRedirect "https://rp/cb?x=1&error=login_required&state=s#top") ∧
      deniedExchange.DeniesAt {} "https://rp/cb?x=1&error=login_required&state=s#top" := by
  have hrun : GrowingRun {} partner ([] ++ deniedExchange :: []) deniedExchange.after :=
    .request .start _
  have hrows : ∀ row ∈ deniedExchange.before.database.clients,
      ∃ addresses, row.Registers addresses := by
    intro row hrow
    obtain rfl : row = .ofAddresses "rp" ["HTTPS://rp/cb?x=1#top"] none :=
      List.mem_singleton.mp hrow
    exact ⟨["HTTPS://rp/cb?x=1#top"], eq_ok_of_toOption (by decide +kernel)⟩
  have ha : deniedExchange.answer =
      .ok (.clientRedirect "https://rp/cb?x=1&error=login_required&state=s#top") :=
    eq_ok_of_toOption (by decide +kernel)
  obtain ⟨target, htarget, hcases⟩ := redirect_targets rfl hrun hrows ha rfl
  obtain rfl := Option.some.inj htarget
  refine ⟨ha, hcases.resolve_left ?_⟩
  rintro ⟨parameters, hparameters, -⟩
  have hnone : deniedExchange.found.parameters = none := by decide +kernel
  cases hnone.symm.trans hparameters

end Service

end SignOn
