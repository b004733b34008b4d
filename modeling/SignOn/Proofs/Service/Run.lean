import SignOn.Proofs.Service.ExchangeLaws

/-!
# Runs of the service

A run is a list of exchanges, between which the clock may be set to any time (`Run`). What is true
of new sessions and kept by every exchange of a session is true of the session after every run
(`Run.session_inv`). The steps of such an induction are in `Lawful.passes_or_takesUp`, which says
what an exchange makes of the pending request, and in `Lawful.left_cases`, which says how it ends.
-/

namespace SignOn.Service

open Session (State)

-- ---------------------------------------------------------------------------
-- Runs
-- ---------------------------------------------------------------------------

/-- A service without faults whose sessions are all new. -/
structure IsFresh (service : Service) : Prop where
  faultless : service.store.faults = .none
  empty : service.store.sessions = service.store.sessions.emptied

inductive Run (settings : Settings) (first : Service) : List Exchange → Service → Prop
  | start : Run settings first [] first
  | clock (h : Run settings first history service) (now : Instant) :
    Run settings first history { service with now }
  | request (h : Run settings first history service) (request : Http.Request) :
    Run settings first (history ++ [exchange settings service request])
      (exchange settings service request).after

def ofSession (sid : Session.Id) (history : List Exchange) : List Exchange :=
  history.filter (·.sid == sid)

theorem ofSession_append (sid : Session.Id) (history later : List Exchange) :
    ofSession sid (history ++ later) = ofSession sid history ++ ofSession sid later :=
  List.filter_append ..

theorem ofSession_cons_of_eq {e : Exchange} (h : e.sid = sid) (history : List Exchange) :
    ofSession sid (e :: history) = e :: ofSession sid history := by
  simp [ofSession, h]

theorem ofSession_cons_of_ne {e : Exchange} (h : e.sid ≠ sid) (history : List Exchange) :
    ofSession sid (e :: history) = ofSession sid history := by
  simp [ofSession, h]

section
variable {settings : Settings} {first service : Service} {history earlier later : List Exchange}
  {e : Exchange}

theorem IsFresh.healthy (h : first.IsFresh) : first.store.Healthy := by
  refine ⟨h.faultless, ?_⟩
  rw [h.empty]
  cases first.store.sessions with
  | memory states => trivial
  | table rows => simp [Session.Sessions.emptied, Session.Sessions.Sound]

theorem IsFresh.state_eq (h : first.IsFresh) (sid : Session.Id) : first.store.state sid = {} := by
  rw [Session.Store.state, h.empty]
  cases first.store.sessions <;> rfl

theorem Run.healthy (h : Run settings first history service) (hf : first.IsFresh) :
    service.store.Healthy := by
  induction h with
  | start => exact hf.healthy
  | clock _ _ ih => exact ih
  | request _ request ih =>
    obtain ⟨_, _, hm⟩ := (exchange_lawful ih settings request).answered
    exact hm.healthy

theorem Run.tables (h : Run settings first history service) (hf : first.IsFresh) :
    service.database.clients = first.database.clients ∧
      service.store.takes = first.store.takes := by
  induction h with
  | start => exact ⟨rfl, rfl⟩
  | clock _ _ ih => exact ih
  | request h request ih =>
    obtain ⟨_, _, hm⟩ := (exchange_lawful (h.healthy hf) settings request).answered
    exact ⟨hm.clients.trans ih.1, hm.store.takes_eq.trans ih.2⟩

/-- Every exchange of a run is one on a service that an earlier part of the run reached. -/
theorem Run.before (h : Run settings first (earlier ++ e :: later) service) :
    Run settings first earlier e.before ∧ e = exchange settings e.before e.request := by
  generalize hh : earlier ++ e :: later = history at h
  induction h generalizing later with
  | start => simp at hh
  | clock _ _ ih => exact ih hh
  | request h request ih =>
    rcases List.eq_nil_or_concat later with rfl | ⟨later, last, rfl⟩
    · obtain ⟨rfl, he⟩ := List.append_inj' hh rfl
      cases he
      exact ⟨h, rfl⟩
    · rw [List.concat_eq_append, ← List.cons_append, ← List.append_assoc] at hh
      exact ih (List.append_inj' hh rfl).1

theorem Run.lawful (h : Run settings first (earlier ++ e :: later) service) (hf : first.IsFresh) :
    e.Lawful settings := by
  obtain ⟨hrun, he⟩ := h.before
  rw [he]
  exact exchange_lawful (hrun.healthy hf) settings e.request

theorem Run.state_of_others (h : Run settings first (earlier ++ e :: later) service)
    (hf : first.IsFresh) (ho : ∀ other ∈ later, other.sid ≠ e.sid) :
    service.store.state e.sid = e.left := by
  generalize hh : earlier ++ e :: later = history at h
  induction h generalizing later with
  | start => simp at hh
  | clock _ _ ih => exact ih ho hh
  | @request _ service h request ih =>
    rcases List.eq_nil_or_concat later with rfl | ⟨later, last, rfl⟩
    · obtain ⟨rfl, he⟩ := List.append_inj' hh rfl
      cases he
      rfl
    · rw [List.concat_eq_append, ← List.cons_append, ← List.append_assoc] at hh
      obtain ⟨hearlier, hlast⟩ := List.append_inj' hh rfl
      cases hlast
      obtain ⟨_, _, hm⟩ := (exchange_lawful (h.healthy hf) settings request).answered
      have hne := ho (exchange settings service request) (by simp)
      rw [hm.store.frame e.sid (Ne.symm hne)]
      exact ih (fun other hother => ho other (by simp [hother])) hearlier

theorem Run.session_inv {motive : List Exchange → State → Prop} (hf : first.IsFresh)
    (hstart : motive [] {})
    (hstep : ∀ own e history, Run settings first history e.before → e.Lawful settings →
      motive own e.entered → motive (own ++ [e]) e.left)
    (h : Run settings first history service) (sid : Session.Id) :
    motive (ofSession sid history) (service.store.state sid) := by
  induction h with
  | start =>
    rw [hf.state_eq]
    exact hstart
  | clock _ _ ih => exact ih
  | @request history service h request ih =>
    have hl := exchange_lawful (h.healthy hf) settings request
    rw [ofSession_append]
    by_cases hsid : (exchange settings service request).sid = sid
    · subst hsid
      have hown : ofSession (exchange settings service request).sid
          [exchange settings service request] = [exchange settings service request] := by
        simp [ofSession]
      rw [hown]
      exact hstep _ _ history h hl ih
    · obtain ⟨_, _, hm⟩ := hl.answered
      have hother : ofSession sid [exchange settings service request] = [] := by
        simp [ofSession, hsid]
      rw [hother, List.append_nil, hm.store.frame sid (Ne.symm hsid)]
      exact ih

end

-- ---------------------------------------------------------------------------
-- Replays
-- ---------------------------------------------------------------------------

inductive Step where
  | request (request : Http.Request)
  | clock (now : Instant)

def perform (settings : Settings) (run : List Exchange × Service) :
    Step → List Exchange × Service
  | .request request =>
    let e := exchange settings run.2 request
    (run.1 ++ [e], e.after)
  | .clock now => (run.1, { run.2 with now })

def replay (settings : Settings) (first : Service) (steps : List Step) : List Exchange × Service :=
  steps.foldl (perform settings) ([], first)

theorem Run.perform {run : List Exchange × Service} (h : Run settings first run.1 run.2)
    (step : Step) :
    Run settings first (perform settings run step).1 (perform settings run step).2 := by
  cases step with
  | request request => exact .request h request
  | clock now => exact .clock h now

theorem run_replay (settings : Settings) (first : Service) (steps : List Step) :
    Run settings first (replay settings first steps).1 (replay settings first steps).2 := by
  have hfold : ∀ run : List Exchange × Service, Run settings first run.1 run.2 →
      Run settings first (steps.foldl (Service.perform settings) run).1
        (steps.foldl (Service.perform settings) run).2 := by
    induction steps with
    | nil => exact fun _ h => h
    | cons step rest ih => exact fun _ h => ih _ (h.perform step)
  exact hfold ([], first) .start

def demo : Service where
  now := ⟨0⟩
  store := { sessions := .memory ∅ }
  database :=
    { users := [⟨"ada", "=pw"⟩]
      clients := [.ofAddresses "web" [] none, .ofAddresses "app" [] none] }
  hasher := .plain
  supply := toString

theorem demo_isFresh : demo.IsFresh := ⟨rfl, rfl⟩

def ask (query : String) (method : String := "GET") : Http.Request :=
  { method, query, origin := "http://idp", path := "/profile/oidc/authorize"
    cookieHeader := some "idp_session=s" }

def logIn : Http.Request :=
  { method := "POST", origin := "http://idp", path := "/profile/oidc/login"
    cookieHeader := some "idp_session=s"
    contentType := some Http.formType
    body := Text.Utf8.encodeString "username=ada&password=pw" }

def demoHandoff (clientId : String) (authTime : Int) (forced : Bool) : Handoff :=
  { clientId := .text clientId, subject := some "ada", authTime := some authTime
    redirectUri := .null, state := .null, scope := "", nonce := .null, acrValues := [], forced
    passive := false }

end SignOn.Service
