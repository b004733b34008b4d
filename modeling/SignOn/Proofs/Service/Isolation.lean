import SignOn.Http.Reply
import SignOn.Proofs.Service.Coupling
import SignOn.Proofs.Service.Run

/-!
# Sessions apart from each other

Two services that agree at a session answer its requests alike (`AgreeAt.own`), and a request of
another session to one of them leaves them in agreement (`AgreeAt.other`). So a session sees the
same in a run of all requests as in the run of its own requests at the same times
(`sessions_isolated`). Only a listing of the log shows what others did.
-/

namespace SignOn

namespace Session

-- ---------------------------------------------------------------------------
-- Stores that agree at a session
-- ---------------------------------------------------------------------------

/-- Two healthy stores that take the same states, and in which one session has the same state. -/
structure Store.AgreeAt (sid : Id) (first second : Store) : Prop where
  first_healthy : first.Healthy
  second_healthy : second.Healthy
  state_eq : second.state sid = first.state sid
  takes_eq : second.takes = first.takes

variable {sid : Id} {state : State} {first second first' second' : Store}

theorem Store.AgreeAt.updated (h : Store.AgreeAt sid first second)
    (hf : first.Updated first' sid state) (hs : second.Updated second' sid state) :
    Store.AgreeAt sid first' second' :=
  ⟨hf.healthy, hs.healthy, hs.state_eq.trans hf.state_eq.symm,
    hs.takes_eq.trans (h.takes_eq.trans hf.takes_eq.symm)⟩

theorem couplingAt_agreeAt (sid : Id) : CouplingAt sid (Store.AgreeAt sid) fun _ => True where
  load := by
    intro first second h
    refine ⟨.ok (first.state sid), first, second, load_run h.first_healthy, ?_, h,
      fun _ _ => trivial⟩
    rw [← h.state_eq]
    exact load_run h.second_healthy
  update := by
    intro change _ first second h
    have hsame : second.takes (change (second.state sid)) =
        first.takes (change (first.state sid)) := by
      rw [h.takes_eq, h.state_eq]
    cases ht : first.takes (change (first.state sid)) with
    | false =>
      exact ⟨.error (.document .unordered), first, second,
        update_refused h.first_healthy change ht,
        update_refused h.second_healthy change (hsame.trans ht), h, fun _ _ => trivial⟩
    | true =>
      obtain ⟨first', hf, uf⟩ := update_run h.first_healthy change ht
      obtain ⟨second', hs, us⟩ := update_run h.second_healthy change (hsame.trans ht)
      rw [h.state_eq] at us
      exact ⟨.ok (), first', second', hf, hs, h.updated uf us, fun _ _ => trivial⟩

theorem State.steady_true : Steady fun _ => True :=
  ⟨fun _ _ _ _ => trivial, fun _ _ => trivial⟩

end Session

namespace Service

open Session (State Store)

-- ---------------------------------------------------------------------------
-- What a session sees
-- ---------------------------------------------------------------------------

def cookieSession? (settings : Settings) (request : Http.Request) : Option Session.Id :=
  Request.nonEmpty (request.cookie? settings.cookieName)

/-- A request that names its session and does not ask for a listing of the log. -/
def IsOfSession (settings : Settings) (request : Http.Request) : Prop :=
  cookieSession? settings request ≠ none ∧
    route settings request.method request.path ≠ .endpoint .audit

/-- Whether a step of a run is one of a session. The clock is everybody's. -/
def Step.belongsTo (settings : Settings) (sid : Session.Id) : Step → Bool
  | request r => cookieSession? settings r == some sid
  | clock _ => true

/-- An exchange as its session sees it: when it was, what was asked and answered, and what the
session is left with. -/
structure View where
  time : Instant
  request : Http.Request
  reply : Except Failure Http.Reply
  left : State

def Exchange.view (settings : Settings) (e : Exchange) : View :=
  { time := e.before.now
    request := e.request
    reply := (resultOf (handle settings e.request e.before)).map fun (answer, newSession) =>
      .ofAnswer settings answer newSession
    left := e.left }

-- ---------------------------------------------------------------------------
-- Services that agree at a session
-- ---------------------------------------------------------------------------

/-- Two services of one clock and one hasher and with the same users and clients, whose stores agree
at a session. -/
structure AgreeAt (sid : Session.Id) (registry : Client.Registry) (first second : Service) :
    Prop where
  stores : Store.AgreeAt sid first.store second.store
  now : second.now = first.now
  hasher : second.hasher = first.hasher
  users : second.database.users = first.database.users
  clients : first.database.clients = registry ∧ second.database.clients = registry

section
variable {settings : Settings} {request : Http.Request} {sid : Session.Id}
  {registry : Client.Registry} {service first second : Service}

theorem AgreeAt.refl (h : service.store.Healthy) (sid : Session.Id) :
    AgreeAt sid service.database.clients service service :=
  ⟨⟨h, h, rfl, rfl⟩, rfl, rfl, rfl, rfl, rfl⟩

theorem pairing_agreeAt (sid : Session.Id) (registry : Client.Registry) :
    Pairing (Store.AgreeAt sid) registry (AgreeAt sid registry) where
  stores h := h.stores
  now h := h.now
  hasher h := h.hasher
  users h := h.users
  clients h := h.clients
  store h hr := ⟨hr, h.now, h.hasher, h.users, h.clients⟩
  log h _ := ⟨h.stores, h.now, h.hasher, h.users, h.clients⟩

theorem sessionOf_cookie (h : cookieSession? settings request = some sid) (service : Service) :
    service.sessionOf settings request = sid := by
  rw [cookieSession?] at h
  rw [sessionOf, h, Option.getD_some]

theorem handle_of_respond {after : Service} (h : cookieSession? settings request = some sid)
    (hr : respond settings request sid service = ending result after) :
    handle settings request service = ending (result.map (·, none)) after := by
  have hopen : openSession (request.cookie? settings.cookieName) service =
      .ok (sid, none) service := by
    rw [cookieSession?] at h
    rw [openSession, h]
    rfl
  rw [handle, run_bind hopen]
  cases result with
  | error cause => exact run_bind_error hr
  | ok answer => exact run_bind hr

theorem AgreeAt.own (h : AgreeAt sid registry first second)
    (hc : cookieSession? settings request = some sid)
    (ha : route settings request.method request.path ≠ .endpoint .audit) :
    (exchange settings first request).view settings =
        (exchange settings second request).view settings ∧
      AgreeAt sid registry (exchange settings first request).after
        (exchange settings second request).after := by
  have hcouples : Couples (AgreeAt sid registry) (respond settings request sid) fun _ => True :=
    couples_respond (pairing_agreeAt sid registry) (Session.couplingAt_agreeAt sid)
      State.steady_true (fun _ _ _ _ _ => trivial) fun hr => absurd hr ha
  obtain ⟨result, first', second', hf, hs, h', -⟩ := hcouples first second h
  have hfirst := handle_of_respond hc hf
  have hsecond := handle_of_respond hc hs
  simp only [Exchange.view, Exchange.left, exchange, sessionOf_cookie hc, hfirst, hsecond,
    resultOf_ending, stateOf_ending]
  exact ⟨by rw [h.now, h'.stores.state_eq], h'⟩

theorem AgreeAt.other (h : AgreeAt sid registry first second) (settings : Settings)
    (ho : first.sessionOf settings request ≠ sid) :
    AgreeAt sid registry (exchange settings first request).after second := by
  obtain ⟨_, -, hm⟩ := (exchange_lawful h.stores.first_healthy settings request).answered
  refine ⟨⟨hm.healthy, h.stores.second_healthy, ?_, ?_⟩, h.now.trans hm.now.symm,
    h.hasher.trans hm.hasher.symm, h.users.trans hm.users.symm, hm.clients.trans h.clients.1, h.clients.2⟩
  · rw [hm.store.frame sid (Ne.symm ho)]
    exact h.stores.state_eq
  · exact h.stores.takes_eq.trans hm.store.takes_eq.symm

end

-- ---------------------------------------------------------------------------
-- Runs
-- ---------------------------------------------------------------------------

section
variable {settings : Settings} {sid : Session.Id} {registry : Client.Registry}
  {first second : Service}

theorem replay_from (settings : Settings) (steps : List Step) (history : List Exchange)
    (service : Service) :
    steps.foldl (perform settings) (history, service) =
      (history ++ (replay settings service steps).1, (replay settings service steps).2) := by
  induction steps generalizing history service with
  | nil => simp [replay]
  | cons step rest ih =>
    rw [replay, List.foldl_cons, List.foldl_cons]
    cases step with
    | clock now => rw [perform, perform, ih, ih, List.nil_append]
    | request request => rw [perform, perform, ih, ih, List.nil_append, List.append_assoc]

theorem replay_request (settings : Settings) (service : Service) (request : Http.Request)
    (rest : List Step) :
    (replay settings service (.request request :: rest)).1 =
      exchange settings service request ::
        (replay settings (exchange settings service request).after rest).1 := by
  rw [replay, List.foldl_cons, perform, replay_from]
  rfl

theorem AgreeAt.replays (h : AgreeAt sid registry first second) {steps : List Step}
    (hsteps : ∀ request, .request request ∈ steps → IsOfSession settings request) :
    (ofSession sid (replay settings first steps).1).map (·.view settings) =
      (replay settings second (steps.filter (Step.belongsTo settings sid))).1.map
        (·.view settings) := by
  induction steps generalizing first second with
  | nil => rfl
  | cons step rest ih =>
    have hrest : ∀ request, .request request ∈ rest → IsOfSession settings request :=
      fun request hr => hsteps request (List.mem_cons_of_mem _ hr)
    cases step with
    | clock now =>
      have hbelongs : Step.belongsTo settings sid (.clock now) = true := rfl
      rw [List.filter_cons_of_pos hbelongs]
      exact ih ⟨h.stores, rfl, h.hasher, h.users, h.clients⟩ hrest
    | request request =>
      obtain ⟨hc, ha⟩ := hsteps request (List.mem_cons_self ..)
      obtain ⟨own, hown⟩ := Option.ne_none_iff_exists'.mp hc
      rw [replay_request]
      have howner : (exchange settings first request).sid = own := sessionOf_cookie hown first
      by_cases hsid : own = sid
      · subst hsid
        obtain ⟨hview, hafter⟩ := h.own hown ha
        have hbelongs : Step.belongsTo settings own (.request request) = true := by
          simp [Step.belongsTo, hown]
        rw [List.filter_cons_of_pos hbelongs, replay_request, ofSession_cons_of_eq howner,
          List.map_cons, List.map_cons, hview]
        exact congrArg _ (ih hafter hrest)
      · have hother : (exchange settings first request).sid ≠ sid := by rwa [howner]
        have hforeign : ¬ Step.belongsTo settings sid (.request request) = true := by
          simp [Step.belongsTo, hown, hsid]
        rw [List.filter_cons_of_neg hforeign, ofSession_cons_of_ne hother]
        exact ih (h.other settings hother) hrest

end

/-- A session sees the same whether the requests of other sessions are there or not. -/
theorem sessions_isolated {first : Service} (h : first.store.Healthy) (settings : Settings)
    (sid : Session.Id) (steps : List Step)
    (hsteps : ∀ request, .request request ∈ steps → IsOfSession settings request) :
    (ofSession sid (replay settings first steps).1).map (·.view settings) =
      (replay settings first (steps.filter (Step.belongsTo settings sid))).1.map
        (·.view settings) :=
  (AgreeAt.refl h sid).replays hsteps

/-- Two sessions in turn, with the login of one between the questions of the other. -/
def demoTurns : List Step :=
  [.request (ask "client_id=web"), .clock ⟨1⟩,
    .request { ask "client_id=app" with cookieHeader := some "idp_session=t" },
    .request logIn, .clock ⟨2⟩,
    .request { logIn with cookieHeader := some "idp_session=t" }]

theorem demoTurns_isolated :
    (replay {} demo demoTurns).1.map (·.sid) = ["s", "t", "s", "t"] ∧
      (ofSession "s" (replay {} demo demoTurns).1).map (·.view {}) =
        (replay {} demo (demoTurns.filter (Step.belongsTo {} "s"))).1.map (·.view {}) := by
  refine ⟨rfl, sessions_isolated demo_isFresh.healthy {} "s" demoTurns ?_⟩
  simp only [demoTurns, List.mem_cons, List.not_mem_nil, or_false, Step.request.injEq,
    reduceCtorEq, false_or]
  rintro request (rfl | rfl | rfl | rfl) <;> exact ⟨by decide +kernel, by decide +kernel⟩

end Service

end SignOn
