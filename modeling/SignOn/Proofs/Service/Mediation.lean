import SignOn.Proofs.Service.LeftPending

/-!
# What a session keeps of its pending request

The request, its parameters, its client and the login hint are written one after the other, and
still they belong together whenever a request is pending (`Mediated`): the parameters were sent by
an exchange of the session, and request, client and hint are what they say. So nothing is handed
off but what a request of the session asked for (`pending_mediated`). The tables may grow between
two requests, as long as no row of the registry is changed.
-/

namespace SignOn

theorem Client.Registry.lookup_of_prefix {registry larger : Client.Registry} {clientId : String}
    (hr : registry <+: larger) (h : registry.lookup clientId = .ok (some client)) :
    larger.lookup clientId = .ok (some client) := by
  obtain ⟨rows, rfl⟩ := hr
  obtain ⟨row, hrow, hc⟩ := lookup_eq_some.mp h
  refine lookup_eq_some.mpr ⟨row, ?_, hc⟩
  rw [row?] at hrow ⊢
  rw [List.find?_append, hrow, Option.some_or]

theorem Interceptor.readRequest_of_prefix {registry larger : Client.Registry}
    {parameters : Assoc String} (hr : registry <+: larger)
    (h : readRequest registry parameters = .ok (request, client)) :
    readRequest larger parameters = .ok (request, client) := by
  rw [readRequest_eq_ok] at h ⊢
  exact ⟨h.1, Client.Registry.lookup_of_prefix hr h.2⟩

namespace Service

open Session (State)

-- ---------------------------------------------------------------------------
-- Runs with growing tables
-- ---------------------------------------------------------------------------

/-- A run between whose requests the clock and the tables may change. Rows of the registry are
added at its end and stay as they are. -/
inductive GrowingRun (settings : Settings) (first : Service) : List Exchange → Service → Prop
  | start : GrowingRun settings first [] first
  | clock (h : GrowingRun settings first history service) (now : Instant) :
    GrowingRun settings first history { service with now }
  | tables (h : GrowingRun settings first history service) (database : Database)
      (hc : service.database.clients <+: database.clients) :
    GrowingRun settings first history { service with database }
  | request (h : GrowingRun settings first history service) (request : Http.Request) :
    GrowingRun settings first (history ++ [exchange settings service request])
      (exchange settings service request).after

/-- An exchange whose request goes under the authorize path with these parameters, the first value
of each name. -/
def Exchange.Sends (settings : Settings) (e : Exchange) (parameters : Assoc String) : Prop :=
  ∃ path sent, e.request.addressPath = .ok path ∧
    Interceptor.covers settings.authorizePath path = true ∧
    e.request.parameters = .ok sent ∧ Request.singleValues sent.entries = parameters

/-- A session keeps a request that one of its exchanges sent, and the hint of the request. -/
structure Mediated (settings : Settings) (registry : Client.Registry) (own : List Exchange)
    (state : State) (parameters : Assoc String) (request : Request) (client : Client) : Prop
    extends KeepsRequest registry state parameters request client where
  sent : ∃ x ∈ own, x.Sends settings parameters
  loginHint_eq : state.loginHint = request.loginHint

def Mediates (settings : Settings) (registry : Client.Registry) (own : List Exchange)
    (state : State) : Prop :=
  state.pending ≠ none →
    ∃ parameters request client, Mediated settings registry own state parameters request client

variable {settings : Settings} {first service : Service} {own history earlier later : List Exchange}
  {e : Exchange} {state : State} {registry larger : Client.Registry} {parameters : Assoc String}
  {request : Request} {client : Client}

theorem GrowingRun.of_run (h : Run settings first history service) :
    GrowingRun settings first history service := by
  induction h with
  | start => exact .start
  | clock _ now ih => exact .clock ih now
  | request _ request ih => exact .request ih request

theorem GrowingRun.healthy (h : GrowingRun settings first history service) (hf : first.IsFresh) :
    service.store.Healthy := by
  induction h with
  | start => exact hf.healthy
  | clock _ _ ih => exact ih
  | tables _ _ _ ih => exact ih
  | request _ request ih =>
    obtain ⟨_, _, hm⟩ := (exchange_lawful ih settings request).answered
    exact hm.healthy

theorem GrowingRun.before (h : GrowingRun settings first (earlier ++ e :: later) service) :
    GrowingRun settings first earlier e.before ∧ e = exchange settings e.before e.request := by
  generalize hh : earlier ++ e :: later = history at h
  induction h generalizing later with
  | start => simp at hh
  | clock _ _ ih => exact ih hh
  | tables _ _ _ ih => exact ih hh
  | request h request ih =>
    rcases List.eq_nil_or_concat later with rfl | ⟨later, last, rfl⟩
    · obtain ⟨rfl, he⟩ := List.append_inj' hh rfl
      cases he
      exact ⟨h, rfl⟩
    · rw [List.concat_eq_append, ← List.cons_append, ← List.append_assoc] at hh
      exact ih (List.append_inj' hh rfl).1

-- ---------------------------------------------------------------------------
-- The interception
-- ---------------------------------------------------------------------------

theorem Exchange.Lawful.passes_or_sends (h : e.Lawful settings) :
    e.Passes ∨ ∃ parameters request client, e.TakesUp settings request client parameters ∧
      e.Sends settings parameters := by
  rcases h.passes_or_takesUp with hpass | ⟨request, client, parameters, ht⟩
  · exact .inl hpass
  · have hi := h.intercepted
    have hd := ht.decided
    generalize hinterception : e.interception = interception at hi hd
    generalize hfound : e.found = found at hi
    cases hi with
    | unreadAddress => cases hd
    | unreadParameters => cases hd
    | @read path sent _ _ hpath hsent ho =>
      cases ho with
      | decided hc hp hr =>
        exact .inr ⟨_, _, _, ⟨hp, hr, hinterception, hfound⟩, path, sent, hpath, hc, hsent hc, rfl⟩
      | _ => cases hd

theorem Exchange.TakesUp.loginHint_eq (h : e.TakesUp settings request client parameters)
    (hd : ((e.before.interceptor settings).verdict e.entered request client).isDenial = false) :
    e.found.loginHint = request.loginHint := by
  obtain ⟨subject, hf⟩ := h.found_of_through hd
  rw [hf]
  rfl

theorem Mediates.mono (h : Mediates settings registry own state) (hr : registry <+: larger)
    (later : List Exchange) : Mediates settings larger (own ++ later) state := by
  intro hp
  obtain ⟨parameters, request, client, hm⟩ := h hp
  obtain ⟨x, hx, hs⟩ := hm.sent
  refine ⟨parameters, request, client,
    ⟨hm.pending_eq, hm.parameters_eq, hm.client_eq, ?_⟩, ?_, hm.loginHint_eq⟩
  · exact Interceptor.readRequest_of_prefix hr hm.read
  · exact ⟨x, List.mem_append_left _ hx, hs⟩

theorem Mediates.found (h : Mediates settings e.before.database.clients own e.entered)
    (hl : e.Lawful settings) :
    Mediates settings e.before.database.clients (own ++ [e]) e.found := by
  rcases hl.passes_or_sends with hpass | ⟨parameters, request, client, ht, hs⟩
  · intro hp
    have hentered : e.entered.pending ≠ none := by
      rw [hpass.found_eq] at hp
      exact hp
    rw [hpass.kept hentered]
    exact h.mono (List.prefix_refl _) [e] hentered
  · intro hp
    have hd := ht.not_denied hp
    exact ⟨parameters, request, client, ht.keepsRequest hd, ⟨e, by simp, hs⟩, ht.loginHint_eq hd⟩

theorem Mediates.left (h : Mediates settings e.before.database.clients own e.entered)
    (hl : e.Lawful settings) :
    Mediates settings e.before.database.clients (own ++ [e]) e.left := by
  intro hp
  have hs := hl.stays_of_pending hp
  rw [hs.left_eq] at hp ⊢
  exact h.found hl hp

-- ---------------------------------------------------------------------------
-- Runs
-- ---------------------------------------------------------------------------

theorem GrowingRun.mediates (h : GrowingRun settings first history service) (hf : first.IsFresh)
    (sid : Session.Id) :
    Mediates settings service.database.clients (ofSession sid history)
      (service.store.state sid) := by
  induction h with
  | start =>
    intro hp
    rw [hf.state_eq] at hp
    exact absurd rfl hp
  | clock _ _ ih => exact ih
  | tables _ _ hc ih => simpa using ih.mono hc []
  | @request history service h request ih =>
    have hl := exchange_lawful (h.healthy hf) settings request
    obtain ⟨_, _, hm⟩ := hl.answered
    rw [ofSession_append, hm.clients]
    by_cases hsid : (exchange settings service request).sid = sid
    · subst hsid
      have hown : ofSession (exchange settings service request).sid
          [exchange settings service request] = [exchange settings service request] := by
        simp [ofSession]
      rw [hown]
      exact ih.left hl
    · rw [hm.store.frame sid (Ne.symm hsid)]
      exact ih.mono (List.prefix_refl _) _

theorem handoffAnswer_of_keeps (h : Request.ofParameters parameters = .ok request)
    (ha : handoffAnswer request.toRecord state = .ok (.handoff handoff)) :
    handoff.clientId = .text request.clientId ∧
      handoff.redirectUri = .ofOption .text request.redirectUri ∧
      handoff.state = .ofOption .text request.state ∧
      handoff.scope = Handoff.scopeLine request.scopes ∧
      handoff.nonce = .ofOption .text request.nonce ∧
      handoff.acrValues = request.acrValues.map .text := by
  rw [handoffAnswer, Handoff.ofRequest_eq h] at ha
  cases ha
  exact ⟨rfl, rfl, rfl, rfl, rfl, rfl⟩

/-- Whatever a run leaves pending in a session was sent by an exchange of the session, and the
session keeps the parameters as they came, the request and the hint that they make, and the client
that the registry has for it. What is handed off is such a request, pending at that moment. -/
theorem pending_mediated (hf : first.IsFresh) (h : GrowingRun settings first history service) :
    (∀ sid, Mediates settings service.database.clients (ofSession sid history)
      (service.store.state sid)) ∧
    ∀ earlier e later handoff, history = earlier ++ e :: later →
      e.answer = .ok (.handoff handoff) →
      ∃ parameters request client,
        Mediated settings e.before.database.clients (ofSession e.sid earlier ++ [e]) e.found
          parameters request client ∧
        handoff.clientId = .text request.clientId ∧
        handoff.redirectUri = .ofOption .text request.redirectUri ∧
        handoff.state = .ofOption .text request.state ∧
        handoff.scope = Handoff.scopeLine request.scopes ∧
        handoff.nonce = .ofOption .text request.nonce ∧
        handoff.acrValues = request.acrValues.map .text := by
  refine ⟨h.mediates hf, ?_⟩
  rintro earlier e later handoff rfl ha
  obtain ⟨hrun, he⟩ := h.before
  have hl : e.Lawful settings := by
    rw [he]
    exact exchange_lawful (hrun.healthy hf) settings e.request
  obtain ⟨pending, hc⟩ := hl.completes_of_handsOff ⟨handoff, ha⟩
  obtain ⟨parameters, request, client, hm⟩ :=
    (hrun.mediates hf e.sid).found hl (by simp [hc.pending_eq])
  obtain rfl : pending = request.toRecord := Option.some.inj (hc.pending_eq.symm.trans hm.pending_eq)
  have hread := (Interceptor.readRequest_eq_ok.mp hm.read).1
  exact ⟨parameters, request, client, hm,
    handoffAnswer_of_keeps hread (hc.answer_eq.symm.trans ha)⟩

-- A hand-off after a row was added to the registry.
def hintedQuery : String := "client_id=web&scope=b+a&state=x&login_hint=ada"

def hintedSteps : List Step := [.request (ask hintedQuery), .request logIn]

def enlarged : Service :=
  let service := (replay {} demo hintedSteps).2
  { service with database :=
      { service.database with clients := service.database.clients ++ [.ofAddresses "new" [] none] } }

def mediatedExchange : Exchange :=
  exchange {} enlarged (ask hintedQuery)

theorem mediatedExchange_mediated :
    mediatedExchange.answer =
      .ok (.handoff { demoHandoff "web" 0 false with state := .text "x", scope := "a b" }) ∧
    ∃ parameters request client,
      Mediated {} enlarged.database.clients
        (ofSession mediatedExchange.sid (replay {} demo hintedSteps).1 ++ [mediatedExchange])
        mediatedExchange.found parameters request client ∧
      Json.text "web" = .text request.clientId ∧ Json.null = .ofOption .text request.redirectUri ∧
      Json.text "x" = .ofOption .text request.state ∧ "a b" = Handoff.scopeLine request.scopes ∧
      Json.null = .ofOption .text request.nonce ∧ [] = request.acrValues.map Json.text := by
  have hrun : GrowingRun {} demo ((replay {} demo hintedSteps).1 ++ [mediatedExchange])
      mediatedExchange.after :=
    .request (.tables (.of_run (run_replay ..)) enlarged.database (List.prefix_append ..)) _
  have ha : mediatedExchange.answer =
      .ok (.handoff { demoHandoff "web" 0 false with state := .text "x", scope := "a b" }) :=
    eq_ok_of_toOption (by decide +kernel)
  exact ⟨ha, (pending_mediated demo_isFresh hrun).2 _ _ [] _ rfl ha⟩

end Service

end SignOn
