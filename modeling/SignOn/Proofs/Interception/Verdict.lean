import SignOn.Interception
import SignOn.Proofs.Session.Writes

/-!
# What an interception decides

The verdict on a request is a function of the request, its client and the state of the session
(`Interceptor.verdict`), and so is what taking the request up makes of the session
(`Interceptor.accepted`). The interceptor computes both (`accept_writes`), unless the store does not
take the request, which changes the login hint and nothing else (`accept_refused_writes`).
-/

namespace SignOn

-- ---------------------------------------------------------------------------
-- Requests by their prompt
-- ---------------------------------------------------------------------------

/-- Whether a request must never lead to a login page. -/
def Request.Record.isPassive (record : Request.Record) : Bool :=
  record.prompts Request.noneToken

/-- Whether a request asks for a login of its own. The token `none` takes precedence. -/
def Request.Record.wantsLogin (record : Request.Record) : Bool :=
  record.prompts Request.loginToken && !record.isPassive

theorem Request.prompts_toRecord (request : Request) (token : String) :
    request.toRecord.prompts token = request.prompt.contains token := by
  rw [Bool.eq_iff_iff]
  simp [Record.prompts, toRecord, List.any_eq_true]

-- ---------------------------------------------------------------------------
-- The client of a request
-- ---------------------------------------------------------------------------

theorem Request.entries_of_ofParameters {parameters : Assoc String}
    (h : ofParameters parameters = .ok request) : parameters.entries ≠ [] := by
  intro hnil
  obtain rfl : parameters = ∅ := Assoc.ext hnil
  cases h

theorem Client.Row.clientId_of_client {row : Row} {found : Client} (h : row.client = .ok found) :
    found.clientId = row.clientId := by
  simp only [Row.client, bind_eq_ok] at h
  obtain ⟨document, _, h⟩ := h
  cases he : document.elements? with
  | none => simp [he, bind, Except.bind] at h
  | some items =>
    simp only [he, bind_eq_ok, pure_eq_ok] at h
    obtain ⟨_, _, _, _, _, _, rfl⟩ := h
    rfl

theorem Client.Registry.lookup_eq_some {registry : Registry} {clientId : String} {found : Client} :
    registry.lookup clientId = .ok (some found) ↔
      ∃ row, registry.row? clientId = some row ∧ row.client = .ok found := by
  unfold lookup
  cases registry.row? clientId with
  | none => simp
  | some row => simp [map_eq_ok]

theorem Client.Registry.clientId_of_lookup {registry : Registry} {id : String} {found : Client}
    (h : registry.lookup id = .ok (some found)) : found.clientId = id := by
  obtain ⟨row, hr, hc⟩ := lookup_eq_some.mp h
  have hid := List.find?_some (p := fun row : Row => row.clientId == id) hr
  rw [Client.Row.clientId_of_client hc, eq_of_beq hid]

theorem Interceptor.findClient_eq_ok {registry : Client.Registry} {request : Request} :
    findClient registry request = .ok client ↔
      registry.lookup request.clientId = .ok (some client) := by
  unfold findClient
  split <;> simp_all

theorem Interceptor.readRequest_eq_ok {registry : Client.Registry} {parameters : Assoc String} :
    readRequest registry parameters = .ok (request, client) ↔
      Request.ofParameters parameters = .ok request ∧
        registry.lookup request.clientId = .ok (some client) := by
  unfold readRequest
  cases Request.ofParameters parameters with
  | error cause => simp
  | ok read =>
    simp only [map_eq_ok, findClient_eq_ok, Prod.mk.injEq, Except.ok.injEq]
    constructor
    · rintro ⟨found, hl, rfl, rfl⟩
      exact ⟨rfl, hl⟩
    · rintro ⟨rfl, hl⟩
      exact ⟨client, hl, rfl, rfl⟩

-- ---------------------------------------------------------------------------
-- Denials
-- ---------------------------------------------------------------------------

def Decision.isDenial : Decision → Bool
  | .proceed | .reauthenticate _ => false
  | .redirect _ | .refuse .. => true

theorem Client.Redirect.errorUri_of_resolve (h : resolve candidate client = .ok uri)
    (error : String) (state : Option String) :
    ∃ address, errorUri uri error state = .ok address := by
  unfold resolve at h
  cases hs : Uri.split candidate.toList with
  | error cause => simp [hs] at h
  | ok parts =>
    simp only [hs] at h
    split at h
    · cases h
    · split at h
      · cases h
      · cases h
        simp only [errorUri, appendQuery, hs, Except.map]
        exact ⟨_, rfl⟩

/-- A resolver that gives only addresses it could read never makes a denial fail. -/
theorem Decision.deny_resolve (client : Option Client) (redirectUri state : Option String) :
    ∃ decision, deny client redirectUri state Client.Redirect.resolve = .ok decision ∧
      decision.isDenial = true := by
  unfold deny
  split
  · next client candidate _ =>
    cases hr : Client.Redirect.resolve candidate client with
    | error cause => exact ⟨_, rfl, rfl⟩
    | ok uri =>
      obtain ⟨address, ha⟩ :=
        Client.Redirect.errorUri_of_resolve hr Client.Redirect.loginRequired state
      exact ⟨.redirect address, by simp only [ha, Except.map], rfl⟩
  · exact ⟨_, rfl, rfl⟩

def Decision.denial (request : Request) (client : Client) : Decision :=
  (deny (some client) request.redirectUri request.state Client.Redirect.resolve).toOption.getD
    forbidden

theorem Decision.deny_eq (request : Request) (client : Client) :
    deny (some client) request.redirectUri request.state Client.Redirect.resolve =
      .ok (denial request client) := by
  obtain ⟨decision, hd, _⟩ := deny_resolve (some client) request.redirectUri request.state
  simp [denial, hd, Except.toOption]

theorem Decision.denial_isDenial (request : Request) (client : Client) :
    (denial request client).isDenial = true := by
  obtain ⟨decision, hd, hi⟩ := deny_resolve (some client) request.redirectUri request.state
  simpa [denial, hd, Except.toOption] using hi

-- ---------------------------------------------------------------------------
-- Verdicts
-- ---------------------------------------------------------------------------

open Session (State Store)

def Interceptor.verdict (interceptor : Interceptor) (state : State) (request : Request)
    (client : Client) : Decision :=
  if request.toRecord.isPassive then
    if interceptor.clock.isLive state then .proceed else .denial request client
  else if request.toRecord.wantsLogin && !state.loginForced then .reauthenticate .prompt
  else .ofAge (Decision.ageLimit request.maxAge client.defaultMaxAge) state.loginTime
    interceptor.clock.now

def Session.State.started (state : State) (request : Request) (parameters : Assoc String)
    (client : Client) : State :=
  { state with
    loginHint := request.loginHint
    pending := some request.toRecord
    parameters := some parameters
    client := some client.toRecord }

def Session.State.judged (state : State) (request : Request) : State :=
  { state with
    loginForced := if request.toRecord.wantsLogin then !state.loginForced else state.loginForced }

def Session.State.carried (state : State) : Decision → State
  | .proceed => state
  | .reauthenticate _ => { state with subject := none }
  | .redirect _ | .refuse .. => state.ended false

def Interceptor.accepted (interceptor : Interceptor) (state : State) (parameters : Assoc String)
    (request : Request) (client : Client) : State :=
  ((state.started request parameters client).judged request).carried
    (interceptor.verdict state request client)

theorem Decision.ofAge_cases (limit : Option Int) (last : Option Instant) (now : Instant) :
    ofAge limit last now = .proceed ∨ ofAge limit last now = .reauthenticate .age := by
  unfold ofAge
  split
  · split
    · exact .inr rfl
    · exact .inl rfl
  · exact .inl rfl

namespace Interceptor

variable {interceptor : Interceptor} {state : State} {request : Request} {client : Client}

theorem verdict_of_passive (h : request.toRecord.isPassive = true) :
    interceptor.verdict state request client =
      if interceptor.clock.isLive state then .proceed else .denial request client := by
  simp [verdict, h]

theorem verdict_of_unforced (hw : request.toRecord.wantsLogin = true)
    (hf : state.loginForced = false) :
    interceptor.verdict state request client = .reauthenticate .prompt := by
  have hp : request.toRecord.isPassive = false := by
    simp only [Request.Record.wantsLogin, Bool.and_eq_true] at hw
    simpa using hw.2
  simp [verdict, hp, hw, hf]

theorem verdict_of_age (hp : request.toRecord.isPassive = false)
    (hn : ¬ (request.toRecord.wantsLogin = true ∧ state.loginForced = false)) :
    interceptor.verdict state request client =
      .ofAge (Decision.ageLimit request.maxAge client.defaultMaxAge) state.loginTime
        interceptor.clock.now := by
  have hw : (request.toRecord.wantsLogin && !state.loginForced) = false := by simpa using hn
  simp [verdict, hp, hw]

theorem verdict_of_aged (hp : request.toRecord.isPassive = false)
    (hn : ¬ (request.toRecord.wantsLogin = true ∧ state.loginForced = false)) :
    interceptor.verdict state request client = .proceed ∨
      interceptor.verdict state request client = .reauthenticate .age := by
  rw [verdict_of_age hp hn]
  exact Decision.ofAge_cases ..

theorem verdict_eq_prompt_iff : interceptor.verdict state request client = .reauthenticate .prompt ↔
    request.toRecord.wantsLogin = true ∧ state.loginForced = false := by
  constructor
  · intro h
    cases hp : request.toRecord.isPassive with
    | true =>
      rw [verdict_of_passive hp] at h
      split at h
      · cases h
      · have hd := Decision.denial_isDenial request client
        rw [h] at hd
        cases hd
    | false =>
      by_cases hn : request.toRecord.wantsLogin = true ∧ state.loginForced = false
      · exact hn
      · rcases verdict_of_aged hp hn with ha | ha <;> rw [ha] at h <;> cases h
  · rintro ⟨hw, hf⟩
    exact verdict_of_unforced hw hf

theorem verdict_denial (h : (interceptor.verdict state request client).isDenial = true) :
    request.toRecord.isPassive = true ∧ interceptor.clock.isLive state = false := by
  cases hp : request.toRecord.isPassive with
  | true =>
    rw [verdict_of_passive hp] at h
    cases hl : interceptor.clock.isLive state with
    | true => simp [hl, Decision.isDenial] at h
    | false => exact ⟨rfl, rfl⟩
  | false =>
    by_cases hn : request.toRecord.wantsLogin = true ∧ state.loginForced = false
    · rw [verdict_of_unforced hn.1 hn.2] at h
      cases h
    · rcases verdict_of_aged hp hn with ha | ha <;> rw [ha] at h <;> cases h

theorem verdict_isDenial_iff : (interceptor.verdict state request client).isDenial = true ↔
    request.toRecord.isPassive = true ∧ interceptor.clock.isLive state = false := by
  refine ⟨verdict_denial, fun ⟨hp, hl⟩ => ?_⟩
  rw [verdict_of_passive hp, hl, if_neg Bool.false_ne_true]
  exact Decision.denial_isDenial request client

theorem verdict_through_iff : (interceptor.verdict state request client).isDenial = false ↔
    (request.toRecord.isPassive = true → interceptor.clock.isLive state = true) := by
  rw [← Bool.not_eq_true, verdict_isDenial_iff, not_and, Bool.not_eq_false]

end Interceptor

-- ---------------------------------------------------------------------------
-- Judging and accepting
-- ---------------------------------------------------------------------------

namespace Interceptor

variable {store : Store} {sid : Session.Id}

theorem ofPrompt_eq (request : Request) (client : Client) (live forced : Bool) :
    Decision.ofPrompt request.prompt live forced (some client) request.redirectUri request.state
        Client.Redirect.resolve =
      .ok (if request.toRecord.isPassive then
          if live then .proceed else .denial request client
        else if request.toRecord.wantsLogin && !forced then .reauthenticate .prompt
        else .proceed) := by
  simp only [Request.Record.wantsLogin, Request.Record.isPassive, Request.prompts_toRecord,
    Decision.ofPrompt]
  cases hp : request.prompt.contains Request.noneToken with
  | true => cases live <;> simp [Decision.deny_eq]
  | false =>
    cases hl : request.prompt.contains Request.loginToken <;> cases forced <;> simp

theorem loginAge_writes (limit : Option Int) (now : Instant) :
    Session.Writes takes sid
      (do return Decision.ofAge limit (← Session.loginTime? sid) now : Session.StoreM Decision)
      state [] (.ok (Decision.ofAge limit state.loginTime now)) :=
  .bind_load (fun _ hl => Session.read_of_load hl _) (.of_load fun _ _ => rfl)

/-- The state with the marker of a forced login, if a judgement saves it. -/
def judgedStates (state : State) (request : Request) : List State :=
  if request.toRecord.wantsLogin then [state.judged request] else []

theorem getLastD_judgedStates (state : State) (request : Request) :
    (judgedStates state request).getLastD state = state.judged request := by
  unfold judgedStates Session.State.judged
  cases request.toRecord.wantsLogin <;> rfl

theorem judge_writes (interceptor : Interceptor) (request : Request) (client : Client) :
    Session.Writes takes sid (interceptor.judge sid request client) state
      (judgedStates state request) (.ok (interceptor.verdict state request client)) := by
  rw [judge]
  refine .bind_load (fun _ hl => Session.read_of_load hl _) ?_
  refine .bind_load (fun _ hl => Session.isLive_of_load hl _) ?_
  rw [ofPrompt_eq]
  unfold verdict judgedStates Session.State.judged
  simp only [pure_bind, Request.Record.wantsLogin, Request.Record.isPassive,
    Request.prompts_toRecord]
  cases request.prompt.contains Request.noneToken with
  | true =>
    -- the marker is not touched and the age of the login plays no part
    simp only [Bool.not_true, Bool.and_false, Bool.false_eq_true, ↓reduceIte]
    exact .of_load fun _ _ => rfl
  | false =>
    cases request.prompt.contains Request.loginToken with
    | false =>
      simp only [Bool.not_false, Bool.false_and, Bool.and_true, Bool.false_eq_true, ↓reduceIte,
        decide_true]
      exact loginAge_writes _ _
    | true =>
      have hmark : Session.Writes takes sid (Session.markLoginForced sid !state.loginForced) state
          [{ state with loginForced := !state.loginForced }] (.ok ()) :=
        .update_of_kept _ rfl rfl
      cases hf : state.loginForced with
      | false =>
        rw [hf] at hmark
        simp only [Bool.not_false, Bool.and_true, Bool.false_eq_true, ↓reduceIte, reduceCtorEq,
          decide_false]
        exact hmark.bind (.of_load fun _ _ => rfl)
      | true =>
        rw [hf] at hmark
        simp only [Bool.not_false, Bool.not_true, Bool.and_true, Bool.and_false,
          Bool.false_eq_true, ↓reduceIte, decide_true]
        exact hmark.bind (loginAge_writes _ _)

def carriedStates (state : State) : Decision → List State
  | .proceed => []
  | decision => [state.carried decision]

theorem carryOut_writes (decision : Decision) :
    Session.Writes takes sid (carryOut sid decision) state (carriedStates state decision)
      (.ok ()) := by
  cases decision with
  | proceed => exact .of_load fun _ _ => rfl
  | reauthenticate reason => exact .update_of_kept _ rfl rfl
  | redirect uri => exact .endInteraction false
  | refuse status message => exact .endInteraction false

theorem getLastD_carriedStates (state : State) (decision : Decision) :
    (carriedStates state decision).getLastD state = state.carried decision := by
  cases decision <;> rfl

/-- The states that a session gets when a request is taken up, one after the other: with the login
hint, with the request, with the marker of a forced login, and with the decision carried out. -/
def acceptedStates (interceptor : Interceptor) (state : State) (parameters : Assoc String)
    (request : Request) (client : Client) : List State :=
  let started := state.started request parameters client
  let judged := started.judged request
  { state with loginHint := request.loginHint } :: started ::
    (judgedStates started request ++
      carriedStates judged (interceptor.verdict state request client))

section
variable {request : Request} {client : Client} {parameters : Assoc String}

theorem getLastD_acceptedStates (interceptor : Interceptor) (state : State) :
    (interceptor.acceptedStates state parameters request client).getLastD state =
      interceptor.accepted state parameters request client := by
  rw [acceptedStates, List.getLastD_cons, List.getLastD_cons, Session.getLastD_append,
    getLastD_judgedStates, getLastD_carriedStates, accepted]

theorem startInteraction_eq (hid : client.clientId = request.clientId) :
    Session.startInteraction sid request.toRecord parameters client.toRecord =
      Session.update sid fun state =>
        { state with
          pending := some request.toRecord, parameters := some parameters
          client := some client.toRecord } := by
  have hone : client.toRecord.clientId.countsAs request.toRecord.clientId = true :=
    Json.text_countsAs_iff.mpr hid
  rw [Session.startInteraction, hone]
  rfl

theorem accept_writes (interceptor : Interceptor) (hid : client.clientId = request.clientId)
    (ht : takes (state.started request parameters client) = true) :
    Session.Writes takes sid (interceptor.accept sid parameters request client) state
      (interceptor.acceptedStates state parameters request client)
      (.ok (.decided (interceptor.verdict state request client) client.clientId)) := by
  have hhint : Session.Writes takes sid (Session.putLoginHint sid request.loginHint) state
      [{ state with loginHint := request.loginHint }] (.ok ()) := .update_of_kept _ rfl rfl
  rw [accept]
  refine hhint.bind ?_
  rw [startInteraction_eq hid]
  refine (Session.Writes.update _ ht).bind ?_
  refine (judge_writes interceptor request client).bind ?_
  rw [getLastD_judgedStates]
  exact (carryOut_writes _).bind_return _

/-- The hint is saved first, so that a refused request leaves its hint behind. -/
theorem accept_refused_writes (interceptor : Interceptor)
    (hid : client.clientId = request.clientId)
    (ht : takes (state.started request parameters client) = false) :
    Session.Writes takes sid (interceptor.accept sid parameters request client) state
      [{ state with loginHint := request.loginHint }, { state with loginHint := request.loginHint }]
      (.error (.document .unordered)) := by
  have hhint : Session.Writes takes sid (Session.putLoginHint sid request.loginHint) state
      [{ state with loginHint := request.loginHint }] (.ok ()) := .update_of_kept _ rfl rfl
  rw [accept]
  refine hhint.bind ?_
  rw [startInteraction_eq hid]
  exact (Session.Writes.update_refused _ ht).bind_error

end

end Interceptor

end SignOn
