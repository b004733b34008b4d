import SignOn.Proofs.Client.RedirectLaws
import SignOn.Proofs.Service.Coupling
import SignOn.Proofs.Service.Run
import SignOn.Proofs.Session.Backends

/-!
# The service on memory and on a table

`Operation` is whatever may be done to a service: calls on its store, questions about a login,
interceptions, requests, and changes of the clock and the tables. Done one after the other to a
service with empty memory and to one with an empty table, they have the same results and leave the
same states behind (`observe_backends`), as long as they are `IsProper`.
-/

namespace SignOn.Service

open Session (State Store)

-- ---------------------------------------------------------------------------
-- Operations
-- ---------------------------------------------------------------------------

inductive Operation : Type → Type 1
  | load (sid : Session.Id) : Operation State
  | save (sid : Session.Id) (state : State) : Operation Unit
  | named (call : Session.Call α) : Operation α
  | requireSubject (clock : Session.Login.Clock) (sid : Session.Id) : Operation String
  | isLive (clock : Session.Login.Clock) (sid : Session.Id) : Operation Bool
  | recordLogin (clock : Session.Login.Clock) (sid : Session.Id) (subject : String) :
    Operation Instant
  | intercept (interceptor : Interceptor) (path : String) (parameters : Request.Parameters)
      (sid : Session.Id) : Operation Interception
  | receive (settings : Settings) (request : Http.Request) :
    Operation (Answer × Option Session.Id)
  | setClock (now : Instant) : Operation Unit
  | setTables (database : Database) : Operation Unit

def Operation.run : Operation α → ServiceM α
  | .load sid => onStore (Session.load sid)
  | .save sid state => onStore (Session.save sid state)
  | .named call => onStore call.run
  | .requireSubject clock sid => onStore (Session.Login.requireSubject clock sid)
  | .isLive clock sid => onStore (Session.Login.isLive clock sid)
  | .recordLogin clock sid subject => onStore (Session.Login.record clock sid subject)
  | .intercept interceptor path parameters sid =>
    onStore (interceptor.intercept path parameters sid)
  | .receive settings request => handle settings request
  | .setClock now => modify fun service => { service with now }
  | .setTables database => modify fun service => { service with database }

/-- Requests that are stored are built from parameters, and all clients have texts as redirect
addresses. -/
def Operation.IsProper : Operation α → Prop
  | .save _ state => state.IsProper
  | .named call => call.IsProper
  | .intercept interceptor .. => interceptor.registry.IsTextual
  | .setTables database => database.clients.IsTextual
  | _ => True

/-- What is seen of an operation: its result, and the state that each session is loaded with
afterwards. -/
structure Observation where
  Result : Type
  result : Except Failure Result
  loaded : Session.Id → Except Failure State

def observe : List (Σ α, Operation α) → Service → List Observation
  | [], _ => []
  | ⟨α, operation⟩ :: rest, service =>
    let after := stateOf (operation.run service)
    { Result := α
      result := resultOf (operation.run service)
      loaded := fun sid => resultOf (Session.load sid after.store) } :: observe rest after

def inMemory (service : Service) : Service :=
  { service with store := { sessions := .memory ∅ } }

def inTable (service : Service) : Service :=
  { service with store := { sessions := .table ∅ } }

-- ---------------------------------------------------------------------------
-- Services that agree
-- ---------------------------------------------------------------------------

/-- Two services differ in nothing but stores that agree, and all clients can be stored. -/
structure Agree (first second : Service) : Prop where
  stores : first.store.Agree second.store
  rest : second = { first with store := second.store }
  textual : first.database.clients.IsTextual

theorem Agree.of_paired {first second : Service} {registry : Client.Registry}
    (h : Paired Store.Agree registry first second) (ht : registry.IsTextual) :
    first.Agree second :=
  ⟨h.stores, h.rest, h.clients ▸ ht⟩

theorem couples_of_paired {action : ServiceM α} {Q : α → Prop}
    (h : ∀ registry : Client.Registry, registry.IsTextual →
      Couples (Paired Store.Agree registry) action Q) : Couples Agree action Q := by
  intro first second ha
  obtain ⟨result, first', second', hf, hs, hp, hq⟩ :=
    h _ ha.textual first second ⟨ha.stores, ha.rest, rfl⟩
  exact ⟨result, first', second', hf, hs, .of_paired hp ha.textual, hq⟩

theorem couples_onStore_agree {action : Session.StoreM α} {Q : α → Prop}
    (h : Couples Store.Agree action Q) : Couples Agree (onStore action) Q :=
  couples_of_paired fun _ _ => couples_onStore (pairing_paired _ _) h

theorem Operation.couples (operation : Operation α) (h : operation.IsProper) :
    Couples Agree operation.run fun _ => True := by
  have hR := Session.coupling_agree
  have hP := State.steady_isListable
  cases operation with
  | load sid => exact couples_onStore_agree ((hR.load sid).mono fun _ _ => trivial)
  | save sid state => exact couples_onStore_agree (Session.couples_save sid h.isListable)
  | named call => exact couples_onStore_agree (call.couples h)
  | requireSubject clock sid => exact couples_onStore_agree ((hR.session sid).requireSubject clock)
  | isLive clock sid => exact couples_onStore_agree ((hR.session sid).isLive clock)
  | recordLogin clock sid subject =>
    exact couples_onStore_agree ((hR.session sid).record hP clock subject)
  | intercept interceptor path parameters sid =>
    have hstarts : Interceptor.Starts (State.isListable · = true) interceptor.registry := h.starts
    have hintercept := Interceptor.couples_intercept (hR.session sid) hP hstarts path parameters
    exact couples_onStore_agree (hintercept.mono fun _ _ => trivial)
  | receive settings request =>
    exact couples_of_paired fun _ ht => couples_handle hR hP ht.starts settings request
  | setClock now =>
    intro first second ha
    refine ⟨.ok (), _, _, rfl, rfl, ⟨ha.stores, ?_, ha.textual⟩, fun _ _ => trivial⟩
    rw [ha.rest]
  | setTables database =>
    intro first second ha
    refine ⟨.ok (), _, _, rfl, rfl, ⟨ha.stores, ?_, h⟩, fun _ _ => trivial⟩
    rw [ha.rest]

-- ---------------------------------------------------------------------------
-- Runs
-- ---------------------------------------------------------------------------

theorem agree_backends {service : Service} (h : service.database.clients.IsTextual) :
    service.inMemory.Agree service.inTable := by
  refine ⟨⟨⟨rfl, trivial⟩, ⟨rfl, ?_⟩, fun _ => rfl, fun _ => rfl⟩, rfl, h⟩
  intro sid row hrow
  cases hrow

theorem Agree.load_eq {first second : Service} (h : first.Agree second) (sid : Session.Id) :
    resultOf (Session.load sid first.store) = .ok (first.store.state sid) ∧
      resultOf (Session.load sid second.store) = .ok (first.store.state sid) := by
  rw [Session.load_run h.stores.first_healthy, Session.load_run h.stores.second_healthy,
    h.stores.state_eq sid]
  exact ⟨rfl, rfl⟩

theorem observe_agree {operations : List (Σ α, Operation α)}
    (hp : ∀ operation ∈ operations, operation.2.IsProper) {first second : Service}
    (h : first.Agree second) :
    observe operations first = observe operations second ∧
      ∀ seen ∈ observe operations first, ∀ sid, ∃ state, seen.loaded sid = .ok state := by
  induction operations generalizing first second with
  | nil => exact ⟨rfl, by simp [observe]⟩
  | cons operation rest ih =>
    obtain ⟨α, operation⟩ := operation
    obtain ⟨result, first', second', hf, hs, h', -⟩ :=
      operation.couples (hp _ (List.mem_cons_self ..)) first second h
    obtain ⟨hrest, hloads⟩ := ih (fun other ho => hp other (List.mem_cons_of_mem _ ho)) h'
    simp only [observe, hf, hs, resultOf_ending, stateOf_ending]
    constructor
    · have hloaded (sid : Session.Id) :
          resultOf (Session.load sid first'.store) = resultOf (Session.load sid second'.store) :=
        (h'.load_eq sid).1.trans (h'.load_eq sid).2.symm
      simp only [hrest, hloaded]
    · intro seen hseen sid
      rcases List.mem_cons.mp hseen with rfl | hseen
      · exact ⟨_, (h'.load_eq sid).1⟩
      · exact hloads seen hseen sid

/-- Memory and table cannot be told apart: whatever is done to them, one operation after the other,
has the same result or the same failure on both, and leaves every session in the same state. -/
theorem observe_backends (service : Service) (h : service.database.clients.IsTextual)
    (operations : List (Σ α, Operation α))
    (hp : ∀ operation ∈ operations, operation.2.IsProper) :
    observe operations service.inMemory = observe operations service.inTable ∧
      ∀ seen ∈ observe operations service.inMemory, ∀ sid, ∃ state, seen.loaded sid = .ok state :=
  observe_agree hp (agree_backends h)

-- A login, an interaction that ends, a client that belongs to no pending request, and a login that
-- is over.
def demoOperations : List (Σ α, Operation α) :=
  [⟨_, .receive {} (ask "client_id=web&scope=b+a&max_age=60&ui=x")⟩, ⟨_, .receive {} logIn⟩,
    ⟨_, .receive {} (ask "client_id=app&prompt=login&login_hint=ada")⟩,
    ⟨_, .named (.replaceClient "s" (Client.toRecord { clientId := "web", redirectUris := ∅ }))⟩,
    ⟨_, .setClock ⟨99999000001⟩⟩, ⟨_, .requireSubject { now := ⟨99999000001⟩ } "s"⟩]

theorem demoOperations_observe :
    (observe demoOperations demo.inTable).map (·.result.toBool) =
        [true, true, true, false, true, false] ∧
      observe demoOperations demo.inMemory = observe demoOperations demo.inTable := by
  have hdemo : demo.database.clients.IsTextual := by
    refine Client.Registry.isTextual_of_registers fun row hrow => ⟨[], ?_⟩
    simp only [demo, List.mem_cons, List.not_mem_nil, or_false] at hrow
    rcases hrow with rfl | rfl
    · exact eq_ok_of_toOption (by decide +kernel)
    · exact eq_ok_of_toOption (by decide +kernel)
  have hproper : ∀ operation ∈ demoOperations, operation.2.IsProper := by
    intro operation ho
    simp only [demoOperations, List.mem_cons, List.not_mem_nil, or_false] at ho
    rcases ho with rfl | rfl | rfl | rfl | rfl | rfl
    · trivial
    · trivial
    · trivial
    · exact AtomSet.isTextual_ofTexts []
    · trivial
    · trivial
  exact ⟨by decide +kernel, (observe_backends demo hdemo demoOperations hproper).1⟩

end SignOn.Service
