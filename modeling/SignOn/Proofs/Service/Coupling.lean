import SignOn.Proofs.Interception.Coupling
import SignOn.Proofs.Service.ExchangeLaws

/-!
# Services side by side

A relation of services that differ in coupled stores, in their logs and in nothing else an action on
a session looks at is a `Pairing`. Every action of the service couples then, up to the answer to a
request of a session that couples (`couples_respond`). Services that differ in nothing but stores
that couple at every session are `Paired`; they couple up to a whole request (`couples_handle`).
-/

namespace SignOn.Service

open Session (State Store Coupling CouplingAt Steady)
open Interceptor (Starts)

-- ---------------------------------------------------------------------------
-- Related services
-- ---------------------------------------------------------------------------

/-- Services related by `S` have related stores, one clock, one hasher, the same users and this registry. They
stay related when their stores are replaced by related ones and the same entries are logged. -/
structure Pairing (R : Store → Store → Prop) (registry : Client.Registry)
    (S : Service → Service → Prop) : Prop where
  stores : ∀ {first second}, S first second → R first.store second.store
  now : ∀ {first second}, S first second → second.now = first.now
  hasher : ∀ {first second}, S first second → second.hasher = first.hasher
  users : ∀ {first second}, S first second → second.database.users = first.database.users
  clients : ∀ {first second}, S first second →
    first.database.clients = registry ∧ second.database.clients = registry
  store : ∀ {first second store store'}, S first second → R store store' →
    S { first with store } { second with store := store' }
  log : ∀ {first second}, S first second → ∀ entries : Audit.Log,
    S { first with database := { first.database with audit := first.database.audit ++ entries } }
      { second with database := { second.database with audit := second.database.audit ++ entries } }

/-- Two services with this registry that differ in nothing but related stores. -/
structure Paired (R : Store → Store → Prop) (registry : Client.Registry)
    (first second : Service) : Prop where
  stores : R first.store second.store
  rest : second = { first with store := second.store }
  clients : first.database.clients = registry

theorem pairing_paired (R : Store → Store → Prop) (registry : Client.Registry) :
    Pairing R registry (Paired R registry) where
  stores h := h.stores
  now h := by rw [h.rest]
  hasher h := by rw [h.rest]
  users h := by rw [h.rest]
  clients h := ⟨h.clients, by rw [h.rest]; exact h.clients⟩
  store h hr := ⟨hr, by rw [h.rest], h.clients⟩
  log h entries := ⟨h.stores, by rw [h.rest], h.clients⟩

theorem stateOf_of_couples {x : EStateM ε σ α} {R : σ → σ → Prop} {Q : α → Prop}
    (h : Couples R x Q) (hs : R s s) : R (stateOf (x s)) (stateOf (x s)) := by
  obtain ⟨result, u, v, hu, hv, h', -⟩ := h s s hs
  rw [hu] at hv ⊢
  rw [stateOf_ending]
  cases result with
  | ok a =>
    cases hv
    exact h'
  | error e =>
    cases hv
    exact h'

section
variable {R : Store → Store → Prop} {registry : Client.Registry} {S : Service → Service → Prop}
  (hS : Pairing R registry S)

include hS in
theorem couples_onStore {action : Session.StoreM α} {Q : α → Prop} (h : Couples R action Q) :
    Couples S (onStore action) Q := by
  intro first second hp
  obtain ⟨result, first', second', hf, hs, h', hq⟩ := h first.store second.store (hS.stores hp)
  refine ⟨result, { first with store := first' }, { second with store := second' }, ?_, ?_,
    hS.store hp h', hq⟩
  · cases result <;> simp only [onStore, hf, ending]
  · cases result <;> simp only [onStore, hs, ending]

theorem couples_raise (result : Except Failure α) :
    Couples S (raise result) fun a => result = .ok a := by
  cases result with
  | ok a => exact .return rfl
  | error failure => exact .throw failure

include hS in
theorem couples_append (entries : Audit.Log) : Couples S (append entries) fun _ => True :=
  fun _ _ hp => ⟨.ok (), _, _, rfl, rfl, hS.log hp entries, fun _ _ => trivial⟩

include hS in
theorem couples_log (event : Audit.Event) (clientId subject ip : Option String) :
    Couples S (log event clientId subject ip) fun _ => True := by
  refine .get (fun first second hp => ?_) fun _ _ _ => couples_append hS _
  rw [hS.now hp]

include hS in
theorem Pairing.clock_eq (h : S first second) (settings : Settings) :
    second.clock settings = first.clock settings := by
  rw [clock, clock, hS.now h]

include hS in
theorem Pairing.interceptor_eq (h : S first second) (settings : Settings) :
    second.interceptor settings = first.interceptor settings := by
  rw [interceptor, interceptor, hS.clock_eq h, (hS.clients h).1, (hS.clients h).2]

include hS in
theorem Pairing.checkPassword_eq (h : S first second) :
    checkPassword second.hasher second.database =
      checkPassword first.hasher first.database := by
  funext username password
  rw [hS.hasher h, checkPassword, checkPassword, Database.user?, Database.user?, hS.users h]

-- ---------------------------------------------------------------------------
-- The interception of a request
-- ---------------------------------------------------------------------------

/-- An interception of a request that turns it away has grounds in its parameters. -/
def HasGrounds (settings : Settings) (registry : Client.Registry) (request : Http.Request)
    (interception : Interception) : Prop :=
  ∃ path parameters, request.addressPath = .ok path ∧
    (Interceptor.covers settings.authorizePath path = true → request.parameters = .ok parameters) ∧
    Interceptor.HasGrounds settings.authorizePath registry path parameters.entries interception

variable {P : State → Prop} {sid : Session.Id} (hR : CouplingAt sid R P) (hP : Steady P)
  (hs : Starts P registry)

include hS hR hP hs in
theorem couples_intercept_rest {settings : Settings} {request : Http.Request} {path : String}
    {parameters : Assoc (List String)} (hpath : request.addressPath = .ok path)
    (hparameters : Interceptor.covers settings.authorizePath path = true →
      request.parameters = .ok parameters) :
    Couples S (do
        let service ← get
        let interception ←
          onStore ((service.interceptor settings).intercept path parameters.entries sid)
        append ((eventsOf interception).map
          (·.entry service.now interception.clientId.text? none request.ip))
        return interception) (HasGrounds settings registry request) := by
  refine .get (fun first second hp => ?_) fun first second hp => ?_
  · rw [hS.interceptor_eq hp, hS.now hp]
  · have hregistry : (first.interceptor settings).registry = registry := (hS.clients hp).1
    have hintercept := Interceptor.couples_intercept hR hP (hregistry ▸ hs) path
      parameters.entries
    rw [hregistry] at hintercept
    refine .bind (couples_onStore hS hintercept) fun interception hi => ?_
    exact .bind (couples_append hS _) fun _ _ => .return ⟨path, parameters, hpath, hparameters, hi⟩

include hS hR hP hs in
theorem couples_intercept (settings : Settings) (request : Http.Request) :
    Couples S (intercept settings request sid) (HasGrounds settings registry request) := by
  refine .bind (couples_raise _) fun path hpath => ?_
  cases hc : Interceptor.covers settings.authorizePath path with
  | false =>
    refine .bind (.return (Q := fun _ => True) trivial) fun parameters _ => ?_
    exact couples_intercept_rest hS hR hP hs hpath fun h => by cases hc.symm.trans h
  | true =>
    refine .bind (couples_raise _) fun parameters hparameters => ?_
    exact couples_intercept_rest hS hR hP hs hpath fun _ => hparameters

-- ---------------------------------------------------------------------------
-- Endpoints
-- ---------------------------------------------------------------------------

include hS hR hP in
theorem couples_complete (pending : Request.Record) (ip : Option String) :
    Couples S (complete sid pending ip) (·.status ≠ 302) := by
  refine .bind (couples_onStore hS (hR.read State.subject)) fun subject _ => ?_
  refine .bind (couples_onStore hS (hR.read State.loginTime)) fun login _ => ?_
  refine .bind (couples_onStore hS (hR.endInteraction hP false)) fun _ _ => ?_
  refine .bind (couples_log hS _ _ _ _) fun _ _ => ?_
  cases Handoff.ofRequest pending subject login with
  | ok handoff => exact .return (by simp [Answer.status])
  | error cause => exact .throw _

include hS hR hP in
/-- The authorize path redirects nowhere. -/
theorem couples_authorize (settings : Settings) (ip : Option String) :
    Couples S (authorize settings sid ip) (·.status ≠ 302) := by
  refine .bind (couples_onStore hS (hR.read State.pending)) fun pending _ => ?_
  cases pending with
  | none => exact .return (by decide)
  | some pending =>
    refine .get (fun first second hp => ?_) fun first _ _ => ?_
    · rw [hS.clock_eq hp]
    · refine .bind (couples_onStore hS (hR.isLive _)) fun live _ => ?_
      cases live with
      | true => exact couples_complete hS hR hP pending ip
      | false =>
        refine .bind (couples_onStore hS (hR.read State.loginHint)) fun hint _ => ?_
        exact .return (by simp [Answer.status])

include hS hR hP in
theorem couples_login (settings : Settings) (username password : String) (ip : Option String) :
    Couples S (login settings sid username password ip) fun _ => True := by
  refine .bind (couples_onStore hS (hR.read State.pending)) fun pending _ => ?_
  cases pending with
  | none => exact .return trivial
  | some pending =>
    refine .get (fun first second hp => ?_) fun first _ _ => ?_
    · rw [hS.checkPassword_eq hp]
    refine .bind (couples_raise _) fun found _ => ?_
    cases found with
    | none => exact .bind (couples_log hS _ _ _ _) fun _ _ => .return trivial
    | some user =>
      refine .get (fun first second hp => ?_) fun first _ _ => ?_
      · rw [hS.clock_eq hp]
      refine .bind (Q := fun _ => True) (.bind (couples_onStore hS (hR.record hP _ user.username))
        fun _ _ => .return trivial) fun _ _ => ?_
      refine .bind (couples_log hS _ _ _ _) fun _ _ => ?_
      refine .bind (couples_onStore hS (hR.read State.parameters)) fun parameters _ => ?_
      exact .bind (couples_onStore hS (hR.endInteraction hP true)) fun _ _ => .return trivial

variable {settings : Settings} {request : Http.Request}
  (ha : route settings request.method request.path = .endpoint .audit →
    ∀ first second, S first second → second.database.audit = first.database.audit)

include hS hR hP ha in
/-- Nothing but a listing looks at the log. -/
theorem couples_serve : Couples S (serve settings request sid) fun _ => True := by
  unfold serve
  cases hr : route settings request.method request.path with
  | endpoint endpoint =>
    cases endpoint with
    | authorize => exact (couples_authorize hS hR hP settings request.ip).mono fun _ _ => trivial
    | login =>
      simp only [submitLogin]
      split
      · exact .return trivial
      · split
        · exact couples_login hS hR hP _ _ _ _
        · exact .return trivial
    | audit =>
      refine .get (fun first second hp => ?_) fun _ _ _ => .return trivial
      rw [ha hr first second hp]
    | health => exact .return trivial
  | _ => exact .return trivial

include hS hR hP hs ha in
theorem couples_respond : Couples S (respond settings request sid) fun _ => True := by
  refine .bind (couples_intercept hS hR hP hs settings request) fun interception _ => ?_
  split
  · exact .return trivial
  · exact couples_serve hS hR hP ha

end

-- ---------------------------------------------------------------------------
-- Whole requests
-- ---------------------------------------------------------------------------

section
variable {R : Store → Store → Prop} {registry : Client.Registry} {P : State → Prop}

theorem couples_openSession (cookie : Option String) :
    Couples (Paired R registry) (openSession cookie) fun _ => True := by
  unfold openSession
  cases Request.nonEmpty cookie with
  | some sid => exact .return trivial
  | none =>
    intro first second hp
    rw [hp.rest]
    exact ⟨.ok (first.supply first.issued, some (first.supply first.issued)), _, _, rfl, rfl,
      ⟨hp.stores, rfl, hp.clients⟩, fun _ _ => trivial⟩

theorem couples_handle (hR : Coupling R P) (hP : Steady P) (hs : Starts P registry)
    (settings : Settings) (request : Http.Request) :
    Couples (Paired R registry) (handle settings request) fun _ => True := by
  refine .bind (couples_openSession _) fun opened _ => ?_
  refine .bind (Q := fun _ => True) ?_ fun _ _ => .return trivial
  refine couples_respond (pairing_paired R registry) (hR.session opened.1) hP hs fun _ _ _ hp => ?_
  rw [hp.rest]

end

end SignOn.Service
