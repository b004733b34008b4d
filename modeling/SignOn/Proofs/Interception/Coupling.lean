import SignOn.Proofs.Session.Coupling

/-!
# Interceptions side by side

An interception couples on whatever stores couple (`couples_intercept`), and it turns a request away
only for a reason: the parameters make no request of a known client, or the request is denied as
`Decision.denial` says.
-/

namespace SignOn

theorem Decision.ofAge_isDenial (limit : Option Int) (last : Option Instant) (now : Instant) :
    (ofAge limit last now).isDenial = false := by
  rcases ofAge_cases limit last now with h | h <;> rw [h] <;> rfl

namespace Interceptor

open Session (State Store CouplingAt Steady)

/-- Every request that the registry has a client for may be taken up. -/
def Starts (P : State → Prop) (registry : Client.Registry) : Prop :=
  ∀ parameters request client, readRequest registry parameters = .ok (request, client) →
    ∀ state : State, P { state with
      pending := some request.toRecord, parameters := some parameters, client := some client.toRecord }

/-- An interception that turns a request away has rejected its parameters or denies it. -/
def HasGrounds (authorizePath : String) (registry : Client.Registry) (path : String)
    (parameters : Request.Parameters) (interception : Interception) : Prop :=
  ∀ decision, interception.decision? = some decision → decision.isDenial = true →
    decision = Interception.rejection ∨
      ∃ request client, covers authorizePath path = true ∧
        readRequest registry (Request.singleValues parameters) = .ok (request, client) ∧
        decision = .denial request client

theorem hasGrounds_of_none {authorizePath path : String} {registry : Client.Registry}
    {parameters : Request.Parameters} (h : interception.decision? = none) :
    HasGrounds authorizePath registry path parameters interception :=
  fun _ hd => by cases h.symm.trans hd

theorem hasGrounds_rejected {authorizePath path : String} {registry : Client.Registry}
    {parameters : Request.Parameters} (clientId : Option String) :
    HasGrounds authorizePath registry path parameters (.rejected clientId) := by
  intro decision hd _
  cases hd
  exact .inl rfl

section
variable {R : Store → Store → Prop} {P : State → Prop} {sid : Session.Id}
  (hR : CouplingAt sid R P) (hP : Steady P)

include hR hP in
theorem couples_judge (interceptor : Interceptor) (request : Request) (client : Client) :
    Couples R (interceptor.judge sid request client) fun decision =>
      decision.isDenial = true → decision = .denial request client := by
  unfold judge
  refine .bind (hR.read State.loginForced) fun forced _ => ?_
  refine .bind (hR.isLive interceptor.clock) fun live _ => ?_
  rw [ofPrompt_eq]
  simp only [pure_bind]
  generalize hverdict : (if request.toRecord.isPassive = true then
      if live = true then Decision.proceed else .denial request client
    else if (request.toRecord.wantsLogin && !forced) = true then .reauthenticate .prompt
    else .proceed) = decision
  have hdenial : decision.isDenial = true → decision = .denial request client := by
    intro hd
    subst hverdict
    split at hd
    · split at hd
      · cases hd
      · simp_all
    · split at hd <;> cases hd
  -- the age of the login is looked at whether the marker is written or not
  have hage : Couples R
      (if (decide (decision = .proceed) && !request.prompt.contains Request.noneToken) = true then
        do
          let last ← Session.loginTime? sid
          pure (Decision.ofAge (Decision.ageLimit request.maxAge client.defaultMaxAge) last
            interceptor.clock.now)
      else pure decision) fun decision =>
        decision.isDenial = true → decision = .denial request client := by
    split
    · refine .bind (hR.read State.loginTime) fun last _ => .return fun hd => ?_
      cases (Decision.ofAge_isDenial ..).symm.trans hd
    · exact .return hdenial
  split
  · exact .bind (hR.keep hP (fun _ => rfl) (fun _ => rfl) fun _ => rfl) fun _ _ => hage
  · exact hage

include hR hP in
theorem couples_carryOut (decision : Decision) :
    Couples R (carryOut sid decision) fun _ => True := by
  cases decision with
  | proceed => exact .return trivial
  | reauthenticate reason => exact hR.keep hP (fun _ => rfl) (fun _ => rfl) fun _ => rfl
  | redirect uri => exact hR.endInteraction hP false
  | refuse status message => exact hR.endInteraction hP false

include hR hP in
theorem couples_intercept {interceptor : Interceptor} (hs : Starts P interceptor.registry)
    (path : String) (parameters : Request.Parameters) :
    Couples R (interceptor.intercept path parameters sid)
      (HasGrounds interceptor.authorizePath interceptor.registry path parameters) := by
  unfold intercept
  cases hc : covers interceptor.authorizePath path with
  | false => exact .return (hasGrounds_of_none rfl)
  | true =>
    simp only [Bool.not_true, Bool.false_eq_true, ↓reduceIte]
    refine .bind (hR.read State.pending) fun pending _ => ?_
    cases pending with
    | some pending => exact .return (hasGrounds_of_none rfl)
    | none =>
      cases hr : readRequest interceptor.registry (Request.singleValues parameters) with
      | error failure =>
        cases failure with
        | request cause => exact .return (hasGrounds_rejected _)
        | unknownClient clientId => exact .return (hasGrounds_rejected _)
        | _ => exact .throw _
      | ok found =>
        obtain ⟨request, client⟩ := found
        refine .bind (hR.keep hP (fun _ => rfl) (fun _ => rfl) fun _ => rfl) fun _ _ => ?_
        refine .bind (hR.startInteraction (hs _ request client hr)) fun _ _ => ?_
        refine .bind (couples_judge hR hP interceptor request client) fun decision hd => ?_
        refine .bind (couples_carryOut hR hP decision) fun _ _ => .return fun other ho hi => ?_
        cases ho
        exact .inr ⟨request, client, hc, hr, hd hi⟩

end

end Interceptor

end SignOn
