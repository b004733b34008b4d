import SignOn.Proofs.Interception.Outcome

/-!
# Two stores side by side

`Couples R x Q` is a judgement on two runs of one computation: from states related by `R` they come
to the same end and to related states, and a result is in `Q`. With a store related to itself it
speaks of one run, and `R` is an invariant. What `R` has to be like is a `Coupling`: loads come to
the same state, one with a property `P`, and updates that keep `P` are done or refused alike. For
what is done to one session only, that session has to couple (`CouplingAt`). The operations of the
store and the interception couple then, whatever the stores are.
-/

namespace SignOn

-- ---------------------------------------------------------------------------
-- Computations side by side
-- ---------------------------------------------------------------------------

/-- From states related by `R`, `x` comes to one failure or to one result in `Q`, and to related
states again. -/
def Couples (R : σ → σ → Prop) (x : EStateM ε σ α) (Q : α → Prop) : Prop :=
  ∀ s t, R s t → ∃ result s' t', x s = ending result s' ∧ x t = ending result t' ∧ R s' t' ∧
    ∀ a, result = .ok a → Q a

section
variable {R : σ → σ → Prop} {x : EStateM ε σ α} {f : α → EStateM ε σ β} {P Q : α → Prop}
  {Q' : β → Prop}

theorem Couples.bind (hx : Couples R x Q) (hf : ∀ a, Q a → Couples R (f a) Q') :
    Couples R (x >>= f) Q' := by
  intro s t h
  obtain ⟨result, s', t', hs, ht, h', hq⟩ := hx s t h
  cases result with
  | error e => exact ⟨.error e, s', t', run_bind_error hs, run_bind_error ht, h', by simp⟩
  | ok a =>
    rw [run_bind hs, run_bind ht]
    exact hf a (hq a rfl) s' t' h'

theorem Couples.mono (h : Couples R x P) (hq : ∀ a, P a → Q a) : Couples R x Q := by
  intro s t hst
  obtain ⟨result, s', t', hs, ht, h', hp⟩ := h s t hst
  exact ⟨result, s', t', hs, ht, h', fun a ha => hq a (hp a ha)⟩

theorem Couples.return {a : α} (h : Q a) : Couples R (pure a : EStateM ε σ α) Q := by
  intro s t hst
  refine ⟨.ok a, s, t, rfl, rfl, hst, fun b hb => ?_⟩
  cases hb
  exact h

theorem Couples.throw (e : ε) : Couples R (throw e : EStateM ε σ α) Q :=
  fun s t h => ⟨.error e, s, t, rfl, rfl, h, by simp⟩

/-- What is read off the state plays no part beyond what related states have in common. -/
theorem Couples.get {f : σ → EStateM ε σ α} (hf : ∀ s t, R s t → f s = f t)
    (hu : ∀ s t, R s t → Couples R (f s) Q) : Couples R (get >>= f) Q := by
  intro s t h
  obtain ⟨result, s', t', hs, ht, h', hq⟩ := hu s t h s t h
  rw [hf s t h] at ht
  exact ⟨result, s', t', hs, ht, h', hq⟩

theorem Couples.of_ok (h : Couples R x Q) (hs : R s s) (hr : x s = .ok a s') : R s' s' ∧ Q a := by
  obtain ⟨result, u, v, hu, hv, h', hq⟩ := h s s hs
  cases result with
  | error e => cases hr.symm.trans hu
  | ok b =>
    cases hr.symm.trans hu
    cases hr.symm.trans hv
    exact ⟨h', hq _ rfl⟩

end

namespace Session

-- ---------------------------------------------------------------------------
-- Stores side by side
-- ---------------------------------------------------------------------------

/-- Loads of one session from related stores give one state, which has `P`, and updates of it that
keep `P` come to the same end. -/
structure CouplingAt (sid : Id) (R : Store → Store → Prop) (P : State → Prop) : Prop where
  load : Couples R (load sid) P
  update : ∀ change, (∀ state, P state → P (change state)) →
    Couples R (update sid change) fun _ => True

structure Coupling (R : Store → Store → Prop) (P : State → Prop) : Prop where
  load : ∀ sid, Couples R (load sid) P
  update : ∀ sid change, (∀ state, P state → P (change state)) →
    Couples R (update sid change) fun _ => True

theorem Coupling.session {R : Store → Store → Prop} {P : State → Prop} (h : Coupling R P)
    (sid : Id) : CouplingAt sid R P :=
  ⟨h.load sid, h.update sid⟩

/-- A property of the interaction that is pending, which a session without one has. -/
structure Steady (P : State → Prop) : Prop where
  congr : ∀ {s t : State}, t.pending = s.pending → t.parameters = s.parameters →
    t.client = s.client → P s → P t
  idle : ∀ {state : State}, state.pending = none → state.client = none → P state

section
variable {R : Store → Store → Prop} {P : State → Prop} {sid : Id} (hR : CouplingAt sid R P)

include hR in
theorem CouplingAt.read (f : State → α) :
    Couples R (do return f (← Session.load sid) : StoreM α) fun _ => True :=
  hR.load.bind fun _ _ => .return trivial

include hR in
theorem CouplingAt.liveSubject (clock : Login.Clock) :
    Couples R (Login.liveSubject clock sid) fun _ => True := by
  refine .bind (hR.read State.subject) fun subject _ => ?_
  cases subject with
  | none => exact .return trivial
  | some subject =>
    refine .bind (hR.read State.loginTime) fun time _ => ?_
    cases time with
    | none => exact .return trivial
    | some time => exact .return trivial

include hR in
theorem CouplingAt.isLive (clock : Login.Clock) :
    Couples R (Login.isLive clock sid) fun _ => True :=
  (hR.liveSubject clock).bind fun _ _ => .return trivial

include hR in
theorem CouplingAt.requireSubject (clock : Login.Clock) :
    Couples R (Login.requireSubject clock sid) fun _ => True := by
  refine .bind (hR.liveSubject clock) fun subject _ => ?_
  cases subject with
  | ok subject => exact .return trivial
  | error cause => exact .throw _

variable (hP : Steady P)

include hR hP in
theorem CouplingAt.keep {change : State → State}
    (hp : ∀ state, (change state).pending = state.pending)
    (hr : ∀ state, (change state).parameters = state.parameters)
    (hc : ∀ state, (change state).client = state.client) :
    Couples R (Session.update sid change) fun _ => True :=
  hR.update change fun state => hP.congr (hp state) (hr state) (hc state)

include hR hP in
theorem CouplingAt.endInteraction (keepMarker : Bool) :
    Couples R (Session.endInteraction sid keepMarker) fun _ => True :=
  hR.update _ fun _ _ => hP.idle rfl rfl

include hR hP in
theorem CouplingAt.record (clock : Login.Clock) (subject : String) :
    Couples R (Login.record clock sid subject) fun _ => True := by
  refine .bind (Q := fun _ => True) ?_ fun _ _ => .return trivial
  exact hR.keep hP (fun _ => rfl) (fun _ => rfl) fun _ => rfl

include hR in
theorem CouplingAt.startInteraction {request : Request.Record} {parameters : Assoc String}
    {client : Client.Record}
    (h : ∀ state : State, P { state with
      pending := some request, parameters := some parameters, client := some client }) :
    Couples R (Session.startInteraction sid request parameters client) fun _ => True := by
  have hupdate := hR.update _ fun state _ => h state
  unfold Session.startInteraction
  split
  · exact .bind (Q := fun _ => True) (.throw _) fun _ _ => hupdate
  · exact hupdate

end

end Session

end SignOn
