import SignOn.Proofs.Service.SessionSteps

/-!
# The marker of a forced login

The marker of a session is one bit and does not say which request it was set for. `MarkerState`
follows it along the exchanges of a session: it is set when a login is forced (`waiting`), a login
of the same request makes it good (`granted`), and it is cleared by the next request that asks for
a login (`spent`), which may be another one. So a hand-off that asked for a login rests on the login
of the request for which a login was forced last (`forced_handoff_honoured_iff`).
-/

namespace SignOn.Service

open Session (State)

/-- A login is forced for a request by its prompt. -/
def Exchange.ForcesFor (e : Exchange) (pending : Request.Record) : Prop :=
  (∃ clientId, e.interception = .ok (.decided (.reauthenticate .prompt) clientId)) ∧
    e.found.pending = some pending

/-- A login of a request succeeded, and nothing was handed off since. -/
def Honoured (own : List Exchange) (pending : Request.Record) : Prop :=
  ∃ a f b, own = a ++ f :: b ∧ f.LogsInFor pending ∧ ∀ y ∈ b, ¬ y.HandsOff

/-- `x` is the last exchange of a session that forced a login, and nothing was handed off since. -/
structure ForcedLast (own a : List Exchange) (x : Exchange) (b : List Exchange)
    (pending : Request.Record) : Prop where
  split : own = a ++ x :: b
  forces : x.ForcesFor pending
  last : ∀ y ∈ b, ∀ other, ¬ y.ForcesFor other
  no_handoff : ∀ y ∈ x :: b, ¬ y.HandsOff

/-- The login that was forced last succeeded, and no other request that asks for a login had one
since it was forced. -/
structure Granted (own a : List Exchange) (x : Exchange) (b : List Exchange)
    (pending : Request.Record) : Prop extends ForcedLast own a x b pending where
  login : ∃ y ∈ x :: b, y.LogsInFor pending
  only : ∀ y ∈ x :: b, ∀ other, other.wantsLogin = true → y.LogsInFor other → other = pending

def AsksNothing (state : State) : Prop :=
  ∀ pending, state.pending = some pending → pending.wantsLogin = false

inductive MarkerState (own : List Exchange) (state : State) : Prop
  | clear (hm : state.loginForced = false) (hp : AsksNothing state)
  | waiting (hm : state.loginForced = true) (hp : state.pending = some pending)
      (hs : state.subject = none) (hx : ForcedLast own a x b pending)
      (hn : ∀ y ∈ x :: b, ∀ other, ¬ y.LogsInFor other)
  | granted (hm : state.loginForced = true) (hp : AsksNothing state)
    (hx : Granted own a x b pending)
  | spent (hm : state.loginForced = false) (hp : state.pending = some other)
      (hx : Granted own a x b pending)

/-- The same, behind the interception of an exchange that is not yet one of the session's. -/
inductive FoundMarker (own : List Exchange) (e : Exchange) : Prop
  | clear (hm : e.found.loginForced = false) (hp : AsksNothing e.found)
  | forced (hm : e.found.loginForced = true) (hs : e.found.subject = none)
    (hf : e.ForcesFor pending)
  | kept (hf : ∀ other, ¬ e.ForcesFor other) (hm : MarkerState own e.found)

variable {settings : Settings} {first service : Service} {own earlier later : List Exchange}
  {e : Exchange} {state : State} {pending : Request.Record}
  {request : Request} {client : Client} {parameters : Assoc String}

-- ---------------------------------------------------------------------------
-- Exchanges that change nothing of it
-- ---------------------------------------------------------------------------

theorem ForcedLast.append (h : ForcedLast own a x b pending) (hf : ∀ other, ¬ e.ForcesFor other)
    (hh : ¬ e.HandsOff) : ForcedLast (own ++ [e]) a x (b ++ [e]) pending where
  split := by simp [h.split]
  forces := h.forces
  last := by
    intro y hy
    rcases List.mem_append.mp hy with hy | hy
    · exact h.last y hy
    · rwa [List.mem_singleton.mp hy]
  no_handoff := by
    intro y hy
    rw [← List.cons_append] at hy
    rcases List.mem_append.mp hy with hy | hy
    · exact h.no_handoff y hy
    · rwa [List.mem_singleton.mp hy]

theorem Granted.append (h : Granted own a x b pending) (hf : ∀ other, ¬ e.ForcesFor other)
    (hh : ¬ e.HandsOff) (hl : ∀ other, other.wantsLogin = true → ¬ e.LogsInFor other) :
    Granted (own ++ [e]) a x (b ++ [e]) pending := by
  refine ⟨h.toForcedLast.append hf hh, ?_, ?_⟩
  · obtain ⟨y, hy, hlogin⟩ := h.login
    exact ⟨y, by rw [← List.cons_append]; exact List.mem_append_left _ hy, hlogin⟩
  · intro y hy other hw hlogin
    rw [← List.cons_append] at hy
    rcases List.mem_append.mp hy with hy | hy
    · exact h.only y hy other hw hlogin
    · rw [List.mem_singleton.mp hy] at hlogin
      exact absurd hlogin (hl other hw)

theorem ForcedLast.of_forced (hf : e.ForcesFor pending) (hh : ¬ e.HandsOff) :
    ForcedLast (own ++ [e]) own e [] pending where
  split := rfl
  forces := hf
  last := by simp
  no_handoff := by simpa using hh

-- ---------------------------------------------------------------------------
-- The interception
-- ---------------------------------------------------------------------------

theorem MarkerState.congr {s t : State} (h : MarkerState own s) (hm : t.loginForced = s.loginForced)
    (hp : t.pending = s.pending) (hs : t.subject = s.subject) : MarkerState own t := by
  have hasks : AsksNothing s → AsksNothing t := fun h => by rwa [AsksNothing, hp]
  cases h with
  | clear hm' hp' => exact .clear (hm.trans hm') (hasks hp')
  | waiting hm' hp' hs' hx hn => exact .waiting (hm.trans hm') (hp.trans hp') (hs.trans hs') hx hn
  | granted hm' hp' hx => exact .granted (hm.trans hm') (hasks hp') hx
  | spent hm' hp' hx => exact .spent (hm.trans hm') (hp.trans hp') hx

theorem MarkerState.idle_cases (h : MarkerState own state) (hp : state.pending = none) :
    state.loginForced = false ∨
      state.loginForced = true ∧ ∃ a x b pending, Granted own a x b pending := by
  cases h with
  | clear hm _ => exact .inl hm
  | waiting _ hp' _ _ _ => cases hp.symm.trans hp'
  | granted hm _ hx => exact .inr ⟨hm, _, _, _, _, hx⟩
  | spent _ hp' _ => cases hp.symm.trans hp'

theorem Exchange.TakesUp.forcesFor_iff (h : e.TakesUp settings request client parameters)
    (hp : e.found.pending = some request.toRecord) :
    e.ForcesFor pending ↔ pending = request.toRecord ∧ request.toRecord.wantsLogin = true ∧
      e.entered.loginForced = false := by
  constructor
  · rintro ⟨⟨clientId, hi⟩, hp'⟩
    have hv : (e.before.interceptor settings).verdict e.entered request client =
        .reauthenticate .prompt := by
      have hi' := h.decided.symm.trans hi
      simp only [Except.ok.injEq, Interception.decided.injEq] at hi'
      exact hi'.1
    exact ⟨Option.some.inj (hp'.symm.trans hp), Interceptor.verdict_eq_prompt_iff.mp hv⟩
  · rintro ⟨rfl, hw, hm⟩
    exact ⟨⟨_, by rw [h.decided, Interceptor.verdict_of_unforced hw hm]⟩, hp⟩

theorem MarkerState.found (h : MarkerState own e.entered) (hl : e.Lawful settings) :
    FoundMarker own e := by
  rcases hl.passes_or_takesUp with hpass | ⟨request, client, parameters, ht⟩
  · have hf : ∀ other, ¬ e.ForcesFor other := by
      rintro other ⟨⟨clientId, hi⟩, -⟩
      exact hpass.undecided _ _ hi
    refine .kept hf (h.congr ?_ ?_ ?_) <;> rw [hpass.found_eq]
  · cases hd : ((e.before.interceptor settings).verdict e.entered request client).isDenial with
    | true =>
      obtain ⟨hp, hm⟩ := ht.found_of_denial hd
      exact .clear hm fun pending hp' => by cases hp.symm.trans hp'
    | false =>
      have hp := (ht.keepsRequest hd).pending_eq
      have hm := ht.loginForced_eq hd
      have hforces (other : Request.Record) : e.ForcesFor other ↔ _ := ht.forcesFor_iff hp
      rw [Session.State.judged] at hm
      cases hw : request.toRecord.wantsLogin with
      | true =>
        rw [hw, if_pos rfl] at hm
        rcases h.idle_cases ht.idle with hclear | ⟨hset, a, x, b, pending, hx⟩
        · -- the first pass of a request: the marker is set and the subject forgotten
          refine .forced (by rw [hm, hclear]; rfl) ?_ ((hforces _).mpr ⟨rfl, hw, hclear⟩)
          rw [ht.found_eq, Interceptor.accepted, Interceptor.verdict_of_unforced hw hclear]
          rfl
        · refine .kept (fun other hf => ?_) (.spent (by rw [hm, hset]; rfl) hp hx)
          cases hset.symm.trans ((hforces other).mp hf).2.2
      | false =>
        have hnot (other : Request.Record) : ¬ e.ForcesFor other := fun hf => by
          cases hw.symm.trans ((hforces other).mp hf).2.1
        have hasks : AsksNothing e.found := fun other ho => by
          obtain rfl := Option.some.inj (hp.symm.trans ho)
          exact hw
        rw [hw, if_neg Bool.false_ne_true] at hm
        rcases h.idle_cases ht.idle with hclear | ⟨hset, a, x, b, pending, hx⟩
        · exact .kept hnot (.clear (hm.trans hclear) hasks)
        · exact .kept hnot (.granted (hm.trans hset) hasks hx)

-- ---------------------------------------------------------------------------
-- The end of an exchange
-- ---------------------------------------------------------------------------

/-- A login while a login is owed makes the marker good. -/
theorem FoundMarker.granted_of_login (h : FoundMarker own e) (hm : e.found.loginForced = true)
    (hl : e.LogsInFor pending) (hh : ¬ e.HandsOff) :
    ∃ a x b forced, Granted (own ++ [e]) a x b forced := by
  have honly (other : Request.Record) (ho : e.LogsInFor other) : other = pending :=
    Option.some.inj (ho.2.symm.trans hl.2)
  cases h with
  | clear hm' _ => cases hm.symm.trans hm'
  | forced _ _ hf =>
    obtain rfl := Option.some.inj (hf.2.symm.trans hl.2)
    refine ⟨own, e, [], _, .of_forced hf hh, ⟨e, List.mem_singleton_self e, hl⟩, ?_⟩
    intro y hy other _ ho
    rw [List.mem_singleton.mp hy] at ho
    exact honly other ho
  | kept hf hk =>
    cases hk with
    | clear hm' _ => cases hm.symm.trans hm'
    | spent hm' _ _ => cases hm.symm.trans hm'
    | @granted a x b forced _ hp hx =>
      refine ⟨a, x, b ++ [e], forced, hx.append hf hh fun other hw ho => ?_⟩
      cases hw.symm.trans (hp other ho.2)
    | @waiting forced a x b _ hp _ hx hn =>
      obtain rfl := Option.some.inj (hp.symm.trans hl.2)
      refine ⟨a, x, b ++ [e], _, hx.append hf hh, ⟨e, by simp, hl⟩, ?_⟩
      intro y hy other _ ho
      rw [← List.cons_append] at hy
      rcases List.mem_append.mp hy with hy | hy
      · exact absurd ho (hn y hy other)
      · rw [List.mem_singleton.mp hy] at ho
        exact honly other ho

theorem FoundMarker.stayed (h : FoundMarker own e) (hh : ¬ e.HandsOff)
    (hl : ∀ other, ¬ e.LogsInFor other) : MarkerState (own ++ [e]) e.found := by
  cases h with
  | clear hm hp => exact .clear hm hp
  | forced hm hs hf => exact .waiting hm hf.2 hs (.of_forced hf hh) (by simpa using hl)
  | kept hf hk =>
    cases hk with
    | clear hm hp => exact .clear hm hp
    | granted hm hp hx => exact .granted hm hp (hx.append hf hh fun other _ => hl other)
    | spent hm hp hx => exact .spent hm hp (hx.append hf hh fun other _ => hl other)
    | waiting hm hp hs hx hn =>
      refine .waiting hm hp hs (hx.append hf hh) fun y hy => ?_
      rw [← List.cons_append] at hy
      rcases List.mem_append.mp hy with hy | hy
      · exact hn y hy
      · rwa [List.mem_singleton.mp hy]

theorem FoundMarker.left (h : FoundMarker own e) (hl : e.Lawful settings) :
    MarkerState (own ++ [e]) e.left := by
  rcases hl.left_cases with hs | ⟨pending, hc⟩ | ⟨pending, user, hl⟩
  · rw [hs.left_eq]
    exact h.stayed hs.no_handoff hs.no_login
  · rw [hc.left_eq]
    exact .clear rfl fun pending hp => by cases hp
  · have hasks : AsksNothing e.left := fun other ho => by
      rw [hl.left_eq] at ho
      cases ho
    have hm : e.left.loginForced = e.found.loginForced := by
      rw [hl.left_eq]
      rfl
    cases hforced : e.found.loginForced with
    | false => exact .clear (hm.trans hforced) hasks
    | true =>
      obtain ⟨a, x, b, forced, hx⟩ := h.granted_of_login hforced hl.logsInFor hl.no_handoff
      exact .granted (hm.trans hforced) hasks hx

theorem Run.markerState (h : Run settings first earlier service) (hf : first.IsFresh)
    (sid : Session.Id) :
    MarkerState (ofSession sid earlier) (service.store.state sid) :=
  h.session_inv (motive := MarkerState) hf (.clear rfl fun _ hp => by cases hp)
    (fun _ _ _ _ hl hm => (hm.found hl).left hl) sid

-- ---------------------------------------------------------------------------
-- Hand-offs
-- ---------------------------------------------------------------------------

/-- A live session that waits for a login does not hand off. -/
theorem FoundMarker.granted_of_completes (h : FoundMarker own e)
    (hc : e.Completes settings pending) (hw : pending.wantsLogin = true) :
    ∃ a x b forced, Granted own a x b forced := by
  obtain ⟨subject, _, hsubject, -, -⟩ := (Session.Login.Clock.isLive_eq _ _).mp hc.live
  cases h with
  | clear _ hp => cases hw.symm.trans (hp pending hc.pending_eq)
  | forced _ hs _ => cases hs.symm.trans hsubject
  | kept _ hk =>
    cases hk with
    | clear _ hp => cases hw.symm.trans (hp pending hc.pending_eq)
    | granted _ hp _ => cases hw.symm.trans (hp pending hc.pending_eq)
    | waiting _ _ hs _ _ => cases hs.symm.trans hsubject
    | spent _ _ hx => exact ⟨_, _, _, _, hx⟩

theorem Granted.honoured_iff (h : Granted own a x b forced) (hw : pending.wantsLogin = true) :
    Honoured own pending ↔ pending = forced ∨ Honoured a pending := by
  have hsplit := h.split
  constructor
  · rintro ⟨a', f, b', hf, hlogin, hn⟩
    rcases List.append_eq_append_iff.mp (hsplit.symm.trans hf) with ⟨c, rfl, hc⟩ | ⟨c, rfl, hc⟩
    · exact .inl (h.only f (by rw [hc]; simp) pending hw hlogin)
    · cases c with
      | nil =>
        cases hc
        exact .inl (h.only x (List.mem_cons_self ..) pending hw hlogin)
      | cons g c =>
        cases hc
        exact .inr ⟨a', f, c, rfl, hlogin, fun y hy => hn y (List.mem_append_left _ hy)⟩
  · rintro (rfl | ⟨a', f, b', rfl, hlogin, hn⟩)
    · obtain ⟨y, hy, hlogin⟩ := h.login
      obtain ⟨c, d, hcd⟩ := List.append_of_mem hy
      refine ⟨a ++ c, y, d, by rw [hsplit, hcd, List.append_assoc], hlogin, fun z hz => ?_⟩
      exact h.no_handoff z (by rw [hcd]; simp [hz])
    · refine ⟨a', f, b' ++ x :: b, by simp [hsplit], hlogin, fun y hy => ?_⟩
      rcases List.mem_append.mp hy with hy | hy
      · exact hn y hy
      · exact h.no_handoff y hy

theorem handoffAnswer_demands (h : handoffAnswer pending state = .ok (.handoff handoff)) :
    handoff.forced = pending.prompts Request.loginToken ∧
      handoff.passive = pending.isPassive := by
  unfold handoffAnswer at h
  split at h
  · next made hmade =>
    cases h
    obtain ⟨scope, -, rfl⟩ := map_eq_ok.mp hmade
    exact ⟨rfl, rfl⟩
  · cases h

/-- A hand-off of a request that asks for a login rests on the last login that was forced: it
succeeded, and since it was forced nothing was handed off. Whether the request itself had a login
since the last hand-off is another matter: it had one exactly if the login was forced for it, or if
it had one already when the login was forced. -/
theorem forced_handoff_honoured_iff (hf : first.IsFresh)
    (h : Run settings first (earlier ++ e :: later) service)
    (ha : e.answer = .ok (.handoff handoff)) (hforced : handoff.forced = true)
    (hpassive : handoff.passive = false) :
    ∃ asked pending a x b, e.found.pending = some asked ∧
      ofSession e.sid earlier = a ++ x :: b ∧ x.ForcesFor pending ∧
      (∀ y ∈ b, ∀ other, ¬ y.ForcesFor other) ∧ (∀ y ∈ x :: b, ¬ y.HandsOff) ∧
      (∃ y ∈ x :: b, y.LogsInFor pending) ∧
      (Honoured (ofSession e.sid earlier) asked ↔ asked = pending ∨ Honoured a asked) := by
  have hl := h.lawful hf
  obtain ⟨asked, hc⟩ := hl.completes_of_handsOff ⟨handoff, ha⟩
  obtain ⟨hlogin, hnone⟩ := handoffAnswer_demands (hc.answer_eq.symm.trans ha)
  have hw : asked.wantsLogin = true := by
    rw [Request.Record.wantsLogin, ← hlogin, ← hnone, hforced, hpassive]
    rfl
  have hm := (h.before.1.markerState hf e.sid).found hl
  obtain ⟨a, x, b, pending, hx⟩ := hm.granted_of_completes hc hw
  exact ⟨asked, pending, a, x, b, hc.pending_eq, hx.split, hx.forces, hx.last, hx.no_handoff,
    hx.login, hx.honoured_iff hw⟩

-- A login is forced for one client, whose page is left, and the next client gets its fruits.
def abandonedSteps : List Step :=
  [.request (ask "client_id=web&prompt=login"), .request logIn]

def abandonedExchange : Exchange :=
  exchange {} (replay {} demo abandonedSteps).2 (ask "client_id=app&prompt=login")

theorem abandonedExchange_run :
    Run {} demo ((replay {} demo abandonedSteps).1 ++ [abandonedExchange])
      abandonedExchange.after :=
  .request (run_replay {} demo abandonedSteps) _

theorem abandonedExchange_answer :
    abandonedExchange.answer = .ok (.handoff (demoHandoff "app" 0 true)) :=
  eq_ok_of_toOption (by decide +kernel)

theorem abandonedExchange_honoured_iff :
    abandonedExchange.answer = .ok (.handoff (demoHandoff "app" 0 true)) ∧
    ∃ asked pending a x b, abandonedExchange.found.pending = some asked ∧
      ofSession abandonedExchange.sid (replay {} demo abandonedSteps).1 = a ++ x :: b ∧
      x.ForcesFor pending ∧ (∀ y ∈ b, ∀ other, ¬ y.ForcesFor other) ∧
      (∀ y ∈ x :: b, ¬ y.HandsOff) ∧ (∃ y ∈ x :: b, y.LogsInFor pending) ∧
      (Honoured (ofSession abandonedExchange.sid (replay {} demo abandonedSteps).1) asked ↔
        asked = pending ∨ Honoured a asked) :=
  ⟨abandonedExchange_answer,
    forced_handoff_honoured_iff demo_isFresh abandonedExchange_run abandonedExchange_answer rfl rfl⟩

/-- A request that asks for a login can be handed off without one of its own. -/
theorem forced_handoff_not_honoured :
    ¬ ∀ (first service : Service) (earlier later : List Exchange) (e : Exchange)
      (handoff : Handoff) (asked : Request.Record), first.IsFresh →
      Run {} first (earlier ++ e :: later) service → e.answer = .ok (.handoff handoff) →
      handoff.forced = true → handoff.passive = false → e.found.pending = some asked →
      Honoured (ofSession e.sid earlier) asked := by
  intro h
  have hsome : abandonedExchange.found.pending.isSome = true := by decide +kernel
  obtain ⟨asked, hasked⟩ := Option.isSome_iff_exists.mp hsome
  obtain ⟨a, f, b, hsplit, hlogin, -⟩ := h _ _ _ _ _ _ asked demo_isFresh abandonedExchange_run
    abandonedExchange_answer rfl rfl hasked
  have hother : ∀ y ∈ ofSession abandonedExchange.sid (replay {} demo abandonedSteps).1,
      y.found.pending ≠ abandonedExchange.found.pending := by decide +kernel
  exact hother f (by rw [hsplit]; simp) (hlogin.2.trans hasked.symm)

end SignOn.Service
