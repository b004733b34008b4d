import SignOn.Proofs.Service.LeftPending
import SignOn.Proofs.Service.OneShotMarker

/-!
# Requests that have spent the marker

A request that asks for a login and gets the login page has the marker, so that the login it waits
for is the last one it needs. That fails for a request that was excused when it was taken up: it
has spent the marker. If the last login was too old for it, or runs out before it is completed, the
request is sent to the login page all the same (`Spent`), and when it comes back from there another
login is forced (`marker_clear_iff_spent`).
-/

namespace SignOn.Service

open Session (State)

variable {settings : Settings} {first service : Service} {history own a b c : List Exchange}
  {e x y z : Exchange} {s t : State} {pending : Request.Record} {request : Request}
  {client : Client} {parameters : Assoc String} {sid : Session.Id} {clock : Session.Login.Clock}

-- ---------------------------------------------------------------------------
-- Logins behind the marker
-- ---------------------------------------------------------------------------

/-- An idle session that has the marker has a login, live or not. -/
def LoginKnown (state : State) : Prop :=
  state.pending = none → state.loginForced = true →
    ∃ subject login, state.subject = some subject ∧ state.loginTime = some login

theorem Exchange.Lawful.loginKnown (h : e.Lawful settings) (hk : LoginKnown e.entered) :
    LoginKnown e.left := by
  intro hp hm
  rcases h.left_cases with hs | ⟨pending, hc⟩ | ⟨pending, user, hl⟩
  · rw [hs.left_eq] at hp hm ⊢
    rcases h.passes_or_takesUp with hpass | ⟨request, client, parameters, ht⟩
    · rw [hpass.found_eq] at hp hm ⊢
      exact hk hp hm
    · cases hd : ((e.before.interceptor settings).verdict e.entered request client).isDenial with
      | true => cases hm.symm.trans (ht.found_of_denial hd).2
      | false => cases hp.symm.trans (ht.keepsRequest hd).pending_eq
  · rw [hc.left_eq] at hm
    cases hm
  · rw [hl.left_eq]
    exact ⟨user.username, e.before.now, rfl, rfl⟩

theorem Thread.loginKnown (h : Thread settings s own t) (hs : LoginKnown s) : LoginKnown t := by
  induction h with
  | nil => exact hs
  | cons hl _ ih => exact ih (hl.loginKnown hs)

/-- An excused request proceeds with the login of its session, unless that is too old for it. -/
theorem Exchange.TakesUp.aged_or_proceeds (h : e.TakesUp settings request client parameters)
    (hx : e.excused = true) :
    e.judgement? = some (.reauthenticate .age) ∨ e.found.subject = e.entered.subject := by
  rw [h.excused_eq, Bool.and_eq_true] at hx
  have hactive : request.toRecord.isPassive = false := by
    cases hpassive : request.toRecord.isPassive with
    | false => rfl
    | true => cases (Request.Record.wantsLogin_of_isPassive hpassive).symm.trans hx.1
  have hmarked : ¬ (request.toRecord.wantsLogin = true ∧ e.entered.loginForced = false) := by
    simp [hx.2]
  have hv : (e.before.interceptor settings).verdict e.entered request client = .proceed ∨
      (e.before.interceptor settings).verdict e.entered request client = .reauthenticate .age :=
    Interceptor.verdict_of_aged hactive hmarked
  rcases hv with hv | hv
  · right
    rw [h.found_eq, Interceptor.accepted, hv]
    rfl
  · exact .inl (h.judgement?_eq.trans (congrArg some hv))

-- ---------------------------------------------------------------------------
-- Requests that come back
-- ---------------------------------------------------------------------------

/-- A request stays pending until the login `y`, and `z` is the next exchange after it that takes a
request up, and it takes up the same one. -/
structure Reenters (a : List Exchange) (y : Exchange) (b : List Exchange) (z : Exchange)
    (pending : Request.Record) : Prop where
  stands : ∀ w ∈ a, w.left.pending ≠ none
  login : y.LogsInFor pending
  passes : ∀ w ∈ b, w.judgement? = none
  idle : z.entered.pending = none
  again : z.found.pending = some pending

theorem Thread.end_of_stands (h : Thread settings s own t) (hp : s.pending ≠ none)
    (hown : ∀ w ∈ own, w.left.pending ≠ none) : t = s := by
  induction h with
  | nil => rfl
  | @cons rest t e hl _ ih =>
    have hleft : e.left = e.entered :=
      (hl.stays_of_pending (hown e (List.mem_cons_self ..))).left_eq.trans (hl.found_of_pending hp)
    rw [hleft] at ih
    exact ih hp fun w hw => hown w (List.mem_cons_of_mem _ hw)

theorem Thread.marker_of_passes (h : Thread settings s own t) (hp : s.pending = none)
    (hown : ∀ w ∈ own, w.judgement? = none) : t.loginForced = s.loginForced := by
  induction h with
  | nil => rfl
  | @cons rest t e hl _ ih =>
    have hfound : e.found.pending = none ∧ e.found.loginForced = e.entered.loginForced := by
      rcases hl.passes_or_takesUp with hpass | ⟨request, client, parameters, ht⟩
      · rw [hpass.found_eq]
        exact ⟨hp, rfl⟩
      · cases ht.judgement?_eq.symm.trans (hown e (List.mem_cons_self ..))
    have hleft : e.left = e.found := by
      rcases hl.left_cases with hs | ⟨pending, hc⟩ | ⟨pending, user, hlogin⟩
      · exact hs.left_eq
      · cases hfound.1.symm.trans hc.pending_eq
      · cases hfound.1.symm.trans hlogin.pending_eq
    rw [← hfound.2, ← hleft]
    exact ih (hleft ▸ hfound.1) fun w hw => hown w (List.mem_cons_of_mem _ hw)

theorem Exchange.Lawful.left_of_login (h : e.Lawful settings) (hlogin : e.LogsInFor pending) :
    e.left.pending = none ∧ e.left.loginForced = e.found.loginForced := by
  rcases h.left_cases with hs | ⟨other, hc⟩ | ⟨other, user, hl⟩
  · exact absurd hlogin (hs.no_login pending)
  · exact absurd hlogin (hc.no_login pending)
  · rw [hl.left_eq]
    exact ⟨rfl, rfl⟩

/-- A request is forced again when it comes back, unless it had the marker when it left. -/
theorem Thread.forced_again_iff (h : Thread settings s (a ++ y :: (b ++ z :: c)) t)
    (hr : Reenters a y b z pending) (hp : s.pending = some pending)
    (hw : pending.wantsLogin = true) : z.forced = true ↔ s.loginForced = false := by
  obtain ⟨middle, ha, hlater⟩ := h.split
  have hsome : s.pending ≠ none := by simp [hp]
  obtain rfl := ha.end_of_stands hsome hr.stands
  cases hlater with
  | cons hy hlater =>
    obtain ⟨hnone, hmarker⟩ := hy.left_of_login hr.login
    rw [hy.found_of_pending hsome] at hmarker
    obtain ⟨middle, hb, hlater⟩ := hlater.split
    have hkept := hb.marker_of_passes hnone hr.passes
    cases hlater with
    | cons hz _ =>
      rcases hz.passes_or_takesUp with hpass | ⟨request, client, parameters, ht⟩
      · have hagain := hr.again
        rw [hpass.found_eq] at hagain
        cases hr.idle.symm.trans hagain
      · have hd := ht.not_denied (by simp [hr.again])
        obtain rfl := Option.some.inj (hr.again.symm.trans (ht.keepsRequest hd).pending_eq)
        rw [ht.forced_eq, hw, Bool.true_and, hkept, hmarker, Bool.not_eq_true']

-- ---------------------------------------------------------------------------
-- Requests that wait without the marker
-- ---------------------------------------------------------------------------

/-- The pending request was excused when `x` took it up, and is not completed: the last login was
too old for it, or has run out since. -/
structure Spent (settings : Settings) (own : List Exchange) (clock : Session.Login.Clock)
    (state : State) (x : Exchange) : Prop where
  stands : ∃ request client, StandsSince settings own state x request client
  excused : x.excused = true
  due : x.judgement? = some (.reauthenticate .age) ∨
    ∃ login, state.loginTime = some login ∧ clock.isExpired login = true

theorem StandsSince.marker_eq (h : StandsSince settings own s x request client)
    (hp : s.pending = some pending) (hw : pending.wantsLogin = true) :
    s.loginForced = !x.excused := by
  obtain ⟨earlier, later, parameters, -, -, ht, hpending, rfl, -⟩ := h
  obtain rfl := Option.some.inj (hp.symm.trans hpending)
  rw [ht.loginForced_eq (ht.not_denied (by simp [hp])), Session.State.judged, if_pos hw,
    ht.excused_eq, hw, Bool.true_and]

theorem StandsSince.due (h : StandsSince settings own s x request client)
    (hthread : Thread settings {} own s) (hx : x.excused = true)
    (hdead : clock.isLive s = false) :
    x.judgement? = some (.reauthenticate .age) ∨
      ∃ login, s.loginTime = some login ∧ clock.isExpired login = true := by
  obtain ⟨earlier, later, parameters, rfl, hl, ht, -, rfl, -⟩ := h
  obtain ⟨middle, hearlier, hlater⟩ := hthread.split
  have hknown := hearlier.loginKnown fun _ hm => by cases hm
  cases hlater with
  | cons _ _ =>
    obtain ⟨hidle, hm⟩ := hl.idle_of_excused hx
    obtain ⟨subject, login, hsubject, hlogin⟩ := hknown hidle hm
    refine (ht.aged_or_proceeds hx).imp_right fun hkept => ⟨login, ?_, ?_⟩
    · rw [ht.loginTime_eq, hlogin]
    · rw [← Bool.not_eq_false]
      refine fun hfresh => Bool.false_ne_true (hdead.symm.trans ?_)
      exact (Session.Login.Clock.isLive_eq ..).mpr
        ⟨subject, login, hkept.trans hsubject, by rw [ht.loginTime_eq, hlogin], hfresh⟩

/-- A pending request that asks for a login, in a session without a live one, has the marker unless
it has spent it. With the marker it comes back from its next login without being forced to another
one; without, it is forced again. -/
theorem marker_clear_iff_spent (hf : first.IsFresh) (h : Run settings first history service)
    (hp : (service.store.state sid).pending = some pending) (hw : pending.wantsLogin = true)
    (hdead : (service.clock settings).isLive (service.store.state sid) = false) :
    ((service.store.state sid).loginForced = false ↔
      ∃ x, Spent settings (ofSession sid history) (service.clock settings)
        (service.store.state sid) x) ∧
    ∀ more after a y b z c, Run settings first (history ++ more) after →
      ofSession sid more = a ++ y :: (b ++ z :: c) → Reenters a y b z pending →
        (z.forced = true ↔ (service.store.state sid).loginForced = false) := by
  have hthread := h.thread hf sid
  refine ⟨⟨fun hm => ?_, ?_⟩, ?_⟩
  · obtain ⟨x, request, client, hx⟩ := h.pending_since hf sid (by simp [hp])
    have hexcused : x.excused = true := by
      rw [hx.marker_eq hp hw] at hm
      simpa using hm
    exact ⟨x, ⟨request, client, hx⟩, hexcused, hx.due hthread hexcused hdead⟩
  · rintro ⟨x, ⟨request, client, hx⟩, hexcused, -⟩
    rw [hx.marker_eq hp hw, hexcused]
    rfl
  · intro more after a y b z c hmore hown hr
    have hlonger := hmore.thread hf sid
    rw [ofSession_append, hown] at hlonger
    obtain ⟨middle, hhistory, hlater⟩ := hlonger.split
    obtain rfl := hhistory.end_unique hthread
    exact hlater.forced_again_iff hr hp hw

-- A login is forced by the prompt, and when it is too old for the request a minute later, by its
-- age. The request is then on the login page without the marker.
def spentQuery : String := "client_id=web&prompt=login&max_age=60"

def spentSteps : List Step :=
  [.request (ask spentQuery), .request logIn, .clock ⟨61000000⟩, .request (ask spentQuery)]

def spentState : State := (replay {} demo spentSteps).2.store.state "s"

theorem spentState_waits :
    spentState.pending.any (·.wantsLogin) = true ∧
      ((replay {} demo spentSteps).2.clock {}).isLive spentState = false ∧
      spentState.loginForced = false := by
  decide +kernel

theorem spentState_pending :
    ∃ pending, spentState.pending = some pending ∧ pending.wantsLogin = true := by
  simpa [Option.any_eq_true] using spentState_waits.1

-- The login that follows, and the way back from it.
def spentLogin : Exchange := exchange {} (replay {} demo spentSteps).2 logIn

def spentReturn : Exchange := exchange {} spentLogin.after (ask spentQuery)

theorem spentLogin_answer :
    spentLogin.answer =
      .ok (.reentry [("client_id", "web"), ("prompt", "login"), ("max_age", "60")]) :=
  eq_ok_of_toOption (by decide +kernel)

theorem spentReturn_found :
    spentLogin.found.pending = spentState.pending ∧ spentReturn.entered.pending = none ∧
      spentReturn.found.pending = spentState.pending ∧ spentReturn.forced = true := by
  decide +kernel

theorem spentReturn_reenters (h : spentState.pending = some pending) :
    Reenters [] spentLogin [] spentReturn pending := by
  obtain ⟨hlogin, hidle, hagain, -⟩ := spentReturn_found
  exact ⟨by simp, ⟨⟨_, spentLogin_answer⟩, hlogin.trans h⟩, by simp, hidle, hagain.trans h⟩

theorem spentState_marker_clear_iff :
    spentReturn.forced = true ∧
    ∃ pending, spentState.pending = some pending ∧ pending.wantsLogin = true ∧
      ((replay {} demo spentSteps).2.clock {}).isLive spentState = false ∧
      Reenters [] spentLogin [] spentReturn pending ∧
      (spentState.loginForced = false ↔
        ∃ x, Spent {} (ofSession "s" (replay {} demo spentSteps).1)
          ((replay {} demo spentSteps).2.clock {}) spentState x) ∧
      ∀ more after a y b z c, Run {} demo ((replay {} demo spentSteps).1 ++ more) after →
        ofSession "s" more = a ++ y :: (b ++ z :: c) → Reenters a y b z pending →
          (z.forced = true ↔ spentState.loginForced = false) := by
  obtain ⟨pending, hp, hw⟩ := spentState_pending
  exact ⟨spentReturn_found.2.2.2, pending, hp, hw, spentState_waits.2.1, spentReturn_reenters hp,
    marker_clear_iff_spent demo_isFresh (run_replay {} demo spentSteps) hp hw
      spentState_waits.2.1⟩

/-- A request that asks for a login can wait for one without the marker. -/
theorem login_form_without_marker :
    ¬ ∀ (first service : Service) (history : List Exchange) (sid : Session.Id)
      (pending : Request.Record), first.IsFresh → Run {} first history service →
      (service.store.state sid).pending = some pending → pending.wantsLogin = true →
      (service.clock {}).isLive (service.store.state sid) = false →
      (service.store.state sid).loginForced = true := by
  intro h
  obtain ⟨pending, hp, hw⟩ := spentState_pending
  have hset : spentState.loginForced = true := h _ _ _ "s" pending demo_isFresh
    (run_replay {} demo spentSteps) hp hw spentState_waits.2.1
  cases spentState_waits.2.2.symm.trans hset

end SignOn.Service
