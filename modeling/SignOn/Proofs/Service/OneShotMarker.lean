import SignOn.Proofs.Service.Conservation
import SignOn.Proofs.Service.ForcedLogin

/-!
# The marker is good for one request

The marker that a login was forced excuses the next request that asks for a login. It is one bit, so
that an exchange spends at most what it was given (`Exchange.Lawful.marker_balance`), and over the
exchanges of a session no more requests are excused than logins were forced. Between the two there
is a login that succeeded, since nothing else frees a session whose login was forced
(`Thread.login_of_idle`). Both hold after every run (`marker_one_shot`).
-/

namespace SignOn

open Session (State)

-- ---------------------------------------------------------------------------
-- Requests that ask for a login
-- ---------------------------------------------------------------------------

theorem Request.Record.wantsLogin_of_isPassive {record : Request.Record}
    (h : record.isPassive = true) : record.wantsLogin = false := by
  rw [wantsLogin, h, Bool.not_true, Bool.and_false]

namespace Service

def Exchange.judgement? (e : Exchange) : Option Decision :=
  match e.interception with
  | .ok (.decided decision _) => some decision
  | _ => none

def Exchange.forced (e : Exchange) : Bool :=
  e.judgement? == some (.reauthenticate .prompt)

/-- The request asks for a login, and its prompt forces none. -/
def Exchange.excused (e : Exchange) : Bool :=
  e.judgement?.any (· != .reauthenticate .prompt) && e.found.pending.any (·.wantsLogin)

variable {settings : Settings} {first service : Service} {history own : List Exchange}
  {e x : Exchange} {s t : State} {pending : Request.Record} {request : Request} {client : Client}
  {parameters : Assoc String}

theorem Exchange.Passes.judgement?_eq (h : e.Passes) : e.judgement? = none := by
  unfold judgement?
  split
  · next hd => exact absurd hd (h.undecided _ _)
  · rfl

section
variable (h : e.TakesUp settings request client parameters)
include h

theorem Exchange.TakesUp.judgement?_eq :
    e.judgement? = some ((e.before.interceptor settings).verdict e.entered request client) := by
  rw [judgement?, h.decided]

theorem Exchange.TakesUp.forced_eq :
    e.forced = (request.toRecord.wantsLogin && !e.entered.loginForced) := by
  rw [Bool.eq_iff_iff, forced, h.judgement?_eq, beq_iff_eq, Option.some_inj,
    Interceptor.verdict_eq_prompt_iff, Bool.and_eq_true, Bool.not_eq_true']

theorem Exchange.TakesUp.excused_eq :
    e.excused = (request.toRecord.wantsLogin && e.entered.loginForced) := by
  have hforced := h.forced_eq
  rw [forced, h.judgement?_eq, Option.some_beq_some] at hforced
  rw [excused, h.judgement?_eq, Option.any_some, bne, hforced]
  cases hd : ((e.before.interceptor settings).verdict e.entered request client).isDenial with
  | true =>
    have hpassive := (Interceptor.verdict_isDenial_iff.mp hd).1
    rw [(h.found_of_denial hd).1, Request.Record.wantsLogin_of_isPassive hpassive]
    rfl
  | false =>
    rw [(h.keepsRequest hd).pending_eq, Option.any_some]
    cases request.toRecord.wantsLogin <;> cases e.entered.loginForced <;> rfl

end

-- ---------------------------------------------------------------------------
-- What an exchange spends
-- ---------------------------------------------------------------------------

theorem Exchange.Lawful.marker_found (h : e.Lawful settings) :
    e.excused.toNat + e.found.loginForced.toNat ≤
      e.forced.toNat + e.entered.loginForced.toNat := by
  rcases h.passes_or_takesUp with hpass | ⟨request, client, parameters, ht⟩
  · rw [forced, excused, hpass.judgement?_eq, hpass.found_eq]
    exact Nat.le_refl _
  · rw [ht.forced_eq, ht.excused_eq]
    cases hd : ((e.before.interceptor settings).verdict e.entered request client).isDenial with
    | true =>
      have hpassive := (Interceptor.verdict_isDenial_iff.mp hd).1
      rw [(ht.found_of_denial hd).2, Request.Record.wantsLogin_of_isPassive hpassive]
      exact Nat.zero_le _
    | false =>
      rw [ht.loginForced_eq hd, Session.State.judged]
      cases request.toRecord.wantsLogin <;> cases e.entered.loginForced <;> simp

/-- The end of an interaction clears the marker, and a login leaves it as it is. -/
theorem Exchange.Lawful.marker_left (h : e.Lawful settings) :
    e.left.loginForced.toNat ≤ e.found.loginForced.toNat := by
  rcases h.left_cases with hs | ⟨pending, hc⟩ | ⟨pending, user, hl⟩
  · rw [hs.left_eq]
  · rw [hc.left_eq]
    exact Nat.zero_le _
  · rw [hl.left_eq]
    exact Nat.le_refl _

/-- Who is excused has the marker, and only a forced login gives one. -/
theorem Exchange.Lawful.marker_balance (h : e.Lawful settings) :
    e.excused.toNat + e.left.loginForced.toNat ≤
      e.forced.toNat + e.entered.loginForced.toNat :=
  Nat.le_trans (Nat.add_le_add_left h.marker_left _) h.marker_found

-- ---------------------------------------------------------------------------
-- What the exchanges of a session spend
-- ---------------------------------------------------------------------------

theorem Thread.marker_balance (h : Thread settings s own t) :
    own.countP (·.excused) + t.loginForced.toNat ≤
      own.countP (·.forced) + s.loginForced.toNat := by
  induction h with
  | nil => simp
  | @cons rest t e hl _ ih =>
    have hstep := hl.marker_balance
    have hone (b : Bool) : (if b = true then 1 else 0) = b.toNat := by cases b <;> rfl
    rw [List.countP_cons, List.countP_cons, hone, hone]
    omega

/-- Where a marker comes from: a login was forced, and it was neither spent nor renewed since. -/
theorem Thread.forced_of_marker (h : Thread settings s own t) (hs : s.loginForced = false)
    (ht : t.loginForced = true) :
    ∃ a x b, own = a ++ x :: b ∧ x.forced = true ∧
      ∀ w ∈ b, w.forced = false ∧ w.excused = false := by
  induction own using List.reverseRecOn generalizing t with
  | nil =>
    cases h
    cases hs.symm.trans ht
  | append_singleton own e ih =>
    obtain ⟨middle, hown, hlast⟩ := h.split
    cases hlast with
    | cons hl hnil =>
      obtain rfl := hnil.eq_of_nil
      cases hforced : e.forced with
      | true => exact ⟨own, e, [], rfl, hforced, by simp⟩
      | false =>
        have hstep := hl.marker_balance
        rw [hforced, ht] at hstep
        have hentered : e.entered.loginForced = true := by
          cases hm : e.entered.loginForced <;> simp [hm] at hstep ⊢
        have hexcused : e.excused = false := by
          cases hm : e.excused <;> simp [hm, hentered] at hstep ⊢
        obtain ⟨a, x, b, rfl, hx, hb⟩ := ih hown hentered
        refine ⟨a, x, b ++ [e], by simp, hx, ?_⟩
        simpa [or_imp, forall_and, hforced, hexcused] using hb

-- ---------------------------------------------------------------------------
-- Sessions that wait for a login
-- ---------------------------------------------------------------------------

/-- A session whose pending request has to get a login first. -/
structure Waits (state : State) (pending : Request.Record) : Prop where
  pending_eq : state.pending = some pending
  subject_eq : state.subject = none

theorem Exchange.Lawful.waits_or_login (h : e.Lawful settings) (hw : Waits e.found pending) :
    e.left = e.found ∨ e.LogsInFor pending := by
  rcases h.left_cases with hs | ⟨other, hc⟩ | ⟨other, user, hl⟩
  · exact .inl hs.left_eq
  · obtain ⟨subject, _, hsubject, -, -⟩ := (Session.Login.Clock.isLive_eq _ _).mp hc.live
    cases hw.subject_eq.symm.trans hsubject
  · obtain rfl : other = pending := Option.some.inj (hl.pending_eq.symm.trans hw.pending_eq)
    exact .inr hl.logsInFor

theorem Thread.login_of_idle (h : Thread settings s own t) (hw : Waits s pending)
    (ht : t.pending = none) : ∃ z ∈ own, z.LogsInFor pending := by
  induction h with
  | nil => cases hw.pending_eq.symm.trans ht
  | @cons rest t e hl _ ih =>
    have hfound := hl.found_of_pending (by simp [hw.pending_eq])
    rcases hl.waits_or_login (hfound ▸ hw) with hleft | hlogin
    · obtain ⟨z, hz, hlogin⟩ := ih (hleft ▸ hfound ▸ hw) ht
      exact ⟨z, List.mem_cons_of_mem _ hz, hlogin⟩
    · exact ⟨e, List.mem_cons_self .., hlogin⟩

theorem Exchange.Lawful.waits_of_forced (h : e.Lawful settings) (hf : e.forced = true) :
    ∃ pending, Waits e.found pending := by
  rcases h.passes_or_takesUp with hpass | ⟨request, client, parameters, ht⟩
  · rw [forced, hpass.judgement?_eq] at hf
    cases hf
  · have hv : (e.before.interceptor settings).verdict e.entered request client =
        .reauthenticate .prompt := by
      rw [forced, ht.judgement?_eq, beq_iff_eq] at hf
      exact Option.some.inj hf
    refine ⟨request.toRecord, (ht.keepsRequest (by rw [hv]; rfl)).pending_eq, ?_⟩
    rw [ht.found_eq, Interceptor.accepted, hv]
    rfl

theorem Exchange.Lawful.idle_of_excused (h : e.Lawful settings) (hx : e.excused = true) :
    e.entered.pending = none ∧ e.entered.loginForced = true := by
  rcases h.passes_or_takesUp with hpass | ⟨request, client, parameters, ht⟩
  · rw [excused, hpass.judgement?_eq] at hx
    cases hx
  · rw [ht.excused_eq, Bool.and_eq_true] at hx
    exact ⟨ht.idle, hx.2⟩

/-- A session is idle again after a forced login only if the login succeeded. -/
theorem Thread.login_between (h : Thread settings s (x :: own) t) (hf : x.forced = true)
    (ht : t.pending = none) :
    ∃ pending, x.found.pending = some pending ∧ ∃ z ∈ x :: own, z.LogsInFor pending := by
  cases h with
  | cons hl hrest =>
    obtain ⟨pending, hw⟩ := hl.waits_of_forced hf
    refine ⟨pending, hw.pending_eq, ?_⟩
    rcases hl.waits_or_login hw with hleft | hlogin
    · obtain ⟨z, hz, hlogin⟩ := hrest.login_of_idle (hleft ▸ hw) ht
      exact ⟨z, List.mem_cons_of_mem _ hz, hlogin⟩
    · exact ⟨x, List.mem_cons_self .., hlogin⟩

-- ---------------------------------------------------------------------------
-- Runs
-- ---------------------------------------------------------------------------

/-- The marker of a session is a token for one request. -/
structure OneShot (own : List Exchange) (state : State) : Prop where
  balance : own.countP (·.excused) + state.loginForced.toNat ≤ own.countP (·.forced)
  /-- Whoever is excused has a forced login that excused nobody before. -/
  origin : ∀ earlier y later, own = earlier ++ y :: later → y.excused = true →
    ∃ a x b, earlier = a ++ x :: b ∧ x.forced = true ∧
      ∀ w ∈ b, w.forced = false ∧ w.excused = false
  /-- Between a forced login and a request that is excused later the login succeeded. -/
  login : ∀ a x b y later, own = a ++ x :: (b ++ y :: later) → x.forced = true →
    y.excused = true →
    ∃ pending, x.found.pending = some pending ∧ ∃ z ∈ x :: b, z.LogsInFor pending

/-- After every run the marker of every session is a token for one request. -/
theorem marker_one_shot (hf : first.IsFresh) (h : Run settings first history service)
    (sid : Session.Id) : OneShot (ofSession sid history) (service.store.state sid) where
  balance := (h.thread hf sid).marker_balance
  origin := by
    intro earlier y later hown hy
    have hthread := h.thread hf sid
    rw [hown] at hthread
    obtain ⟨middle, hearlier, hrest⟩ := hthread.split
    cases hrest with
    | cons hl _ => exact hearlier.forced_of_marker rfl (hl.idle_of_excused hy).2
  login := by
    intro a x b y later hown hx hy
    have hthread := h.thread hf sid
    rw [hown] at hthread
    obtain ⟨_, -, hx'⟩ := hthread.split
    rw [← List.cons_append] at hx'
    obtain ⟨_, hbetween, hrest⟩ := hx'.split
    cases hrest with
    | cons hl _ => exact hbetween.login_between hx (hl.idle_of_excused hy).1

theorem abandonedExchange_one_shot :
    abandonedExchange.excused = true ∧
    (ofSession "s" (replay {} demo abandonedSteps).1).countP (·.forced) = 1 ∧
    OneShot (ofSession "s" ((replay {} demo abandonedSteps).1 ++ [abandonedExchange]))
      (abandonedExchange.after.store.state "s") :=
  ⟨by decide +kernel, by decide +kernel, marker_one_shot demo_isFresh abandonedExchange_run "s"⟩

end Service

end SignOn
