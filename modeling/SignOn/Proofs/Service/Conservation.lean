import Mathlib.Data.Finset.Card
import SignOn.Proofs.Service.SessionSteps

/-!
# What was accepted is accounted for

The log has an entry for every request that is accepted and one for every way in which its
interaction ends: a denial, a login or a hand-off. What is neither is still pending in a session. An
exchange keeps this balance for its session (`Exchange.Lawful.balanced`), and so does a run for all
sessions together and for each of them alone (`interactions_conserved`).
-/

namespace SignOn

-- ---------------------------------------------------------------------------
-- Sessions with a pending request
-- ---------------------------------------------------------------------------

namespace Session

def Sessions.ids : Sessions → List Id
  | .memory states => states.keys
  | .table rows => rows.keys

def Store.waiting (store : Store) : Finset Id :=
  store.sessions.ids.toFinset.filter fun sid => (store.state sid).pending.isSome

/-- How many pending requests a state holds. -/
def State.held (state : State) : Nat :=
  state.pending.isSome.toNat

section
variable {store store' : Store} {sid : Id} {state : State}

theorem Store.state_of_not_mem (h : sid ∉ store.sessions.ids) : store.state sid = {} := by
  unfold Store.state
  cases hs : store.sessions with
  | memory states =>
    rw [hs] at h
    rw [Sessions.read, Assoc.get?_of_not_mem h]
    rfl
  | table rows =>
    rw [hs] at h
    rw [Sessions.read, Assoc.get?_of_not_mem h]
    rfl

theorem Store.mem_waiting : sid ∈ store.waiting ↔ (store.state sid).pending.isSome = true := by
  rw [waiting, Finset.mem_filter, List.mem_toFinset, and_iff_right_iff_imp]
  intro hp
  by_contra hn
  rw [state_of_not_mem hn] at hp
  cases hp

theorem Store.card_erase_waiting (store : Store) (sid : Id) :
    (store.waiting.erase sid).card + (store.state sid).held = store.waiting.card := by
  rw [State.held]
  cases hp : (store.state sid).pending.isSome with
  | true => exact Finset.card_erase_add_one (mem_waiting.mpr hp)
  | false =>
    rw [Finset.erase_eq_of_notMem (by simp [mem_waiting, hp])]
    rfl

theorem Store.Updated.card_waiting (h : store.Updated store' sid state) :
    store'.waiting.card + (store.state sid).held = store.waiting.card + state.held := by
  have hothers : store'.waiting.erase sid = store.waiting.erase sid := by
    ext other
    rw [Finset.mem_erase, Finset.mem_erase, mem_waiting, mem_waiting]
    refine and_congr_right fun ho => ?_
    rw [h.frame other ho]
  have hbefore := store.card_erase_waiting sid
  have hafter := store'.card_erase_waiting sid
  rw [hothers, h.state_eq] at hafter
  omega

end

end Session

-- ---------------------------------------------------------------------------
-- Counting entries
-- ---------------------------------------------------------------------------

namespace Audit

def occurrences (event : Event) (log : Log) : Nat :=
  log.countP (·.event == event.name)

/-- How many interactions a log says were begun. -/
def begun (log : Log) : Nat :=
  occurrences .requestAccepted log

/-- How many it says were ended: by a denial, by a login or by a hand-off. -/
def concluded (log : Log) : Nat :=
  occurrences .passiveDenied log + occurrences .loginSucceeded log + occurrences .completed log

section
variable {event other : Event} {log later : Log}

theorem occurrences_append :
    occurrences event (log ++ later) = occurrences event log + occurrences event later :=
  List.countP_append ..

theorem occurrences_of_others (h : ∀ entry ∈ log, entry.event = other.name)
    (hn : other.name ≠ event.name) : occurrences event log = 0 := by
  rw [occurrences, List.countP_eq_zero]
  intro entry hentry
  simpa [h entry hentry] using hn

theorem occurrences_flatMap_pos_iff {l : List α} {f : α → Log} :
    0 < occurrences event (l.flatMap f) ↔ ∃ a ∈ l, 0 < occurrences event (f a) := by
  simp only [occurrences, List.countP_pos_iff, List.mem_flatMap]
  constructor
  · rintro ⟨entry, ⟨a, ha, hentry⟩, he⟩
    exact ⟨a, ha, entry, hentry, he⟩
  · rintro ⟨a, ha, entry, hentry, he⟩
    exact ⟨entry, ⟨a, ha, hentry⟩, he⟩

theorem begun_append : begun (log ++ later) = begun log + begun later :=
  occurrences_append

theorem concluded_append : concluded (log ++ later) = concluded log + concluded later := by
  simp only [concluded, occurrences_append]
  omega

end

end Audit

namespace Service

open Session (State)
open Audit (begun concluded occurrences)

-- ---------------------------------------------------------------------------
-- The balance of an exchange
-- ---------------------------------------------------------------------------

/-- What some entries begun they concluded, up to what is pending now and was not before. -/
def Balanced (entries : Audit.Log) (s t : State) : Prop :=
  begun entries + s.held = concluded entries + t.held

def Exchange.logged (e : Exchange) : Audit.Log :=
  e.after.database.audit.drop e.before.database.audit.length

section
variable {settings : Settings} {entries later : Audit.Log} {s t u state found left : State}
  {request : Http.Request}

theorem Balanced.refl (s : State) : Balanced [] s s :=
  rfl

theorem Balanced.trans (h : Balanced entries s t) (h' : Balanced later t u) :
    Balanced (entries ++ later) s u := by
  unfold Balanced at *
  rw [Audit.begun_append, Audit.concluded_append]
  omega

theorem Intercepted.balanced {interceptor : Interceptor} {result : Except Failure Interception}
    (h : Intercepted interceptor takes request state result found) (now : Instant)
    (ip : Option String) : Balanced (interceptionLog now ip result) state found := by
  cases h with
  | unreadAddress hpath => exact .refl _
  | unreadParameters hpath hc hparameters => exact .refl _
  | read hpath hparameters ho =>
    cases ho with
    | unconcerned hc => exact .refl _
    | resumed hc hp => exact .refl _
    | rejected hc hp hr clientId => rfl
    | failed hc hp hr => exact .refl _
    | refused hc hp hr ht => rfl
    | @decided http client hc hp hr ht =>
      -- a denial is logged as well, and leaves nothing pending
      rw [Interceptor.accepted]
      cases interceptor.verdict state http client <;> simp [Balanced, State.held, hp] <;> rfl

theorem Served.balanced {clock : Session.Login.Clock} {hasher : Hasher} {users : List User}
    {result : Except Failure Answer}
    (h : Served settings clock hasher users request state result left entries) :
    Balanced entries state left := by
  cases h with
  | kept hr hn ha hlog =>
    have hnone (event : Audit.Event) (h : Audit.Event.loginFailed.name ≠ event.name) :
        occurrences event entries = 0 := Audit.occurrences_of_others hlog h
    simp only [Balanced, begun, concluded]
    rw [hnone _ (by decide), hnone _ (by decide), hnone _ (by decide), hnone _ (by decide)]
  | shown hr hp hl => exact .refl _
  | completed hr hp hl =>
    simp only [Balanced, State.held, hp]
    rfl
  | loggedIn hr hp hu =>
    simp only [Balanced, State.held, hp]
    rfl

theorem Answered.balanced {clock : Session.Login.Clock} {hasher : Hasher} {users : List User}
    {interception : Except Failure Interception} {result : Except Failure Answer}
    (h : Answered settings clock hasher users request found interception result left entries) :
    Balanced entries found left := by
  cases h with
  | failed cause => exact .refl _
  | stopped hs => exact .refl _
  | served hs hv => exact hv.balanced

end

section
variable {settings : Settings} {e : Exchange}

theorem Moved.logged_eq {entries : Audit.Log}
    (h : e.before.Moved e.after e.sid e.left entries) : e.logged = entries := by
  rw [Exchange.logged, h.audit, List.drop_left]

theorem Exchange.Lawful.balanced (h : e.Lawful settings) :
    Balanced e.logged e.entered e.left := by
  obtain ⟨entries, ha, hm⟩ := h.answered
  rw [hm.logged_eq]
  exact (h.intercepted.balanced _ _).trans ha.balanced

theorem Exchange.Lawful.completed_logged (h : e.Lawful settings) (hh : e.HandsOff) :
    0 < occurrences .completed e.logged := by
  obtain ⟨entries, ha, hm⟩ := h.answered
  obtain ⟨handoff, hans⟩ := hh
  rw [hm.logged_eq, Audit.occurrences_append]
  refine Nat.lt_of_lt_of_le ?_ (Nat.le_add_left ..)
  generalize e.interception = interception at ha
  generalize e.answer = result at ha hans
  generalize e.left = left at ha
  cases ha with
  | failed cause => cases hans
  | stopped hs =>
    cases hans
    obtain ⟨decision, -, hd⟩ := Option.bind_eq_some_iff.mp hs
    cases ofDecision?_movesInteraction hd
  | served hs hv =>
    cases hv with
    | kept hr hn hplain hlog => cases hplain _ hans
    | shown hr hp hl => cases hans
    | completed hr hp hl => exact Nat.one_pos
    | loggedIn hr hp hu => cases hans

/-- A pending request that is gone after an exchange was ended in the log. -/
theorem Exchange.Lawful.pending_kept_or_concluded (h : e.Lawful settings)
    (hp : e.entered.pending ≠ none) :
    e.left.pending = e.entered.pending ∨ 0 < concluded e.logged := by
  by_cases hleft : e.left.pending = none
  · have hb := h.balanced
    simp only [Balanced, State.held, hleft, Option.isSome_iff_ne_none.mpr hp] at hb
    exact .inr (by simp only [Bool.toNat_true, Option.isSome_none, Bool.toNat_false] at hb; omega)
  · left
    rw [(h.stays_of_pending hleft).left_eq, h.found_of_pending hp]

end

-- ---------------------------------------------------------------------------
-- The balance of a run
-- ---------------------------------------------------------------------------

/-- Exchanges of one session in turn, each of which finds what the one before it left. -/
inductive Thread (settings : Settings) : State → List Exchange → State → Prop
  | nil : Thread settings s [] s
  | cons (hl : e.Lawful settings) (h : Thread settings e.left rest t) :
    Thread settings e.entered (e :: rest) t

section
variable {settings : Settings} {first service : Service} {history : List Exchange} {e : Exchange}

theorem Thread.snoc (h : Thread settings s own e.entered) (hl : e.Lawful settings) :
    Thread settings s (own ++ [e]) e.left := by
  generalize he : e.entered = middle at h
  induction h with
  | nil =>
    subst he
    exact .cons hl .nil
  | cons hfirst _ ih => exact .cons hfirst (ih he)

theorem Thread.eq_of_nil (h : Thread settings s [] t) : s = t := by
  cases h
  rfl

theorem Thread.of_cons (h : Thread settings s (e :: rest) t) :
    s = e.entered ∧ e.Lawful settings ∧ Thread settings e.left rest t := by
  cases h with
  | cons hl h => exact ⟨rfl, hl, h⟩

theorem Thread.end_unique (h : Thread settings s own t) (h' : Thread settings s own u) :
    t = u := by
  induction h with
  | nil => exact h'.eq_of_nil
  | cons _ _ ih => exact ih h'.of_cons.2.2

theorem Thread.split (h : Thread settings s (earlier ++ later) t) :
    ∃ middle, Thread settings s earlier middle ∧ Thread settings middle later t := by
  induction earlier generalizing s with
  | nil => exact ⟨s, .nil, h⟩
  | cons e rest ih =>
    cases h with
    | cons hl h =>
      obtain ⟨middle, hrest, hlater⟩ := ih h
      exact ⟨middle, .cons hl hrest, hlater⟩

theorem Thread.balanced (h : Thread settings s own t) :
    Balanced (own.flatMap (·.logged)) s t := by
  induction h with
  | nil => exact .refl _
  | cons hl _ ih => exact hl.balanced.trans ih

theorem Run.thread (h : Run settings first history service) (hf : first.IsFresh)
    (sid : Session.Id) :
    Thread settings {} (ofSession sid history) (service.store.state sid) :=
  Run.session_inv (motive := fun own state => Thread settings {} own state) hf .nil
    (fun _ _ _ _ hl ih => ih.snoc hl) h sid

/-- The first hand-off leaves the session idle, so that the second one needs a request of its own. -/
theorem Thread.begun_between {between later : List Exchange} {x y : Exchange}
    (h : Thread settings s (x :: (between ++ y :: later)) t) (hx : x.HandsOff) (hy : y.HandsOff) :
    ∃ e ∈ between ++ [y], 0 < begun e.logged := by
  cases h with
  | cons hl h =>
    obtain ⟨pending, hc⟩ := hl.completes_of_handsOff hx
    obtain ⟨entered, -, hrest⟩ := h.split
    have hyl : 0 < occurrences .completed y.logged := by
      cases hrest with
      | cons hl _ => exact hl.completed_logged hy
    rw [List.append_cons] at h
    obtain ⟨middle, hsegment, -⟩ := h.split
    have hdone : 0 < occurrences .completed ((between ++ [y]).flatMap (·.logged)) :=
      Audit.occurrences_flatMap_pos_iff.mpr ⟨y, by simp, hyl⟩
    have hb := hsegment.balanced
    have hidle : x.left.held = 0 := by
      rw [hc.left_eq]
      rfl
    rw [Balanced, hidle, concluded] at hb
    have hbegun : 0 < begun ((between ++ [y]).flatMap (·.logged)) := by omega
    exact Audit.occurrences_flatMap_pos_iff.mp hbegun

theorem Run.audit_eq (h : Run settings first history service) (hf : first.IsFresh) :
    service.database.audit = first.database.audit ++ history.flatMap (·.logged) := by
  induction h with
  | start => simp
  | clock _ _ ih => exact ih
  | request h request ih =>
    obtain ⟨entries, -, hm⟩ := (exchange_lawful (h.healthy hf) settings request).answered
    have hlogged := hm.logged_eq
    rw [List.flatMap_append, ← List.append_assoc, ← ih, List.flatMap_singleton, hlogged]
    exact hm.audit

theorem Run.balanced (h : Run settings first history service) (hf : first.IsFresh) :
    begun (history.flatMap (·.logged)) =
      concluded (history.flatMap (·.logged)) + service.store.waiting.card := by
  induction h with
  | start =>
    have hnone : first.store.waiting = ∅ := by
      ext sid
      simp [Session.Store.mem_waiting, hf.state_eq]
    rw [hnone]
    rfl
  | clock _ _ ih => exact ih
  | @request history service h request ih =>
    have hl := exchange_lawful (h.healthy hf) settings request
    obtain ⟨entries, -, hm⟩ := hl.answered
    have hb := hl.balanced
    have hcard : (exchange settings service request).after.store.waiting.card +
        (exchange settings service request).entered.held =
      service.store.waiting.card + (exchange settings service request).left.held :=
      hm.store.card_waiting
    rw [Balanced] at hb
    rw [List.flatMap_append, List.flatMap_singleton, Audit.begun_append, Audit.concluded_append]
    omega

end

/-- Every interaction that was accepted in a run is accounted for. -/
structure Conserved (history : List Exchange) (service : Service) : Prop where
  total : begun service.database.audit =
    concluded service.database.audit + service.store.waiting.card
  /-- The same for each session and what its exchanges logged. -/
  session : ∀ sid, begun ((ofSession sid history).flatMap (·.logged)) =
    concluded ((ofSession sid history).flatMap (·.logged)) + (service.store.state sid).held
  /-- Between two hand-offs of a session a request was accepted. -/
  handed_off_once : ∀ sid earlier x between y later,
    ofSession sid history = earlier ++ x :: (between ++ y :: later) → x.HandsOff → y.HandsOff →
      ∃ e ∈ between ++ [y], 0 < begun e.logged
  /-- No pending request is gone without an entry. -/
  recorded : ∀ e ∈ history, e.entered.pending ≠ none →
    e.left.pending = e.entered.pending ∨ 0 < concluded e.logged

theorem interactions_conserved {settings : Settings} {first service : Service}
    {history : List Exchange} (hf : first.IsFresh) (hlog : first.database.audit = [])
    (h : Run settings first history service) : Conserved history service where
  total := by
    rw [h.audit_eq hf, hlog, List.nil_append]
    exact h.balanced hf
  session := fun sid => (h.thread hf sid).balanced
  handed_off_once := by
    intro sid earlier x between y later howns hx hy
    have hthread := h.thread hf sid
    rw [howns] at hthread
    obtain ⟨_, -, hlater⟩ := hthread.split
    exact hlater.begun_between hx hy
  recorded := by
    intro e he hp
    obtain ⟨earlier, later, rfl⟩ := List.append_of_mem he
    exact (h.lawful hf).pending_kept_or_concluded hp

def accountedSteps : List Step :=
  [.request (ask "client_id=web"), .request logIn, .clock ⟨1⟩, .request (ask "client_id=web"),
    .request { ask "client_id=app" with cookieHeader := some "idp_session=t" }]

/-- Of three requests one led to a login, one was handed off and one is pending. -/
theorem accountedSteps_conserved :
    begun (replay {} demo accountedSteps).2.database.audit = 3 ∧
      (replay {} demo accountedSteps).2.store.waiting = {"t"} ∧
      Conserved (replay {} demo accountedSteps).1 (replay {} demo accountedSteps).2 :=
  ⟨by decide +kernel, by decide +kernel,
    interactions_conserved demo_isFresh rfl (run_replay {} demo accountedSteps)⟩

end Service

end SignOn
