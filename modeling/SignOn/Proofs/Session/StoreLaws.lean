import SignOn.Proofs.Session.RowLaws
import SignOn.Session.Login

/-!
# The calls on a healthy session store

On a store without faults whose rows can be read, a load gives the state of the session and changes
nothing, and a save gives the session a new state and leaves every other session alone. A table
refuses a state without a row; memory takes every state. Each operation of the store is such loads
and saves, and has one law here.
-/

namespace SignOn

theorem run_bind {x : EStateM ε σ α} {f : α → EStateM ε σ β} (h : x s = .ok a s') :
    (x >>= f) s = f a s' := by
  simp [bind, EStateM.bind, h]

theorem run_bind_error {x : EStateM ε σ α} {f : α → EStateM ε σ β} (h : x s = .error e s') :
    (x >>= f) s = .error e s' := by
  simp [bind, EStateM.bind, h]

namespace Session

-- ---------------------------------------------------------------------------
-- Healthy stores
-- ---------------------------------------------------------------------------

/-- The state of a session. A state that cannot be read counts as the initial one. -/
def Store.state (store : Store) (sid : Id) : State :=
  (store.sessions.read sid).toOption.getD {}

/-- Whether a state can be stored: a table holds states that have a row. -/
def Store.takes (store : Store) (state : State) : Bool :=
  match store.sessions with
  | .memory _ => true
  | .table _ => state.isListable

def Sessions.Sound : Sessions → Prop
  | .memory _ => True
  | .table rows => ∀ sid row, rows.get? sid = some row → ∃ state, Row.ofState state = .ok row

structure Store.Healthy (store : Store) : Prop where
  faultless : store.faults = .none
  sound : store.sessions.Sound

/-- `store'` is the store after one session got a state. -/
structure Store.Updated (store store' : Store) (sid : Id) (state : State) : Prop where
  healthy : store'.Healthy
  state_eq : store'.state sid = state
  /-- No other session is touched. -/
  frame : ∀ other, other ≠ sid → store'.state other = store.state other
  takes_eq : store'.takes = store.takes

variable {store store' : Store} {sid : Id} {state : State}

theorem Store.Updated.refl (h : store.Healthy) : store.Updated store sid (store.state sid) :=
  ⟨h, rfl, fun _ _ => rfl, rfl⟩

theorem Store.Updated.trans (h : store.Updated middle sid s) (h' : middle.Updated store' sid t) :
    store.Updated store' sid t :=
  ⟨h'.healthy, h'.state_eq, fun other ho => (h'.frame other ho).trans (h.frame other ho),
    h'.takes_eq.trans h.takes_eq⟩

theorem Store.Updated.unchanged (h : store.Updated store' sid (store.state sid)) (other : Id) :
    store'.state other = store.state other := by
  by_cases ho : other = sid
  · rw [ho, h.state_eq]
  · exact h.frame other ho

theorem Store.takes_congr (hp : s.pending = t.pending) (hc : s.client = t.client) :
    store.takes s = store.takes t := by
  simp only [Store.takes, State.isListable, hp, hc]

theorem Sessions.read_of_sound {sessions : Sessions} (h : sessions.Sound) (sid : Id) :
    ∃ state, sessions.read sid = .ok state := by
  cases sessions with
  | memory states => exact ⟨_, rfl⟩
  | table rows =>
    simp only [Sessions.read]
    cases hr : rows.get? sid with
    | none => exact ⟨_, rfl⟩
    | some row =>
      obtain ⟨state, hs⟩ := h sid row hr
      exact ⟨state, Row.state_ofState hs⟩

theorem Store.Healthy.read_eq (h : store.Healthy) (sid : Id) :
    store.sessions.read sid = .ok (store.state sid) := by
  obtain ⟨state, hs⟩ := Sessions.read_of_sound h.sound sid
  simp [Store.state, hs, Except.toOption]

theorem Store.Healthy.takes_state (h : store.Healthy) (sid : Id) :
    store.takes (store.state sid) = true := by
  have hread := h.read_eq sid
  have hsound := h.sound
  unfold Store.takes
  cases hs : store.sessions with
  | memory states => rfl
  | table rows =>
    rw [hs] at hread hsound
    simp only [Sessions.read] at hread
    cases hr : rows.get? sid with
    | none =>
      simp only [hr, Except.ok.injEq] at hread
      rw [← hread]
      rfl
    | some row =>
      obtain ⟨state, hrow⟩ := hsound sid row hr
      simp only [hr, Row.state_ofState hrow, Except.ok.injEq] at hread
      rw [← hread]
      cases hl : state.isListable with
      | true => rfl
      | false => simp [Row.ofState_of_not_listable hl] at hrow

-- ---------------------------------------------------------------------------
-- Loads and saves
-- ---------------------------------------------------------------------------

theorem load_run (h : store.Healthy) : load sid store = .ok (store.state sid) store := by
  obtain ⟨sessions, faults⟩ := store
  obtain rfl : faults = .none := h.faultless
  have hread := h.read_eq sid
  simp only [load, Faults.afterLoad_none]
  simp only [hread]
  rfl

theorem updated_memory {states : Assoc State} :
    Store.Updated ⟨.memory states, .none⟩ ⟨.memory (states.put sid state), .none⟩ sid state := by
  refine ⟨⟨rfl, trivial⟩, ?_, ?_, rfl⟩
  · simp [Store.state, Sessions.read, Except.toOption]
  · intro other ho
    simp [Store.state, Sessions.read, Except.toOption, Assoc.get?_put_of_ne _ ho]

theorem Sessions.Sound.put {rows : Assoc Row} (h : Sound (.table rows))
    (hrow : Row.ofState state = .ok row) : Sound (.table (rows.put sid row)) := by
  intro other stored hget
  by_cases ho : other = sid
  · subst ho
    rw [Assoc.get?_put_self] at hget
    cases hget
    exact ⟨state, hrow⟩
  · rw [Assoc.get?_put_of_ne _ ho] at hget
    exact h other stored hget

theorem updated_table {rows : Assoc Row} (h : Sessions.Sound (.table rows))
    (hrow : Row.ofState state = .ok row) :
    Store.Updated ⟨.table rows, .none⟩ ⟨.table (rows.put sid row), .none⟩ sid state := by
  refine ⟨⟨rfl, h.put hrow⟩, ?_, ?_, rfl⟩
  · simp [Store.state, Sessions.read, Except.toOption, Row.state_ofState hrow]
  · intro other ho
    simp [Store.state, Sessions.read, Assoc.get?_put_of_ne _ ho]

theorem save_run (h : store.Healthy) (sid : Id) (ht : store.takes state = true) :
    ∃ store', save sid state store = .ok () store' ∧ store.Updated store' sid state := by
  obtain ⟨sessions, faults⟩ := store
  obtain rfl : faults = .none := h.faultless
  cases sessions with
  | memory states => exact ⟨_, rfl, updated_memory⟩
  | table rows =>
    obtain ⟨row, hrow⟩ := Row.ofState_of_listable ht
    refine ⟨⟨.table (rows.put sid row), .none⟩, ?_, updated_table h.sound hrow⟩
    simp only [save, Sessions.write, hrow, Except.map, Faults.afterSave_none]
    rfl

theorem save_refused (h : store.Healthy) (sid : Id) (ht : store.takes state = false) :
    save sid state store = .error (.document .unordered) store := by
  obtain ⟨sessions, faults⟩ := store
  obtain rfl : faults = .none := h.faultless
  cases sessions with
  | memory states => cases ht
  | table rows =>
    have hrow := Row.ofState_of_not_listable ht
    simp only [save, Sessions.write, hrow, Except.map, Faults.afterSave_none]
    rfl

theorem update_run (h : store.Healthy) (change : State → State)
    (ht : store.takes (change (store.state sid)) = true) :
    ∃ store', update sid change store = .ok () store' ∧
      store.Updated store' sid (change (store.state sid)) := by
  obtain ⟨store', hs, hu⟩ := save_run h sid ht
  exact ⟨store', by rw [update, run_bind (load_run h), hs], hu⟩

theorem update_refused (h : store.Healthy) (change : State → State)
    (ht : store.takes (change (store.state sid)) = false) :
    update sid change store = .error (.document .unordered) store := by
  rw [update, run_bind (load_run h), save_refused h sid ht]

/-- An update that keeps the pending request and the client is never refused. -/
theorem update_run_of_kept (h : store.Healthy) (change : State → State)
    (hp : (change (store.state sid)).pending = (store.state sid).pending)
    (hc : (change (store.state sid)).client = (store.state sid).client) :
    ∃ store', update sid change store = .ok () store' ∧
      store.Updated store' sid (change (store.state sid)) :=
  update_run h change (by rw [Store.takes_congr hp hc, h.takes_state])

-- ---------------------------------------------------------------------------
-- Reading
-- ---------------------------------------------------------------------------

theorem read_of_load (hl : load sid store = .ok state store) (f : State → α) :
    (do return f (← load sid) : StoreM α) store = .ok (f state) store := by
  rw [run_bind hl]
  rfl

theorem pending?_run (h : store.Healthy) :
    pending? sid store = .ok (store.state sid).pending store :=
  read_of_load (load_run h) _

theorem parameters?_run (h : store.Healthy) :
    parameters? sid store = .ok (store.state sid).parameters store :=
  read_of_load (load_run h) _

theorem loginHint?_run (h : store.Healthy) :
    loginHint? sid store = .ok (store.state sid).loginHint store :=
  read_of_load (load_run h) _

theorem subject?_run (h : store.Healthy) :
    subject? sid store = .ok (store.state sid).subject store :=
  read_of_load (load_run h) _

theorem loginTime?_run (h : store.Healthy) :
    loginTime? sid store = .ok (store.state sid).loginTime store :=
  read_of_load (load_run h) _

def Login.Clock.isLive (clock : Login.Clock) (state : State) : Bool :=
  match state.subject, state.loginTime with
  | some _, some login => !clock.isExpired login
  | _, _ => false

def Login.Clock.subjectOf (clock : Login.Clock) (state : State) : Except Absence String :=
  match state.subject with
  | none => .error .noSubject
  | some subject =>
    match state.loginTime with
    | none => .error .noTimestamp
    | some login => if clock.isExpired login then .error (.expired subject) else .ok subject

theorem Login.Clock.toBool_subjectOf (clock : Login.Clock) (state : State) :
    (clock.subjectOf state).toBool = clock.isLive state := by
  unfold subjectOf isLive
  cases state.subject with
  | none => rfl
  | some subject =>
    cases state.loginTime with
    | none => rfl
    | some login => cases hx : clock.isExpired login <;> simp [Except.toBool, hx]

theorem liveSubject_of_load (hl : load sid store = .ok state store) (clock : Login.Clock) :
    Login.liveSubject clock sid store = .ok (clock.subjectOf state) store := by
  have hsubject : subject? sid store = .ok state.subject store := read_of_load hl _
  have htime : loginTime? sid store = .ok state.loginTime store := read_of_load hl _
  rw [Login.liveSubject, run_bind hsubject, Login.Clock.subjectOf]
  cases state.subject with
  | none => rfl
  | some subject =>
    simp only
    rw [run_bind htime]
    cases state.loginTime <;> rfl

theorem isLive_of_load (hl : load sid store = .ok state store) (clock : Login.Clock) :
    Login.isLive clock sid store = .ok (clock.isLive state) store := by
  rw [Login.isLive, run_bind (liveSubject_of_load hl clock), ← Login.Clock.toBool_subjectOf]
  rfl

theorem isLive_run (h : store.Healthy) (clock : Login.Clock) :
    Login.isLive clock sid store = .ok (clock.isLive (store.state sid)) store :=
  isLive_of_load (load_run h) clock

-- ---------------------------------------------------------------------------
-- Writing
-- ---------------------------------------------------------------------------

theorem record_run (h : store.Healthy) (sid : Id) (clock : Login.Clock) (subject : String) :
    ∃ store', Login.record clock sid subject store = .ok clock.now store' ∧
      store.Updated store' sid
        { store.state sid with subject := some subject, loginTime := some clock.now } := by
  let change (state : State) : State :=
    { state with subject := some subject, loginTime := some clock.now }
  have hput : ∃ store', putLogin sid subject (some clock.now) store = .ok () store' ∧
      store.Updated store' sid (change (store.state sid)) := update_run_of_kept h change rfl rfl
  obtain ⟨store', hs, hu⟩ := hput
  refine ⟨store', ?_, hu⟩
  rw [Login.record, run_bind hs]
  rfl

def State.ended (state : State) (keepMarker : Bool) : State :=
  { state with
    pending := none, parameters := none, client := none
    loginForced := keepMarker && state.loginForced }

/-- A session after a successful login. The interaction is over and the marker is kept. -/
def State.loggedIn (state : State) (subject : String) (now : Instant) : State :=
  { state with subject := some subject, loginTime := some now }.ended true

theorem endInteraction_run (h : store.Healthy) (sid : Id) (keepMarker : Bool) :
    ∃ store', endInteraction sid keepMarker store = .ok () store' ∧
      store.Updated store' sid ((store.state sid).ended keepMarker) :=
  update_run h _ (by simp only [Store.takes]; cases store.sessions <;> rfl)

end Session

end SignOn
