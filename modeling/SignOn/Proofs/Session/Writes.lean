import SignOn.Proofs.Session.StoreLaws

/-!
# Calls cut short by a failing store

A store may fail for good after some saves (`Faults.lasting`). `Writes` says which states a
computation on such a store saves in a session, one after the other, and what comes of it; where the
saves begin to fail, the computation fails and what was saved stays. On a store that never fails the
computation runs to its end (`Writes.run`).
-/

namespace SignOn

def ending (result : Except ε α) (state : σ) : EStateM.Result ε σ α :=
  match result with
  | .ok a => .ok a state
  | .error e => .error e state

def resultOf : EStateM.Result ε σ α → Except ε α
  | .ok a _ => .ok a
  | .error e _ => .error e

def stateOf : EStateM.Result ε σ α → σ
  | .ok _ s => s
  | .error _ s => s

@[simp] theorem resultOf_ending (result : Except ε α) (s : σ) :
    resultOf (ending result s) = result := by
  cases result <;> rfl

@[simp] theorem stateOf_ending (result : Except ε α) (s : σ) : stateOf (ending result s) = s := by
  cases result <;> rfl

namespace Session

-- ---------------------------------------------------------------------------
-- Stores that fail after some saves
-- ---------------------------------------------------------------------------

/-- Saves succeed as often as given, always if no number is given, and fail from then on. -/
def Faults.lasting : Option Nat → Faults
  | .none => .none
  | .some saves => { saveMode := fun n => if n < saves then .accept else .refuse }

def cuts (saves : Option Nat) (written : List State) : Bool :=
  saves.any (· < written.length)

def savesAfter (saves : Option Nat) (written : List State) : Option Nat :=
  saves.map (· - written.length)

/-- The state that is saved last, of a session that has a state before. -/
def lastSaved (saves : Option Nat) (written : List State) (state : State) : State :=
  match saves with
  | none => written.getLastD state
  | some saves => (written.take saves).getLastD state

def Store.restored (store : Store) : Store :=
  { store with faults := .none }

/-- A store that lasts for some saves, and whose rows were made of states. -/
structure Store.Lasts (store : Store) (saves : Option Nat) : Prop where
  faults_eq : store.faults = .lasting saves
  sound : store.sessions.Sound

section
variable {store store' : Store} {sid : Id} {state : State} {saves : Option Nat}

theorem Faults.afterLoad_lasting (saves : Option Nat) :
    (lasting saves).afterLoad = lasting saves := by
  cases saves <;> rfl

theorem Faults.afterSave_lasting (saves : Option Nat) :
    (lasting saves).afterSave = lasting (saves.map (· - 1)) := by
  cases saves with
  | none => rfl
  | some saves =>
    simp only [lasting, afterSave, Option.map_some, Nat.lt_sub_iff_add_lt]

theorem Store.restored_healthy (h : store.Lasts saves) : store.restored.Healthy :=
  ⟨rfl, h.sound⟩

theorem Store.Healthy.lasts (h : store.Healthy) : store.Lasts none :=
  ⟨h.faultless, h.sound⟩

theorem Store.Lasts.restored_eq (h : store.Lasts none) : store.restored = store := by
  obtain ⟨sessions, faults⟩ := store
  obtain rfl : faults = .none := h.faults_eq
  rfl

theorem Store.Lasts.load_eq (h : store.Lasts saves) (sid : Id) :
    load sid store = .ok (store.state sid) store := by
  have hread : store.sessions.read sid = .ok (store.state sid) := (restored_healthy h).read_eq sid
  obtain ⟨sessions, faults⟩ := store
  obtain rfl : faults = .lasting saves := h.faults_eq
  simp only [load, Faults.afterLoad_lasting, hread]
  cases saves <;> rfl

theorem Store.Lasts.save_refused (h : store.Lasts (some 0)) (sid : Id) (state : State) :
    save sid state store = .error .storeUnavailable store := by
  obtain ⟨sessions, faults⟩ := store
  obtain rfl : faults = .lasting (some 0) := h.faults_eq
  rfl

theorem Store.Lasts.save_eq (h : store.Lasts saves) (hs : saves ≠ some 0) (sid : Id)
    (state : State) :
    save sid state store =
      ending (resultOf (save sid state store.restored))
        { stateOf (save sid state store.restored) with
          faults := .lasting (saves.map (· - 1)) } := by
  obtain ⟨sessions, faults⟩ := store
  obtain rfl : faults = .lasting saves := h.faults_eq
  have hmode : (Faults.lasting saves).saveMode 0 = .accept := by
    cases saves with
    | none => rfl
    | some saves =>
      have hpos : 0 < saves := Nat.pos_of_ne_zero fun h0 => hs (by rw [h0])
      simp [Faults.lasting, hpos]
  simp only [save, Store.restored, Faults.afterSave_lasting, hmode]
  cases sessions.write sid state <;> rfl

theorem Store.Lasts.save_run (h : store.Lasts saves) (hs : saves ≠ some 0) (sid : Id)
    (ht : store.takes state = true) :
    ∃ store', save sid state store = .ok () store' ∧ store'.Lasts (saves.map (· - 1)) ∧
      store.restored.Updated store'.restored sid state := by
  obtain ⟨healthy, hrun, hu⟩ := Session.save_run (restored_healthy h) sid ht
  refine ⟨{ healthy with faults := .lasting (saves.map (· - 1)) }, ?_, ⟨rfl, hu.healthy.sound⟩, ?_⟩
  · rw [h.save_eq hs, hrun]
    rfl
  · rw [← hu.healthy.lasts.restored_eq] at hu
    exact hu

theorem Store.Lasts.save_rejected (h : store.Lasts saves) (hs : saves ≠ some 0) (sid : Id)
    (ht : store.takes state = false) :
    ∃ store', save sid state store = .error (.document .unordered) store' ∧
      store'.Lasts (saves.map (· - 1)) ∧
      store.restored.Updated store'.restored sid (store.state sid) := by
  refine ⟨{ store with faults := .lasting (saves.map (· - 1)) }, ?_, ⟨rfl, h.sound⟩,
    .refl (restored_healthy h)⟩
  rw [h.save_eq hs, Session.save_refused (restored_healthy h) sid ht]
  rfl

end

-- ---------------------------------------------------------------------------
-- What a computation saves
-- ---------------------------------------------------------------------------

section
variable {saves : Option Nat} {written later : List State} {state : State}

theorem getLastD_append (l later : List α) (a : α) :
    (l ++ later).getLastD a = later.getLastD (l.getLastD a) := by
  simp [List.getLastD_eq_getLast?]

theorem cuts_append :
    cuts saves (written ++ later) =
      (cuts saves written || cuts (savesAfter saves written) later) := by
  cases saves with
  | none => rfl
  | some saves =>
    rw [Bool.eq_iff_iff]
    simp only [cuts, savesAfter, Option.any_some, Option.map_some, List.length_append,
      Bool.or_eq_true, decide_eq_true_eq]
    omega

theorem savesAfter_append :
    savesAfter saves (written ++ later) = savesAfter (savesAfter saves written) later := by
  cases saves with
  | none => rfl
  | some saves => simp [savesAfter, Nat.sub_sub]

theorem savesAfter_of_cuts (h : cuts saves written = true) : savesAfter saves written = some 0 := by
  cases saves with
  | none => cases h
  | some saves =>
    have hlt : saves < written.length := by simpa [cuts] using h
    simp [savesAfter, Nat.sub_eq_zero_of_le (Nat.le_of_lt hlt)]

theorem lastSaved_append :
    lastSaved saves (written ++ later) state =
      lastSaved (savesAfter saves written) later (lastSaved saves written state) := by
  cases saves with
  | none => exact getLastD_append ..
  | some saves =>
    simp only [lastSaved, savesAfter, Option.map_some, List.take_append, getLastD_append]

theorem lastSaved_of_not_cuts (h : cuts saves written = false) :
    lastSaved saves written state = written.getLastD state := by
  cases saves with
  | none => rfl
  | some saves =>
    have hle : written.length ≤ saves := by simpa [cuts] using h
    rw [lastSaved, List.take_of_length_le hle]

end

/-- On a store that fails after some saves, a computation saves some states of one session in turn
and has a result, or is cut short. -/
def Writes (takes : State → Bool) (sid : Id) (action : StoreM α) (state : State)
    (written : List State) (result : Except Failure α) : Prop :=
  ∀ saves store, store.Lasts saves → store.takes = takes → store.state sid = state →
    ∃ store', action store =
        ending (if cuts saves written then .error .storeUnavailable else result) store' ∧
      store'.Lasts (savesAfter saves written) ∧
      store.restored.Updated store'.restored sid (lastSaved saves written state)

section
variable {takes : State → Bool} {sid : Id} {state : State} {written later : List State}

theorem Writes.of_load {action : StoreM α} {result : Except Failure α}
    (h : ∀ store, load sid store = .ok state store → action store = ending result store) :
    Writes takes sid action state [] result := by
  intro saves store hl _ hstate
  have hnone : cuts saves [] = false := by cases saves <;> simp [cuts]
  have hleft : savesAfter saves [] = saves := by cases saves <;> simp [savesAfter]
  refine ⟨store, ?_, by rwa [hleft], ?_⟩
  · rw [hnone]
    exact h store (hstate ▸ hl.load_eq sid)
  · rw [lastSaved_of_not_cuts hnone, List.getLastD_nil, ← hstate]
    exact .refl (Store.restored_healthy hl)

/-- The rest of a computation that was cut short does not run. -/
theorem Writes.bind {x : StoreM α} {f : α → StoreM β} {result : Except Failure β}
    (h : Writes takes sid x state written (.ok a))
    (hf : Writes takes sid (f a) (written.getLastD state) later result) :
    Writes takes sid (x >>= f) state (written ++ later) result := by
  intro saves store hl ht hstate
  obtain ⟨middle, hx, hm, um⟩ := h saves store hl ht hstate
  rw [cuts_append, savesAfter_append, lastSaved_append]
  cases hc : cuts saves written with
  | true =>
    rw [hc] at hx
    rw [savesAfter_of_cuts hc] at hm ⊢
    have hnone : savesAfter (some 0) later = some 0 := by simp [savesAfter]
    exact ⟨middle, run_bind_error hx, by rwa [hnone], um⟩
  | false =>
    rw [hc] at hx
    rw [lastSaved_of_not_cuts hc] at um ⊢
    obtain ⟨after, hfx, ha, ua⟩ := hf _ middle hm (um.takes_eq.trans ht) um.state_eq
    refine ⟨after, ?_, ha, um.trans ua⟩
    rw [run_bind hx, hfx, Bool.false_or]

theorem Writes.bind_load {x : StoreM α} {f : α → StoreM β} {result : Except Failure β}
    (h : ∀ store, load sid store = .ok state store → x store = .ok a store)
    (hf : Writes takes sid (f a) state later result) :
    Writes takes sid (x >>= f) state later result := by
  have hx : Writes takes sid x state [] (.ok a) := .of_load h
  exact hx.bind hf

theorem Writes.bind_return {x : StoreM α} (h : Writes takes sid x state written (.ok a)) (b : β) :
    Writes takes sid (do let _ ← x; return b) state written (.ok b) := by
  have hb : Writes takes sid (do let _ ← x; return b) state (written ++ []) (.ok b) :=
    h.bind (.of_load fun _ _ => rfl)
  rwa [List.append_nil] at hb

theorem Writes.bind_error {x : StoreM α} {f : α → StoreM β}
    (h : Writes takes sid x state written (.error cause)) :
    Writes takes sid (x >>= f) state written (.error cause) := by
  intro saves store hl ht hstate
  obtain ⟨after, hx, ha, ua⟩ := h saves store hl ht hstate
  refine ⟨after, ?_, ha, ua⟩
  cases hc : cuts saves written <;> rw [hc] at hx <;> exact run_bind_error hx

theorem Writes.of_update {change : State → State} {t : State} {result : Except Failure Unit}
    (h : ∀ saves store, store.Lasts saves → saves ≠ some 0 → store.takes = takes →
      store.state sid = state →
      ∃ store', save sid (change state) store = ending result store' ∧
        store'.Lasts (saves.map (· - 1)) ∧ store.restored.Updated store'.restored sid t) :
    Writes takes sid (update sid change) state [t] result := by
  intro saves store hl ht hstate
  rw [Session.update, run_bind (hl.load_eq sid), hstate]
  by_cases hs : saves = some 0
  · subst hs
    rw [← hstate]
    exact ⟨store, hl.save_refused sid _, hl, .refl (Store.restored_healthy hl)⟩
  · have hc : cuts saves [t] = false := by
      cases saves with
      | none => rfl
      | some saves =>
        have hne : saves ≠ 0 := fun h0 => hs (by rw [h0])
        simpa [cuts] using hne
    obtain ⟨after, hrun, ha, ua⟩ := h saves store hl hs ht hstate
    refine ⟨after, by rw [hc, hrun]; rfl, ha, ?_⟩
    rw [lastSaved_of_not_cuts hc]
    exact ua

theorem Writes.update (change : State → State) (ht : takes (change state) = true) :
    Writes takes sid (update sid change) state [change state] (.ok ()) := by
  refine .of_update fun saves store hl hs htakes _ => ?_
  obtain ⟨after, hrun, ha, ua⟩ := hl.save_run hs sid (htakes ▸ ht)
  exact ⟨after, hrun, ha, ua⟩

theorem Writes.update_of_healthy (change : State → State)
    (ht : ∀ store : Store, store.Healthy → store.state sid = state →
      store.takes (change state) = true) :
    Writes takes sid (Session.update sid change) state [change state] (.ok ()) := by
  rintro saves store hl rfl hstate
  have hw : Writes store.takes sid (Session.update sid change) state [change state] (.ok ()) :=
    .update change (ht store.restored (Store.restored_healthy hl) hstate)
  exact hw saves store hl rfl hstate

theorem Writes.update_of_kept (change : State → State)
    (hp : (change state).pending = state.pending) (hc : (change state).client = state.client) :
    Writes takes sid (Session.update sid change) state [change state] (.ok ()) :=
  .update_of_healthy change fun store hs hstate => by
    rw [Store.takes_congr hp hc, ← hstate, hs.takes_state]

theorem Writes.endInteraction (keepMarker : Bool) :
    Writes takes sid (Session.endInteraction sid keepMarker) state [state.ended keepMarker]
      (.ok ()) :=
  .update_of_healthy _ fun store _ _ => by
    simp only [Store.takes]
    cases store.sessions <;> rfl

theorem Writes.update_refused (change : State → State) (ht : takes (change state) = false) :
    Writes takes sid (Session.update sid change) state [state]
      (.error (.document .unordered)) := by
  refine .of_update fun saves store hl hs htakes hstate => ?_
  obtain ⟨after, hrun, ha, ua⟩ := hl.save_rejected hs sid (htakes ▸ ht)
  exact ⟨after, hrun, ha, hstate ▸ ua⟩

theorem Writes.run {action : StoreM α} {result : Except Failure α} {store : Store}
    (hs : store.Healthy)
    (h : Writes store.takes sid action (store.state sid) written result) :
    ∃ store', action store = ending result store' ∧
      store.Updated store' sid (written.getLastD (store.state sid)) := by
  obtain ⟨after, hrun, ha, ua⟩ := h none store hs.lasts rfl rfl
  rw [hs.lasts.restored_eq, Store.Lasts.restored_eq ha] at ua
  exact ⟨after, hrun, ua⟩

end

end Session

end SignOn
