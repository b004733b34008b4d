import SignOn.Proofs.Session.Coupling

/-!
# Calls on a session store that may fail

Whatever the faults of a store are, a load gives the state of the session (`load_cases`), and an
update changes that session as asked or fails and changes nothing (`update_cases`). So what is true
of every session and kept by the changes stays true (`coupling_same`).
-/

namespace SignOn

theorem exists_of_run_bind {x : EStateM ε σ α} {f : α → EStateM ε σ β}
    (h : (x >>= f) s = .ok b s'') :
    ∃ a s', x s = .ok a s' ∧ f a s' = .ok b s'' := by
  cases hr : x s with
  | error e s' =>
    rw [run_bind_error hr] at h
    cases h
  | ok a s' =>
    rw [run_bind hr] at h
    exact ⟨a, s', rfl, h⟩

namespace Session

variable {store store' : Store} {sid : Id} {state : State} {P : State → Prop}

-- ---------------------------------------------------------------------------
-- Loads and saves
-- ---------------------------------------------------------------------------

theorem Store.state_congr (h : store.sessions = store'.sessions) (sid : Id) :
    store.state sid = store'.state sid := by
  rw [Store.state, Store.state, h]

theorem load_cases (sid : Id) (store : Store) : ∃ after, after.sessions = store.sessions ∧
    ((∃ cause, load sid store = .error cause after) ∨
      load sid store = .ok (store.state sid) after) := by
  refine ⟨{ store with faults := store.faults.afterLoad }, rfl, ?_⟩
  unfold load Store.state
  cases store.faults.loadFails 0 with
  | true => exact .inl ⟨_, rfl⟩
  | false =>
    cases store.sessions.read sid with
    | error cause => exact .inl ⟨_, rfl⟩
    | ok state => exact .inr rfl

theorem Sessions.read_of_write {sessions written : Sessions}
    (h : sessions.write sid state = .ok (written, wrote)) :
    written.read sid = .ok state ∧ ∀ other, other ≠ sid → written.read other = sessions.read other := by
  cases sessions with
  | memory states =>
    cases h
    exact ⟨by simp [read], fun other ho => by simp [read, Assoc.get?_put_of_ne _ ho]⟩
  | table rows =>
    obtain ⟨row, hrow, hw⟩ := map_eq_ok.mp h
    cases hw
    exact ⟨by simp [read, Row.state_ofState hrow],
      fun other ho => by simp [read, Assoc.get?_put_of_ne _ ho]⟩

theorem save_cases (sid : Id) (state : State) (store : Store) :
    (∃ cause after, save sid state store = .error cause after ∧ after.sessions = store.sessions) ∨
      ∃ after, save sid state store = .ok () after ∧ after.state sid = state ∧
        ∀ other, other ≠ sid → after.state other = store.state other := by
  unfold save
  cases hw : store.sessions.write sid state with
  | error cause => cases store.faults.saveMode 0 <;> exact .inl ⟨_, _, rfl, rfl⟩
  | ok written =>
    obtain ⟨sessions, wrote⟩ := written
    obtain ⟨hself, hothers⟩ := Sessions.read_of_write hw
    have hsaved : ({ store with faults := store.faults.afterSave, sessions } : Store).state sid =
        state ∧ ∀ other, other ≠ sid →
          ({ store with faults := store.faults.afterSave, sessions } : Store).state other =
            store.state other :=
      ⟨by simp [Store.state, hself, Except.toOption],
        fun other ho => by simp [Store.state, hothers other ho]⟩
    cases store.faults.saveMode 0 with
    | refuse => exact .inl ⟨_, _, rfl, rfl⟩
    | accept => exact .inr ⟨_, rfl, hsaved⟩
    | readOnly =>
      cases wrote with
      | true => exact .inl ⟨_, _, rfl, rfl⟩
      | false => exact .inr ⟨_, rfl, hsaved⟩

theorem update_cases (sid : Id) (change : State → State) (store : Store) :
    (∃ cause after, update sid change store = .error cause after ∧
        after.sessions = store.sessions) ∨
      ∃ after, update sid change store = .ok () after ∧
        after.state sid = change (store.state sid) ∧
        ∀ other, other ≠ sid → after.state other = store.state other := by
  unfold update
  obtain ⟨loaded, hsame, ⟨cause, hl⟩ | hl⟩ := load_cases sid store
  · exact .inl ⟨cause, loaded, run_bind_error hl, hsame⟩
  · rw [run_bind hl]
    rcases save_cases sid (change (store.state sid)) loaded with
      ⟨cause, after, hs, hafter⟩ | ⟨after, hs, hself, hothers⟩
    · exact .inl ⟨cause, after, hs, hafter.trans hsame⟩
    · exact .inr ⟨after, hs, hself,
        fun other ho => (hothers other ho).trans (Store.state_congr hsame other)⟩

-- ---------------------------------------------------------------------------
-- What is true of every session
-- ---------------------------------------------------------------------------

def Store.Every (P : State → Prop) (store : Store) : Prop :=
  ∀ sid, P (store.state sid)

theorem Store.Every.congr (h : store.Every P) (hs : store'.sessions = store.sessions) :
    store'.Every P := by
  intro sid
  rw [Store.state_congr hs]
  exact h sid

/-- One and the same store, in which every session has `P`. -/
def Store.Same (P : State → Prop) (first second : Store) : Prop :=
  first = second ∧ first.Every P

theorem coupling_same (P : State → Prop) : Coupling (Store.Same P) P where
  load := by
    rintro sid store _ ⟨rfl, h⟩
    obtain ⟨after, hsame, ⟨cause, hl⟩ | hl⟩ := load_cases sid store
    · exact ⟨.error cause, after, after, hl, hl, ⟨rfl, h.congr hsame⟩, by simp⟩
    · refine ⟨.ok (store.state sid), after, after, hl, hl, ⟨rfl, h.congr hsame⟩, fun state hs => ?_⟩
      cases hs
      exact h sid
  update := by
    rintro sid change hc store _ ⟨rfl, h⟩
    rcases update_cases sid change store with
      ⟨cause, after, hu, hsame⟩ | ⟨after, hu, hself, hothers⟩
    · exact ⟨.error cause, after, after, hu, hu, ⟨rfl, h.congr hsame⟩, by simp⟩
    · refine ⟨.ok (), after, after, hu, hu, ⟨rfl, fun other => ?_⟩, fun _ _ => trivial⟩
      by_cases ho : other = sid
      · rw [ho, hself]
        exact hc _ (h sid)
      · rw [hothers other ho]
        exact h other

-- ---------------------------------------------------------------------------
-- Calls that succeeded
-- ---------------------------------------------------------------------------

theorem read_ok {f : State → α} (h : (do return f (← load sid) : StoreM α) store = .ok a store') :
    a = f (store.state sid) ∧ store'.sessions = store.sessions := by
  obtain ⟨after, hsame, ⟨cause, hl⟩ | hl⟩ := load_cases sid store
  · rw [run_bind_error hl] at h
    cases h
  · rw [run_bind hl] at h
    cases h
    exact ⟨rfl, hsame⟩

theorem update_ok {change : State → State} (h : update sid change store = .ok () store') :
    store'.state sid = change (store.state sid) := by
  rcases update_cases sid change store with ⟨cause, after, hu, -⟩ | ⟨after, hu, hself, -⟩
  · cases hu.symm.trans h
  · cases hu.symm.trans h
    exact hself

end Session

end SignOn
