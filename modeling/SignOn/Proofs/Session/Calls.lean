import SignOn.Proofs.Session.Backends
import SignOn.Proofs.Session.FaultLaws

/-!
# Sequences of calls

A call on a store whose sessions are paired leaves them paired, and one that fails changes no session
(`Call.settles`), whatever the faults of the store are. So the sessions are paired after every
sequence of calls on an empty store (`sessions_paired`).
-/

namespace SignOn.Session

/-- The parameters and the client of a pending request are there, and the client is the one that the
request names: their identifiers count as one. -/
def State.IsPaired (state : State) : Prop :=
  ∀ request, state.pending = some request → state.parameters ≠ none ∧
    ∃ client, state.client = some client ∧ client.clientId.countsAs request.clientId = true

theorem State.isPaired_of_idle {state : State} (h : state.pending = none) : state.IsPaired :=
  fun request hr => by cases h.symm.trans hr

theorem State.IsPaired.congr {s t : State} (h : s.IsPaired) (hp : t.pending = s.pending)
    (hparameters : t.parameters = s.parameters) (hc : t.client = s.client) : t.IsPaired := by
  intro request hr
  rw [hparameters, hc]
  exact h request (hp.symm.trans hr)

/-- Every session can be read and is paired, and a store that began without faults has none yet. -/
structure Store.IsPaired (first : Faults) (store : Store) : Prop where
  sound : store.sessions.Sound
  every : store.Every State.IsPaired
  faultless : first = .none → store.faults = .none

/-- Why a call on such a store fails: a fault, a record that cannot be written as a document, or a
client that is not the one of the request. Without faults at the start there is no fault later. -/
inductive Refusal (first : Faults) : Failure → Prop
  | fault (h : first ≠ .none) : Refusal first .storeUnavailable
  | unordered : Refusal first (.document .unordered)
  | client (h : given.countsAs asked = false) : Refusal first (.clientMismatch given asked)
  | pending (given : Json) : Refusal first (.pendingMismatch given)

/-- An action keeps the sessions paired, and it changes none of them if it fails. -/
def Settles (first : Faults) (action : StoreM α) (store : Store) : Prop :=
  ∃ after : Store, after.IsPaired first ∧
    ((∃ a, action store = .ok a after) ∨ ∃ cause, action store = .error cause after ∧
      Refusal first cause ∧ after.sessions = store.sessions)

section
variable {first : Faults} {store store' : Store} {sid : Id} {state : State}

-- ---------------------------------------------------------------------------
-- Loads and saves
-- ---------------------------------------------------------------------------

theorem load_of_paired (h : store.IsPaired first) (sid : Id) :
    ∃ loaded : Store, loaded.IsPaired first ∧ loaded.sessions = store.sessions ∧
      (load sid store = .ok (store.state sid) loaded ∨
        first ≠ .none ∧ load sid store = .error .storeUnavailable loaded) := by
  obtain ⟨state, hread⟩ := Sessions.read_of_sound h.sound sid
  have hstate : store.state sid = state := by simp [Store.state, hread, Except.toOption]
  refine ⟨{ store with faults := store.faults.afterLoad },
    ⟨h.sound, h.every.congr rfl, fun hf => by simp [h.faultless hf]⟩, rfl, ?_⟩
  simp only [load, hread, hstate]
  cases hl : store.faults.loadFails 0 with
  | false => exact .inl rfl
  | true =>
    refine .inr ⟨fun hf => ?_, rfl⟩
    rw [h.faultless hf] at hl
    cases hl

theorem Sessions.Sound.write {sessions written : Sessions} (h : sessions.Sound)
    (hw : sessions.write sid state = .ok (written, wrote)) : written.Sound := by
  cases sessions with
  | memory states =>
    cases hw
    trivial
  | table rows =>
    obtain ⟨row, hrow, hw⟩ := map_eq_ok.mp hw
    cases hw
    exact h.put hrow

theorem Sessions.write_error {sessions : Sessions}
    (h : sessions.write sid state = .error cause) : cause = .unordered := by
  cases sessions with
  | memory states => cases h
  | table rows =>
    cases hl : state.isListable with
    | true =>
      obtain ⟨row, hrow⟩ := Row.ofState_of_listable hl
      simp [write, hrow, Except.map] at h
    | false =>
      simp only [write, Row.ofState_of_not_listable hl, Except.map, Except.error.injEq] at h
      exact h.symm

theorem save_faults (sid : Id) (state : State) (store : Store) :
    (stateOf (save sid state store)).faults = store.faults.afterSave := by
  simp only [save]
  split
  · rfl
  · split
    · rfl
    · split <;> rfl

theorem save_error (hf : first = .none → store.faults = .none)
    (h : save sid state store = .error cause store') : Refusal first cause := by
  simp only [save] at h
  split at h
  · next hmode =>
    cases h
    refine .fault fun hn => ?_
    rw [hf hn] at hmode
    cases hmode
  · split at h
    · next hw =>
      cases h
      rw [Sessions.write_error hw]
      exact .unordered
    · split at h
      · next hmode =>
        cases h
        refine .fault fun hn => ?_
        rw [hf hn] at hmode
        cases hmode.1
      · cases h

theorem save_sound (hs : store.sessions.Sound) (h : save sid state store = .ok () store') :
    store'.sessions.Sound := by
  simp only [save] at h
  split at h
  · cases h
  · split at h
    · cases h
    · next hw =>
      split at h
      · cases h
      · cases h
        exact hs.write hw

-- ---------------------------------------------------------------------------
-- One call
-- ---------------------------------------------------------------------------

theorem Settles.throw (h : store.IsPaired first) (hc : Refusal first cause) :
    Settles first (throw cause : StoreM α) store :=
  ⟨store, h, .inr ⟨cause, rfl, hc, rfl⟩⟩

theorem Settles.load_bind (h : store.IsPaired first) {f : State → StoreM α}
    (hf : ∀ loaded : Store, loaded.IsPaired first → loaded.sessions = store.sessions →
      Settles first (f (store.state sid)) loaded) : Settles first (load sid >>= f) store := by
  obtain ⟨loaded, hloaded, hs, hl | ⟨hfirst, hl⟩⟩ := load_of_paired h sid
  · unfold Settles
    rw [run_bind hl, ← hs]
    exact hf loaded hloaded hs
  · exact ⟨loaded, hloaded, .inr ⟨_, run_bind_error hl, .fault hfirst, hs⟩⟩

theorem settles_read (h : store.IsPaired first) (sid : Id) (f : State → α) :
    Settles first (do return f (← load sid)) store :=
  .load_bind h fun loaded hloaded _ => ⟨loaded, hloaded, .inl ⟨_, rfl⟩⟩

theorem settles_save (h : store.IsPaired first) (hs : state.IsPaired) (sid : Id) :
    Settles first (save sid state) store := by
  have hfaults (hf : first = .none) : (stateOf (save sid state store)).faults = .none := by
    rw [save_faults, h.faultless hf, Faults.afterSave_none]
  rcases save_cases sid state store with
    ⟨cause, after, hrun, hsame⟩ | ⟨after, hrun, hself, hothers⟩
  · rw [hrun] at hfaults
    exact ⟨after, ⟨hsame ▸ h.sound, h.every.congr hsame, hfaults⟩,
      .inr ⟨cause, hrun, save_error h.faultless hrun, hsame⟩⟩
  · rw [hrun] at hfaults
    refine ⟨after, ⟨save_sound h.sound hrun, fun other => ?_, hfaults⟩, .inl ⟨(), hrun⟩⟩
    by_cases ho : other = sid
    · rw [ho, hself]
      exact hs
    · rw [hothers other ho]
      exact h.every other

theorem settles_update (h : store.IsPaired first) {change : State → State}
    (hc : (change (store.state sid)).IsPaired) : Settles first (update sid change) store :=
  .load_bind h fun _ hloaded _ => settles_save hloaded hc sid

theorem settles_keep (h : store.IsPaired first) (sid : Id) {change : State → State}
    (hp : ∀ state, (change state).pending = state.pending)
    (hparameters : ∀ state, (change state).parameters = state.parameters)
    (hc : ∀ state, (change state).client = state.client) :
    Settles first (update sid change) store :=
  settles_update h ((h.every sid).congr (hp _) (hparameters _) (hc _))

theorem settles_startInteraction (h : store.IsPaired first) (sid : Id) (request : Request.Record)
    (parameters : Assoc String) (client : Client.Record) :
    Settles first (startInteraction sid request parameters client) store := by
  unfold startInteraction
  cases hid : client.clientId.countsAs request.clientId with
  | true =>
    refine settles_update h fun pending hp => ?_
    cases hp
    exact ⟨by simp, client, rfl, hid⟩
  | false => exact .throw h (.client hid)

/-- The request that the new client is compared with is the one that it is stored beside. -/
theorem settles_replaceClient (h : store.IsPaired first) (sid : Id) (client : Client.Record) :
    Settles first (replaceClient sid client) store := by
  unfold replaceClient pending?
  simp only [bind_assoc, pure_bind]
  refine .load_bind h fun loaded hloaded hs => ?_
  have hupdate (hid : ∀ pending, (store.state sid).pending = some pending →
      client.clientId.countsAs pending.clientId = true) :
      Settles first (update sid fun state => { state with client := some client }) loaded := by
    refine settles_update hloaded fun pending hp => ?_
    rw [Store.state_congr hs] at hp ⊢
    exact ⟨(h.every sid pending hp).1, client, rfl, hid pending hp⟩
  cases hp : (store.state sid).pending with
  | none => exact hupdate fun pending hp' => by cases hp.symm.trans hp'
  | some pending =>
    cases hid : client.clientId.countsAs pending.clientId with
    | true =>
      simp only [hid]
      refine hupdate fun other hp' => ?_
      cases hp.symm.trans hp'
      exact hid
    | false =>
      simp only [hid]
      exact .throw hloaded (.pending _)

theorem Call.settles (call : Call α) (h : store.IsPaired first) : Settles first call.run store := by
  cases call with
  | pending? sid => exact settles_read h sid _
  | startInteraction sid request parameters client =>
    exact settles_startInteraction h sid request parameters client
  | parameters? sid => exact settles_read h sid _
  | client? sid => exact settles_read h sid _
  | replaceClient sid client => exact settles_replaceClient h sid client
  | endInteraction sid keepMarker => exact settles_update h (State.isPaired_of_idle rfl)
  | loginHint? sid => exact settles_read h sid _
  | putLoginHint sid hint => exact settles_keep h sid (fun _ => rfl) (fun _ => rfl) fun _ => rfl
  | isLoginForced sid => exact settles_read h sid _
  | markLoginForced sid forced => exact settles_keep h sid (fun _ => rfl) (fun _ => rfl) fun _ => rfl
  | subject? sid => exact settles_read h sid _
  | loginTime? sid => exact settles_read h sid _
  | putLogin sid subject time => exact settles_keep h sid (fun _ => rfl) (fun _ => rfl) fun _ => rfl
  | forgetSubject sid => exact settles_keep h sid (fun _ => rfl) (fun _ => rfl) fun _ => rfl

-- ---------------------------------------------------------------------------
-- Many calls
-- ---------------------------------------------------------------------------

/-- The store after some calls, one after the other. A call that fails does not stop the rest. -/
def performed (calls : List (Σ α, Call α)) (store : Store) : Store :=
  calls.foldl (fun store call => stateOf (call.2.run store)) store

theorem isPaired_performed (h : store.IsPaired first) (calls : List (Σ α, Call α)) :
    (performed calls store).IsPaired first := by
  induction calls generalizing store with
  | nil => exact h
  | cons call rest ih =>
    obtain ⟨after, hafter, ⟨a, hrun⟩ | ⟨cause, hrun, -⟩⟩ := call.2.settles h
    all_goals
      rw [performed, List.foldl_cons, hrun]
      exact ih hafter

theorem isPaired_emptied (sessions : Sessions) (faults : Faults) :
    Store.IsPaired faults ⟨sessions.emptied, faults⟩ := by
  refine ⟨?_, fun sid => State.isPaired_of_idle ?_, id⟩
  · cases sessions with
    | memory states => trivial
    | table rows => exact fun sid row hrow => by cases hrow
  · cases sessions <;> rfl

/-- After every sequence of calls on a store that was empty, in memory or in a table, every session
can be read and is paired, and a further call that fails leaves all sessions as they are. Without
faults it fails for a client that does not match or for a record that has no document. -/
theorem sessions_paired (sessions : Sessions) (faults : Faults) (calls : List (Σ α, Call α)) :
    let store := performed calls ⟨sessions.emptied, faults⟩
    (∀ sid, ∃ state, store.sessions.read sid = .ok state ∧ state.IsPaired) ∧
    ∀ (α : Type) (call : Call α) (cause : Failure) (after : Store),
      call.run store = .error cause after →
        Refusal faults cause ∧ after.sessions = store.sessions := by
  intro store
  have hstore : store.IsPaired faults := isPaired_performed (isPaired_emptied sessions faults) calls
  refine ⟨fun sid => ?_, fun α call cause after hrun => ?_⟩
  · obtain ⟨state, hread⟩ := Sessions.read_of_sound hstore.sound sid
    have hpaired := hstore.every sid
    rw [Store.state, hread] at hpaired
    exact ⟨state, hread, hpaired⟩
  · obtain ⟨after', -, ⟨a, hok⟩ | ⟨cause', herror, hcause, hs⟩⟩ := call.settles hstore
    · cases hok.symm.trans hrun
    · cases herror.symm.trans hrun
      exact ⟨hcause, hs⟩

end

-- A client that does not match is refused, and the first one stays.
example :
    let client (id : String) := ({ clientId := id, redirectUris := ∅ } : Client).toRecord
    let request : Request := { clientId := "web" }
    let store := performed [⟨_, .startInteraction "s" request.toRecord ∅ (client "web")⟩,
      ⟨_, .replaceClient "s" (client "app")⟩] ⟨.table ∅, .none⟩
    (store.state "s").pending = some request.toRecord ∧
      (store.state "s").client = some (client "web") := by
  decide +kernel

end SignOn.Session
