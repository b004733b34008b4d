import SignOn.Proofs.Session.FaultLaws
import SignOn.Proofs.Session.Writes
import SignOn.Service.Routes

/-!
# Scripts of store calls

A `Script` is a computation of the service cut into the single calls that it makes of the session
store and the entries that it logs. What comes after a call depends on what the call gave, so there
is no way to go on from one that failed. `Script.events` lists what a script does to a service, call
by call. A call that fails is the last of them, and its failure is that of the script
(`Script.ends_at_failure`).
-/

namespace SignOn.Service

open Session (State StoreM)

section
variable {action : StoreM α} {service : Service} {store : Session.Store}

theorem onStore_of_ok (h : action service.store = .ok a store) :
    onStore action service = .ok a { service with store } := by
  simp only [onStore, h]

theorem onStore_of_error (h : action service.store = .error cause store) :
    onStore action service = .error cause { service with store } := by
  simp only [onStore, h]

end

inductive Script (α : Type) where
  | done (a : α)
  | fail (cause : Failure)
  /-- Looks at the clock, the hasher and the tables. -/
  | look (next : Instant → Hasher → Database → Script α)
  /-- Takes an identifier for a new session. -/
  | issue (next : Session.Id → Script α)
  | log (entries : Audit.Log) (next : Script α)
  | load (sid : Session.Id) (next : State → Script α)
  | save (sid : Session.Id) (state : State) (next : Script α)

namespace Script

def run : Script α → ServiceM α
  | done a => pure a
  | fail cause => throw cause
  | look next => fun service => (next service.now service.hasher service.database).run service
  | issue next => fun service =>
    (next (service.supply service.issued)).run { service with issued := service.issued + 1 }
  | log entries next => append entries >>= fun _ => next.run
  | load sid next => onStore (Session.load sid) >>= fun state => (next state).run
  | save sid state next => onStore (Session.save sid state) >>= fun _ => next.run

def bind : Script α → (α → Script β) → Script β
  | done a, rest => rest a
  | fail cause, _ => fail cause
  | look next, rest => look fun now hasher database => (next now hasher database).bind rest
  | issue next, rest => issue fun sid => (next sid).bind rest
  | log entries next, rest => log entries (next.bind rest)
  | load sid next, rest => load sid fun state => (next state).bind rest
  | save sid state next, rest => save sid state (next.bind rest)

theorem run_bind (script : Script α) (rest : α → Script β) :
    (script.bind rest).run = script.run >>= fun a => (rest a).run := by
  induction script with
  | done a => rfl
  | fail cause => rfl
  | look next ih =>
    funext service
    exact congrFun (ih service.now service.hasher service.database) service
  | issue next ih =>
    funext service
    exact congrFun (ih _) _
  | log entries next ih => simp only [bind, run, ih, bind_assoc]
  | load sid next ih => simp only [bind, run, ih, bind_assoc]
  | save sid state next ih => simp only [bind, run, ih, bind_assoc]

-- ---------------------------------------------------------------------------
-- Events
-- ---------------------------------------------------------------------------

/-- Something that a script does: a call with its result, or entries that it logs. -/
inductive Event where
  | loaded (sid : Session.Id) (result : Except Failure State)
  | saved (sid : Session.Id) (state : State) (result : Except Failure Unit)
  | logged (entries : Audit.Log)

def Event.failure? : Event → Option Failure
  | loaded _ (.error cause) | saved _ _ (.error cause) => some cause
  | loaded _ (.ok _) | saved _ _ (.ok _) | logged _ => none

def Event.entries : Event → Audit.Log
  | logged entries => entries
  | loaded .. | saved .. => []

theorem entries_of_failure {event : Event} (h : event.failure? = some cause) :
    event.entries = [] := by
  cases event with
  | logged entries => cases h
  | _ => rfl

def callEvents (call : StoreM β) (event : Except Failure β → Event)
    (later : β → Service → List Event) (service : Service) : List Event :=
  match onStore call service with
  | .ok b after => event (.ok b) :: later b after
  | .error cause _ => [event (.error cause)]

def events : Script α → Service → List Event
  | done _, _ | fail _, _ => []
  | look next, service => (next service.now service.hasher service.database).events service
  | issue next, service =>
    (next (service.supply service.issued)).events { service with issued := service.issued + 1 }
  | log entries next, service => .logged entries :: next.events (stateOf (append entries service))
  | load sid next, service =>
    callEvents (Session.load sid) (.loaded sid) (fun state => (next state).events) service
  | save sid state next, service =>
    callEvents (Session.save sid state) (.saved sid state) (fun _ => next.events) service

section
variable {service : Service} {earlier later : List Event} {event : Event} {cause : Failure}

/-- Events with a failure among them have it behind a first event that is none. -/
theorem behind_of_not_failure {first : Event} {rest : List Event} (hfirst : first.failure? = none)
    (hf : event.failure? = some cause) (h : first :: rest = earlier ++ event :: later) :
    ∃ between, rest = between ++ event :: later := by
  cases earlier with
  | nil =>
    cases h
    cases hfirst.symm.trans hf
  | cons other between =>
    cases h
    exact ⟨between, rfl⟩

/-- A script that begins with a call: if the call succeeds the failure is one of what follows. -/
theorem ends_at_failure_call {call : StoreM β} {made : Except Failure β → Event}
    {next : β → Script α} (hok : ∀ b, (made (.ok b)).failure? = none)
    (herror : ∀ cause, (made (.error cause)).failure? = some cause)
    (hf : event.failure? = some cause)
    (ih : ∀ b service earlier, (next b).events service = earlier ++ event :: later →
      later = [] ∧ resultOf ((next b).run service) = .error cause)
    (h : callEvents call made (fun b => (next b).events) service = earlier ++ event :: later) :
    later = [] ∧ resultOf ((onStore call >>= fun b => (next b).run) service) = .error cause := by
  unfold callEvents at h
  cases hcall : onStore call service with
  | ok b after =>
    rw [hcall] at h
    obtain ⟨between, hrest⟩ := behind_of_not_failure (hok b) hf h
    rw [SignOn.run_bind hcall]
    exact ih b after between hrest
  | error failure after =>
    rw [hcall] at h
    cases earlier with
    | nil =>
      cases h
      cases (herror failure).symm.trans hf
      rw [run_bind_error hcall]
      exact ⟨rfl, rfl⟩
    | cons other between =>
      have hnil := (List.cons.inj h).2
      simp at hnil

/-- A call that fails is the last event of a script, which ends with the failure of the call. -/
theorem ends_at_failure (script : Script α) (hf : event.failure? = some cause)
    (h : script.events service = earlier ++ event :: later) :
    later = [] ∧ resultOf (script.run service) = .error cause := by
  induction script generalizing service earlier with
  | done a => simp [events] at h
  | fail failure => simp [events] at h
  | look next ih => exact ih _ _ _ h
  | issue next ih => exact ih _ h
  | log entries next ih =>
    obtain ⟨between, hrest⟩ := behind_of_not_failure rfl hf h
    exact ih hrest
  | load sid next ih =>
    exact ends_at_failure_call (fun _ => rfl) (fun _ => rfl) hf (fun state _ _ => ih state) h
  | save sid state next ih =>
    exact ends_at_failure_call (fun _ => rfl) (fun _ => rfl) hf (fun _ _ _ => ih) h

end

-- ---------------------------------------------------------------------------
-- The log
-- ---------------------------------------------------------------------------

theorem audit_call {call : StoreM β} {made : Except Failure β → Event} {next : β → Script α}
    (hmade : ∀ result, (made result).entries = [])
    (ih : ∀ b service, (stateOf ((next b).run service)).database.audit =
      service.database.audit ++ ((next b).events service).flatMap Event.entries)
    (service : Service) :
    (stateOf ((onStore call >>= fun b => (next b).run) service)).database.audit =
      service.database.audit ++
        (callEvents call made (fun b => (next b).events) service).flatMap Event.entries := by
  cases hcall : call service.store with
  | ok b store =>
    have hrun := onStore_of_ok hcall
    simp only [callEvents, SignOn.run_bind hrun, hrun, ih, List.flatMap_cons, hmade,
      List.nil_append]
  | error cause store =>
    have hrun := onStore_of_error hcall
    simp only [callEvents, run_bind_error hrun, hrun, stateOf, List.flatMap_cons, hmade,
      List.flatMap_nil, List.append_nil]

theorem audit_run (script : Script α) (service : Service) :
    (stateOf (script.run service)).database.audit =
      service.database.audit ++ (script.events service).flatMap Event.entries := by
  induction script generalizing service with
  | done a => exact (List.append_nil _).symm
  | fail cause => exact (List.append_nil _).symm
  | look next ih => exact ih _ _ _ service
  | issue next ih => exact ih _ _
  | log entries next ih =>
    have happend : append entries service = .ok () (stateOf (append entries service)) := rfl
    rw [run, SignOn.run_bind happend, ih, events, List.flatMap_cons, ← List.append_assoc]
    rfl
  | load sid next ih => exact audit_call (fun _ => rfl) ih service
  | save sid state next ih => exact audit_call (fun _ => rfl) (fun _ => ih) service

end Script

-- ---------------------------------------------------------------------------
-- Scripts on a store that works again
-- ---------------------------------------------------------------------------

def restored (service : Service) : Service :=
  { service with store := service.store.restored }

/-- An action on a service whose store may fail is cut short by a store that is unavailable, or it
does what it does on a store that works. -/
def Survives (action : ServiceM α) (service : Service) : Prop :=
  resultOf (action service) = .error .storeUnavailable ∨
    action service.restored = ending (resultOf (action service)) (stateOf (action service)).restored

section
variable {service : Service}

theorem Survives.bind {action : ServiceM α} {rest : α → ServiceM β} (h : Survives action service)
    (hrest : ∀ a after, Survives (rest a) after) : Survives (action >>= rest) service := by
  cases ha : action service with
  | error cause after =>
    unfold Survives at h ⊢
    rw [ha] at h
    rw [run_bind_error ha]
    rcases h with h | h
    · exact .inl (congrArg Except.error (Except.error.inj h))
    · exact .inr (run_bind_error h)
  | ok a after =>
    rcases h with h | h
    · rw [ha] at h
      cases h
    · rw [ha] at h
      have h' := hrest a after
      unfold Survives at h' ⊢
      rw [run_bind ha, run_bind h]
      exact h'

theorem survives_load (sid : Session.Id) (service : Service) :
    Survives (onStore (Session.load sid)) service := by
  unfold Survives onStore Session.load
  cases service.store.faults.loadFails 0 with
  | true => exact .inl rfl
  | false =>
    right
    simp only [restored, Session.Store.restored]
    cases service.store.sessions.read sid <;> rfl

theorem survives_save (sid : Session.Id) (state : State) (service : Service) :
    Survives (onStore (Session.save sid state)) service := by
  unfold Survives onStore Session.save
  simp only [restored, Session.Store.restored]
  cases service.store.faults.saveMode 0 with
  | refuse => exact .inl rfl
  | accept =>
    right
    cases service.store.sessions.write sid state <;> rfl
  | readOnly =>
    cases service.store.sessions.write sid state with
    | error cause => exact .inr rfl
    | ok written =>
      obtain ⟨sessions, wrote⟩ := written
      cases wrote with
      | true => exact .inl rfl
      | false => exact .inr rfl

theorem Script.survives (script : Script α) (service : Service) : Survives script.run service := by
  induction script generalizing service with
  | done a => exact .inr rfl
  | fail cause => exact .inr rfl
  | look next ih => exact ih _ _ _ service
  | issue next ih => exact ih _ _
  | log entries next ih => exact Survives.bind (.inr rfl) fun _ => ih
  | load sid next ih => exact (survives_load sid service).bind ih
  | save sid state next ih => exact (survives_save sid state service).bind fun _ => ih

end

end SignOn.Service
