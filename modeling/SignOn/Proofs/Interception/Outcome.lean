import SignOn.Proofs.Interception.Verdict

/-!
# What an interception does

`Interceptor.Outcome` lists the ways in which an interception of a session can end, each with what
it leaves in the session, and `Interceptor.Saved` the states that are saved on the way. These are
all (`intercept_writes`). On a healthy store every interception runs to its end (`intercept_run`): a
failure is a result among the others, and it changes the login hint at most.
-/

namespace SignOn

namespace Interceptor

open Session (State Store)

/-- The results of an interception and the states it leaves, by the state it finds. -/
inductive Outcome (interceptor : Interceptor) (takes : State → Bool) (path : String)
    (parameters : Request.Parameters) (state : State) :
    Except Failure Interception → State → Prop
  | unconcerned (hc : covers interceptor.authorizePath path = false) :
    Outcome interceptor takes path parameters state (.ok .unconcerned) state
  | resumed (hc : covers interceptor.authorizePath path = true)
      (hp : state.pending = some pending) :
    Outcome interceptor takes path parameters state (.ok (.resumed pending.clientId)) state
  | rejected (hc : covers interceptor.authorizePath path = true) (hp : state.pending = none)
      (hr : readRequest interceptor.registry (Request.singleValues parameters) = .error cause)
      (clientId : Option String) :
    Outcome interceptor takes path parameters state (.ok (.rejected clientId)) state
  | failed (hc : covers interceptor.authorizePath path = true) (hp : state.pending = none)
      (hr : readRequest interceptor.registry (Request.singleValues parameters) = .error cause) :
    Outcome interceptor takes path parameters state (.error cause) state
  | refused (hc : covers interceptor.authorizePath path = true) (hp : state.pending = none)
      (hr : readRequest interceptor.registry (Request.singleValues parameters) =
        .ok (request, client))
      (ht : takes (state.started request (Request.singleValues parameters) client) = false) :
    Outcome interceptor takes path parameters state (.error (.document .unordered))
      { state with loginHint := request.loginHint }
  | decided (hc : covers interceptor.authorizePath path = true) (hp : state.pending = none)
      (hr : readRequest interceptor.registry (Request.singleValues parameters) =
        .ok (request, client))
      (ht : takes (state.started request (Request.singleValues parameters) client) = true) :
    Outcome interceptor takes path parameters state
      (.ok (.decided (interceptor.verdict state request client) client.clientId))
      (interceptor.accepted state (Request.singleValues parameters) request client)

/-- The states that an interception saves in a session, by the state it finds. -/
inductive Saved (interceptor : Interceptor) (state : State) (parameters : Assoc String) :
    List State → Prop
  | nothing : Saved interceptor state parameters []
  | refused (request : Request) :
    Saved interceptor state parameters
      [{ state with loginHint := request.loginHint }, { state with loginHint := request.loginHint }]
  | accepted (request : Request) (client : Client) :
    Saved interceptor state parameters
      (interceptor.acceptedStates state parameters request client)

def unread (cause : Failure) (parameters : Assoc String) : Except Failure Interception :=
  match cause with
  | .request _ | .unknownClient _ =>
    .ok (.rejected (Request.nonEmpty (parameters.get? "client_id")))
  | failure => .error failure

section
variable {takes : State → Bool} {sid : Session.Id} {state : State} {interceptor : Interceptor}
  {path : String} {parameters : Request.Parameters}

theorem unconcerned_writes (hc : covers interceptor.authorizePath path = false) :
    Session.Writes takes sid (interceptor.intercept path parameters sid) state []
      (.ok .unconcerned) := by
  simp only [intercept, hc, Bool.not_false, ↓reduceIte]
  exact .of_load fun _ _ => rfl

variable (hc : covers interceptor.authorizePath path = true)
include hc

theorem resumed_writes (hp : state.pending = some pending) :
    Session.Writes takes sid (interceptor.intercept path parameters sid) state []
      (.ok (.resumed pending.clientId)) := by
  have hload (store : Store) (hl : Session.load sid store = .ok state store) :
      Session.pending? sid store = .ok (some pending) store := hp ▸ Session.read_of_load hl _
  simp only [intercept, hc, Bool.not_true, Bool.false_eq_true, ↓reduceIte]
  exact .bind_load hload (.of_load fun _ _ => rfl)

variable (hp : state.pending = none)
include hp

theorem unread_writes
    (hr : readRequest interceptor.registry (Request.singleValues parameters) = .error cause) :
    Session.Writes takes sid (interceptor.intercept path parameters sid) state []
      (unread cause (Request.singleValues parameters)) := by
  have hload (store : Store) (hl : Session.load sid store = .ok state store) :
      Session.pending? sid store = .ok none store := hp ▸ Session.read_of_load hl _
  simp only [intercept, hc, Bool.not_true, Bool.false_eq_true, ↓reduceIte]
  refine .bind_load hload ?_
  rw [hr]
  cases cause <;> exact .of_load fun _ _ => rfl

theorem read_writes
    (hr : readRequest interceptor.registry (Request.singleValues parameters) =
      .ok (request, client))
    (hw : Session.Writes takes sid
      (interceptor.accept sid (Request.singleValues parameters) request client) state written
      result) :
    Session.Writes takes sid (interceptor.intercept path parameters sid) state written result := by
  have hload (store : Store) (hl : Session.load sid store = .ok state store) :
      Session.pending? sid store = .ok none store := hp ▸ Session.read_of_load hl _
  simp only [intercept, hc, Bool.not_true, Bool.false_eq_true, ↓reduceIte]
  refine .bind_load hload ?_
  rw [hr]
  exact hw

end

theorem intercept_writes (interceptor : Interceptor) (takes : State → Bool) (sid : Session.Id)
    (path : String) (parameters : Request.Parameters) (state : State) :
    ∃ result written,
      Session.Writes takes sid (interceptor.intercept path parameters sid) state written result ∧
      interceptor.Outcome takes path parameters state result (written.getLastD state) ∧
      interceptor.Saved state (Request.singleValues parameters) written := by
  cases hc : covers interceptor.authorizePath path with
  | false => exact ⟨_, _, unconcerned_writes hc, .unconcerned hc, .nothing⟩
  | true =>
    cases hp : state.pending with
    | some pending => exact ⟨_, _, resumed_writes hc hp, .resumed hc hp, .nothing⟩
    | none =>
      cases hr : readRequest interceptor.registry (Request.singleValues parameters) with
      | error failure =>
        refine ⟨_, _, unread_writes hc hp hr, ?_, .nothing⟩
        cases failure with
        | request cause => exact .rejected hc hp hr _
        | unknownClient clientId => exact .rejected hc hp hr _
        | _ => exact .failed hc hp hr
      | ok found =>
        obtain ⟨request, client⟩ := found
        have hid := Client.Registry.clientId_of_lookup (readRequest_eq_ok.mp hr).2
        cases ht : takes (state.started request (Request.singleValues parameters) client) with
        | false =>
          exact ⟨_, _, read_writes hc hp hr (accept_refused_writes interceptor hid ht),
            .refused hc hp hr ht, .refused request⟩
        | true =>
          refine ⟨_, _, read_writes hc hp hr (accept_writes interceptor hid ht), ?_,
            .accepted request client⟩
          rw [getLastD_acceptedStates]
          exact .decided hc hp hr ht

theorem intercept_run {store : Store} (h : store.Healthy) (interceptor : Interceptor)
    (sid : Session.Id) (path : String) (parameters : Request.Parameters) :
    ∃ result store' state,
      interceptor.intercept path parameters sid store = ending result store' ∧
      store.Updated store' sid state ∧
      interceptor.Outcome store.takes path parameters (store.state sid) result state := by
  obtain ⟨result, written, hw, ho, -⟩ :=
    interceptor.intercept_writes store.takes sid path parameters (store.state sid)
  obtain ⟨store', hrun, hu⟩ := hw.run h
  exact ⟨result, store', _, hrun, hu, ho⟩

end Interceptor

end SignOn
