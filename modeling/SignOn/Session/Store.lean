import SignOn.Failure
import SignOn.Session.State

/-!
# The session store

A store keeps the state of every browser session, in memory or in a table. Each single load and save
may fail, as `Faults` says; a call that fails changes no session. All other operations are
made of loads and saves: an update is a load and a save of the changed state.
-/

namespace SignOn.Session

inductive SaveMode where
  | accept
  /-- Only a save that writes nothing succeeds. -/
  | readOnly
  | refuse
  deriving DecidableEq, Repr

/-- The fate of the coming calls, by their number from now on. -/
structure Faults where
  loadFails : Nat → Bool := fun _ => false
  saveMode : Nat → SaveMode := fun _ => .accept

namespace Faults

def none : Faults := {}

def outage : Faults :=
  { loadFails := fun _ => true, saveMode := fun _ => .refuse }

def readOnly : Faults :=
  { saveMode := fun _ => .readOnly }

def afterLoad (faults : Faults) : Faults :=
  { faults with loadFails := fun n => faults.loadFails (n + 1) }

def afterSave (faults : Faults) : Faults :=
  { faults with saveMode := fun n => faults.saveMode (n + 1) }

@[simp] theorem afterLoad_none : none.afterLoad = none := rfl

@[simp] theorem afterSave_none : none.afterSave = none := rfl

end Faults

inductive Sessions where
  | memory (states : Assoc State)
  | table (rows : Assoc Row)
  deriving DecidableEq, Repr

namespace Sessions

/-- A session that was never saved has the initial state. -/
def read (sessions : Sessions) (sid : Id) : Except Document.Fault State :=
  match sessions with
  | .memory states => .ok ((states.get? sid).getD {})
  | .table rows =>
    match rows.get? sid with
    | none => .ok {}
    | some row => row.state

/-- The sessions after a save, and whether it wrote anything. -/
def write (sessions : Sessions) (sid : Id) (state : State) : Except Document.Fault (Sessions × Bool) :=
  match sessions with
  | .memory states => .ok (.memory (states.put sid state), states.get? sid != some state)
  | .table rows =>
    (Row.ofState state).map fun row =>
      (.table (rows.put sid row), ((rows.get? sid).map (·.changes row)).getD true)

def emptied : Sessions → Sessions
  | .memory _ => .memory ∅
  | .table _ => .table ∅

end Sessions

structure Store where
  sessions : Sessions
  faults : Faults := .none

/-- A computation on the store, which keeps what was stored before a failure. -/
abbrev StoreM := EStateM Failure Store

def load (sid : Id) : StoreM State := fun store =>
  let after := { store with faults := store.faults.afterLoad }
  if store.faults.loadFails 0 then .error .storeUnavailable after
  else match store.sessions.read sid with
    | .error cause => .error (.document cause) after
    | .ok state => .ok state after

def save (sid : Id) (state : State) : StoreM Unit := fun store =>
  let after := { store with faults := store.faults.afterSave }
  match store.faults.saveMode 0 with
  | .refuse => .error .storeUnavailable after
  | mode =>
    match store.sessions.write sid state with
    | .error cause => .error (.document cause) after
    | .ok (sessions, wrote) =>
      if mode = .readOnly ∧ wrote then .error .storeUnavailable after
      else .ok () { after with sessions }

def update (sid : Id) (change : State → State) : StoreM Unit := do
  save sid (change (← load sid))

/-! ### The pending request -/

def pending? (sid : Id) : StoreM (Option Request.Record) := do
  return (← load sid).pending

def startInteraction (sid : Id) (request : Request.Record) (parameters : Assoc String)
    (client : Client.Record) : StoreM Unit := do
  if !client.clientId.countsAs request.clientId then
    throw (.clientMismatch client.clientId request.clientId)
  update sid fun state =>
    { state with pending := some request, parameters := some parameters, client := some client }

def parameters? (sid : Id) : StoreM (Option (Assoc String)) := do
  return (← load sid).parameters

def client? (sid : Id) : StoreM (Option Client.Record) := do
  return (← load sid).client

def replaceClient (sid : Id) (client : Client.Record) : StoreM Unit := do
  if let some pending ← pending? sid then
    if !client.clientId.countsAs pending.clientId then
      throw (.pendingMismatch client.clientId)
  update sid fun state => { state with client := some client }

/-- Ends the interaction. The marker of `prompt=login` goes with it, unless the same request is on
its way back to be judged again. -/
def endInteraction (sid : Id) (keepMarker : Bool) : StoreM Unit :=
  update sid fun state =>
    { state with
      pending := none, parameters := none, client := none
      loginForced := keepMarker && state.loginForced }

/-! ### The login hint -/

def loginHint? (sid : Id) : StoreM (Option String) := do
  return (← load sid).loginHint

def putLoginHint (sid : Id) (hint : Option String) : StoreM Unit :=
  update sid fun state => { state with loginHint := hint }

/-! ### The marker of `prompt=login` -/

def isLoginForced (sid : Id) : StoreM Bool := do
  return (← load sid).loginForced

def markLoginForced (sid : Id) (forced : Bool) : StoreM Unit :=
  update sid fun state => { state with loginForced := forced }

/-! ### The login -/

def subject? (sid : Id) : StoreM (Option String) := do
  return (← load sid).subject

def loginTime? (sid : Id) : StoreM (Option Instant) := do
  return (← load sid).loginTime

def putLogin (sid : Id) (subject : String) (time : Option Instant) : StoreM Unit :=
  update sid fun state => { state with subject := some subject, loginTime := time }

/-- Forgets who is logged in. The time of the login stays: requests are still judged by it. -/
def forgetSubject (sid : Id) : StoreM Unit :=
  update sid fun state => { state with subject := none }

end SignOn.Session
