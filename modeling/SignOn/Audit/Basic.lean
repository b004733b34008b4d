import SignOn.Json.Basic
import SignOn.Time.Basic

/-!
# The audit log

The log tells what happened, to which client and subject, from which address and with which outcome.
It grows at its end. A listing shows the newest of the entries that pass its filters: later times
first, and of equal times the entry that was logged last.
-/

namespace SignOn.Audit

structure Entry where
  time : Instant
  event : String
  clientId : Option String := none
  subject : Option String := none
  ip : Option String := none
  outcome : String
  deriving DecidableEq, Repr

def Entry.toJson (entry : Entry) : Json :=
  .object [
    ("created_at", .text (Time.isoText entry.time)),
    ("event_type", .text entry.event),
    ("client_id", .ofOption .text entry.clientId),
    ("subject", .ofOption .text entry.subject),
    ("ip", .ofOption .text entry.ip),
    ("outcome", .text entry.outcome)]

/-- Entries in the order in which they were logged. -/
abbrev Log := List Entry

def success : String := "success"

def failure : String := "fail"

structure Event where
  name : String
  outcome : String := success
  deriving DecidableEq, Repr

namespace Event

def requestAccepted : Event := ⟨"authz_request_accepted", success⟩

def requestRejected : Event := ⟨"authz_request_rejected", failure⟩

def reauthenticationForced : Event := ⟨"reauth_forced", success⟩

def passiveDenied : Event := ⟨"prompt_none_denied", failure⟩

def completed : Event := ⟨"authz_completed", success⟩

def loginSucceeded : Event := ⟨"login_ok", success⟩

def loginFailed : Event := ⟨"login_fail", failure⟩

def entry (event : Event) (time : Instant) (clientId subject ip : Option String) : Entry :=
  { time, event := event.name, outcome := event.outcome, clientId, subject, ip }

end Event

/-- The filters of a listing; an empty one lets every entry pass. -/
structure Query where
  limit : Int := 100
  event : Option String := none
  outcome : Option String := none
  clientId : Option String := none
  deriving DecidableEq, Repr

def passes (filter value : Option String) : Bool :=
  match filter with
  | none => true
  | some wanted => wanted == "" || value == some wanted

def Query.accepts (query : Query) (entry : Entry) : Bool :=
  passes query.event (some entry.event) && passes query.outcome (some entry.outcome) &&
    passes query.clientId entry.clientId

/-- The number of entries a listing may show, between 1 and 500. -/
def Query.size (query : Query) : Nat :=
  (min (max 1 query.limit) 500).toNat

def newestFirst (log : Log) : Log :=
  log.reverse.mergeSort fun a b => decide (b.time.micros ≤ a.time.micros)

def list (log : Log) (query : Query) : Log :=
  ((newestFirst log).filter query.accepts).take query.size

end SignOn.Audit
