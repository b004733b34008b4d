import SignOn.Client.Redirect
import SignOn.Request.Basic
import SignOn.Time.Basic

/-!
# Decisions on a request

A request is judged by its prompt and by the age of the last login. Both are functions of the
request and of what is known of the login; carrying a decision out is the work of the interception.
-/

namespace SignOn

inductive Reason where
  | prompt
  | age
  deriving DecidableEq, Repr

def Reason.name : Reason → String
  | .prompt => "prompt_login"
  | .age => "max_age"

inductive Decision where
  | proceed
  | reauthenticate (reason : Reason)
  /-- The answer goes to an address of the client. -/
  | redirect (uri : String)
  /-- The answer is an error page. -/
  | refuse (status : Nat) (message : String)
  deriving DecidableEq, Repr

namespace Decision

def forbidden : Decision :=
  .refuse 403 "Access Denied"

/-- Denies a request that must not lead to a login page. The client is told at the address of the
request, if the resolver gives one. -/
def deny (client : Option Client) (redirectUri state : Option String)
    (resolver : Client.Redirect.Resolver) : Except Uri.Fault Decision :=
  match client, Request.nonEmpty redirectUri with
  | some client, some candidate =>
    match resolver candidate client with
    | .error _ => .ok forbidden
    | .ok uri =>
      (Client.Redirect.errorUri uri Client.Redirect.loginRequired state).map .redirect
  | _, _ => .ok forbidden

/-- Judges a request by its prompt, with a live login or without, and with a login already forced
for this request or not. The token `none` is looked at before `login`; other tokens decide
nothing. -/
def ofPrompt (prompt : List String) (live forced : Bool) (client : Option Client)
    (redirectUri state : Option String) (resolver : Client.Redirect.Resolver) :
    Except Uri.Fault Decision :=
  if prompt.contains Request.noneToken then
    if live then .ok .proceed else deny client redirectUri state resolver
  else if prompt.contains Request.loginToken then
    .ok (if forced then .proceed else .reauthenticate .prompt)
  else .ok .proceed

/-- The limit of a request goes before the one that its client has registered. -/
def ageLimit (requested registered : Option α) : Option α :=
  requested.or registered

/-- Judges a request by the age of the last login: more whole seconds than the limit force a new
one. -/
def ofAge (limit : Option Int) (last : Option Instant) (now : Instant) : Decision :=
  match limit, last with
  | some limit, some last =>
    if limit < Time.wholeSeconds (now.since last) then .reauthenticate .age else .proceed
  | _, _ => .proceed

end Decision

end SignOn
