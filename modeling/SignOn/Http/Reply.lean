import SignOn.Answer
import SignOn.Http.Request
import SignOn.LoginPage
import SignOn.Settings

/-!
# Replies

A reply is an answer as the server sends it: status, headers and body.
-/

namespace SignOn

def FieldProblem.name : FieldProblem → String
  | .missing => "missing"
  | .notInteger => "int_parsing"
  | .tooManyDigits => "int_parsing_size"

def FieldPlace.name : FieldPlace → String
  | .body => "body"
  | .query => "query"

namespace Http

inductive Body where
  | empty
  | html (page : String)
  | plain (text : String)
  | json (document : Json)
  /-- A document that lists fields with what is wrong with them. -/
  | invalid (fields : List InvalidField)
  deriving DecidableEq, Repr

def Body.contentType : Body → Option String
  | .empty => none
  | .html _ => some "text/html; charset=utf-8"
  | .plain _ => some "text/plain; charset=utf-8"
  | .json _ | .invalid _ => some "application/json"

structure Reply where
  status : Nat
  location : Option String := none
  setCookie : Option String := none
  body : Body := .empty
  deriving DecidableEq, Repr

namespace Reply

def keptInLocation : List Char :=
  [':', '/', '%', '#', '?', '=', '@', '[', ']', '!', '$', '&', '\'', '(', ')', '*', '+', ',', ';']

def quoteChar (c : Char) : List Char :=
  if Uri.Form.isPlain c || keptInLocation.contains c then [c]
  else (String.utf8EncodeChar c).flatMap Uri.Form.percent

def quoteLocation (address : String) : String :=
  String.ofList (address.toList.flatMap quoteChar)

def reentryAddress (settings : Settings) (parameters : List (String × String)) : String :=
  settings.authorizePath ++ "?" ++ String.ofList (Uri.Form.encode parameters)

def target? (settings : Settings) : Answer → Option String
  | .reentry parameters => some (reentryAddress settings parameters)
  | .clientRedirect uri => some uri
  | .slashless origin path query => some (addressOf origin path query)
  | _ => none

/-- An identifier inside a page; nothing stands for null. -/
def pageText (clientId : Json) : String :=
  if clientId.isEmpty then "" else clientId.shown

def detail (message : String) : Body :=
  .json (.object [("detail", .text message)])

def bodyOf (settings : Settings) : Answer → Body
  | .handoff handoff => .json handoff.toJson
  | .loginForm clientId hint =>
    .html (LoginPage.render
      { action := settings.loginPath, clientId := pageText clientId, username := hint.getD "" })
  | .loginRejected clientId username =>
    .html (LoginPage.render
      { action := settings.loginPath, clientId := pageText clientId, username
        error := "Invalid username or password." })
  | .reentry _ | .clientRedirect _ | .slashless .. => .empty
  | .refusal _ message => .plain message
  | .noInteraction =>
    .html "<h1>Invalid request</h1><p>No authorization request in progress.</p>"
  | .auditList entries => .json (.array (entries.map Audit.Entry.toJson))
  | .health => .json (.object [("status", .text "ok"), ("service", .text "oidc_idp")])
  | .invalidFields fields => .invalid fields
  | .unreadForm message => detail message
  | .methodNotAllowed => detail "Method Not Allowed"
  | .notFound => detail "Not Found"

def sessionCookie (settings : Settings) (sid : String) : String :=
  settings.cookieName ++ "=" ++ sid ++ "; HttpOnly; Path=/; SameSite=lax" ++
    if settings.cookieSecure then "; Secure" else ""

/-- The reply for an answer, to a browser that gets an identifier or has one already. -/
def ofAnswer (settings : Settings) (answer : Answer) (newSession : Option String) : Reply :=
  { status := answer.status
    location := (target? settings answer).map quoteLocation
    setCookie := newSession.map (sessionCookie settings)
    body := bodyOf settings answer }

end Reply

end Http

end SignOn
