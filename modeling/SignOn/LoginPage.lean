/-!
# The login page

`Text.Markup.escape` writes a text so that it means itself in an element and in an attribute between
double or single quotes. `Text.Markup.unescape` reads the five character references that `escape`
writes. The page is a fixed sequence of parts. Some are markup, the same for every page; the others are
texts, which are escaped, so that a page with an error message and one without are the only two
shapes there are.
-/

namespace SignOn.Text.Markup

def escapeChar : Char → List Char
  | '&' => ['&', 'a', 'm', 'p', ';']
  | '<' => ['&', 'l', 't', ';']
  | '>' => ['&', 'g', 't', ';']
  | '"' => ['&', 'q', 'u', 'o', 't', ';']
  | '\'' => ['&', '#', 'x', '2', '7', ';']
  | c => [c]

def escapeChars (s : List Char) : List Char :=
  s.flatMap escapeChar

def escape (s : String) : String :=
  String.ofList (escapeChars s.toList)

/-- An ampersand that begins none of the five references means itself. -/
def unescapeChars : List Char → List Char
  | '&' :: 'a' :: 'm' :: 'p' :: ';' :: rest => '&' :: unescapeChars rest
  | '&' :: 'l' :: 't' :: ';' :: rest => '<' :: unescapeChars rest
  | '&' :: 'g' :: 't' :: ';' :: rest => '>' :: unescapeChars rest
  | '&' :: 'q' :: 'u' :: 'o' :: 't' :: ';' :: rest => '"' :: unescapeChars rest
  | '&' :: '#' :: 'x' :: '2' :: '7' :: ';' :: rest => '\'' :: unescapeChars rest
  | c :: rest => c :: unescapeChars rest
  | [] => []

def unescape (s : String) : String :=
  String.ofList (unescapeChars s.toList)

end SignOn.Text.Markup

namespace SignOn

structure LoginPage where
  /-- The path that the form is sent to. -/
  action : String
  /-- Whom the user is about to sign in to. -/
  clientId : String
  /-- What the user name is filled in with. -/
  username : String := ""
  /-- Why the last attempt failed; nothing is shown for an empty one. -/
  error : String := ""
  deriving DecidableEq, Repr

namespace LoginPage

inductive Part where
  | markup (html : String)
  | text (s : String)
  deriving DecidableEq, Repr

def Part.render : Part → String
  | .markup html => html
  | .text s => Text.Markup.escape s

def errorParts (error : String) : List Part :=
  if error = "" then []
  else [.markup "<p style=\"color:red;\">", .text error, .markup "</p>"]

def parts (page : LoginPage) : List Part :=
  [ .markup "<!DOCTYPE html>\n<html>\n"
  , .markup "<head><meta charset=\"utf-8\"><title>Log in</title></head>\n<body>\n"
  , .markup "  <h1>Log in</h1>\n  <p>Sign in to continue to <strong>"
  , .text page.clientId
  , .markup "</strong>.</p>\n  " ] ++ errorParts page.error ++
  [ .markup "\n  <form method=\"post\" action=\""
  , .text page.action
  , .markup "\">\n    <label>Username: <input type=\"text\" name=\"username\" value=\""
  , .text page.username
  , .markup "\" required/></label><br/>\n"
  , .markup "    <label>Password: <input type=\"password\" name=\"password\" required/></label><br/>\n"
  , .markup "    <button type=\"submit\">Log in</button>\n  </form>\n</body>\n</html>" ]

def render (page : LoginPage) : String :=
  String.join (page.parts.map Part.render)

end LoginPage

end SignOn
