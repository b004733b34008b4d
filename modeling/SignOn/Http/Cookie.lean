import SignOn.Http.Request
import SignOn.Text.Cut

/-!
# Cookies

The cookie header is a list of names with values between semicolons. A value in quotation marks has
escapes: a backslash before three octal digits, or before the character itself.
-/

namespace SignOn.Http

namespace Cookie

def octalDigit? (c : Char) : Option Nat :=
  if '0' ≤ c && c ≤ '7' then some (c.toNat - '0'.toNat) else none

/-- The character of three octal digits, up to code point 255. -/
def octal? (a b c : Char) : Option Char :=
  match octalDigit? a, octalDigit? b, octalDigit? c with
  | some x, some y, some z => if x ≤ 3 then some (Char.ofNat (64 * x + 8 * y + z)) else none
  | _, _, _ => none

/-- What a backslash and the character behind it stand for. A line end cannot be escaped. -/
def escaped (c : Char) : List Char :=
  if c = '\n' then ['\\', '\n'] else [c]

def unescape : List Char → List Char
  | '\\' :: a :: b :: c :: rest =>
    match octal? a b c with
    | some x => x :: unescape rest
    | none => escaped a ++ unescape (b :: c :: rest)
  | '\\' :: a :: rest => escaped a ++ unescape rest
  | c :: rest => c :: unescape rest
  | [] => []

def unquote (value : List Char) : List Char :=
  if 2 ≤ value.length ∧ value.head? = some '"' ∧ value.getLast? = some '"' then
    unescape value.tail.dropLast
  else value

/-- One piece of the header. Without an equals sign the name is empty; an empty name with an empty
value is nothing. -/
def ofPiece (piece : List Char) : Option (String × String) :=
  let (name, value) :=
    match Text.cut '=' piece with
    | (name, some value) => (name, value)
    | (value, none) => ([], value)
  let name := Text.trimBy Text.isBlank name
  let value := Text.trimBy Text.isBlank value
  if name.isEmpty && value.isEmpty then none
  else some (String.ofList name, String.ofList (unquote value))

def ofHeader (header : String) : List (String × String) :=
  (header.toList.splitOn ';').filterMap ofPiece

end Cookie

def Request.cookie? (request : Request) (name : String) : Option String :=
  request.cookieHeader.bind fun header => lastValue name (Cookie.ofHeader (headerText header))

end SignOn.Http
