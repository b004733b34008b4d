import SignOn.Assoc
import SignOn.Json.Number
import SignOn.Text.Hex
import SignOn.Text.Utf8

/-!
# Reading Json

`parse` takes one value with spaces around it, and also a value that is not a number or infinite. Of
repeated fields the first gives the place and the last the value. A text may not hold a raw control
character; half of a surrogate pair that is written alone is read as U+FFFD.
-/

namespace SignOn.Json

def maxDepth : Nat := 990

def isSpace (c : Char) : Bool :=
  c == ' ' || c == '\t' || c == '\n' || c == '\r'

def skipSpace (s : List Char) : List Char :=
  s.dropWhile isSpace

def simpleEscape? : Char → Option Char
  | '"' => some '"'
  | '\\' => some '\\'
  | '/' => some '/'
  | 'b' => some '\x08'
  | 'f' => some '\x0c'
  | 'n' => some '\n'
  | 'r' => some '\r'
  | 't' => some '\t'
  | _ => none

def isHighSurrogate (n : Nat) : Bool :=
  decide (0xd800 ≤ n ∧ n ≤ 0xdbff)

def isLowSurrogate (n : Nat) : Bool :=
  decide (0xdc00 ≤ n ∧ n ≤ 0xdfff)

def joinSurrogates (high low : Nat) : Char :=
  Char.ofNat (0x10000 + (high - 0xd800) * 0x400 + (low - 0xdc00))

/-- The characters of code points. Two halves of a surrogate pair are one character; a half that
stands alone is none and becomes U+FFFD. -/
def charsOf : List Nat → List Char
  | [] => []
  | [n] => [loneChar n]
  | n :: m :: rest =>
    if isHighSurrogate n && isLowSurrogate m then joinSurrogates n m :: charsOf rest
    else loneChar n :: charsOf (m :: rest)
where
  loneChar (n : Nat) : Char :=
    if isHighSurrogate n || isLowSurrogate n then Text.Utf8.replacement else Char.ofNat n

theorem not_isSurrogate_toNat (c : Char) :
    isHighSurrogate c.toNat = false ∧ isLowSurrogate c.toNat = false := by
  have h : c.toNat < 0xd800 ∨ 0xdfff < c.toNat ∧ c.toNat < 0x110000 := c.valid
  simp only [isHighSurrogate, isLowSurrogate, decide_eq_false_iff_not]
  omega

/-- Reads a text after its opening quotation mark, up to the closing one, as code points. -/
def readPoints : List Char → Option (List Nat × List Char)
  | [] => none
  | '"' :: rest => some ([], rest)
  | '\\' :: 'u' :: a :: b :: c :: d :: rest =>
    match Text.hexValue? [a, b, c, d] with
    | none => none
    | some n => (readPoints rest).map fun (points, rest) => (n :: points, rest)
  | '\\' :: c :: rest =>
    match simpleEscape? c with
    | none => none
    | some c => (readPoints rest).map fun (points, rest) => (c.toNat :: points, rest)
  | c :: rest =>
    if c.toNat < 0x20 then none
    else (readPoints rest).map fun (points, rest) => (c.toNat :: points, rest)

def readText (s : List Char) : Option (String × List Char) :=
  (readPoints s).map fun (points, rest) => (String.ofList (charsOf points), rest)

mutual
/-- Reads one value within at most `room` arrays and objects. Each step takes one unit of `fuel`. -/
def readValue (room : Nat) : Nat → List Char → Except Fault (Json × List Char)
  | 0, _ => .error .malformed
  | fuel + 1, s =>
    match skipSpace s with
    | 'n' :: 'u' :: 'l' :: 'l' :: rest => .ok (.null, rest)
    | 't' :: 'r' :: 'u' :: 'e' :: rest => .ok (.bool true, rest)
    | 'f' :: 'a' :: 'l' :: 's' :: 'e' :: rest => .ok (.bool false, rest)
    | 'N' :: 'a' :: 'N' :: rest => .ok (.nonInteger "NaN", rest)
    | 'I' :: 'n' :: 'f' :: 'i' :: 'n' :: 'i' :: 't' :: 'y' :: rest => .ok (infinite false, rest)
    | '-' :: 'I' :: 'n' :: 'f' :: 'i' :: 'n' :: 'i' :: 't' :: 'y' :: rest =>
      .ok (infinite true, rest)
    | '"' :: rest =>
      match readText rest with
      | none => .error .malformed
      | some (content, rest) => .ok (.text content, rest)
    | '[' :: rest =>
      match room, skipSpace rest with
      | 0, _ => .error .tooDeep
      | _, ']' :: rest => .ok (.array [], rest)
      | room + 1, rest =>
        (readItems room fuel rest).map fun (items, rest) => (.array items, rest)
    | '{' :: rest =>
      match room, skipSpace rest with
      | 0, _ => .error .tooDeep
      | _, '}' :: rest => .ok (.object [], rest)
      | room + 1, rest =>
        (readFields room fuel rest).map fun (fields, rest) =>
          (.object (Assoc.ofList fields).entries, rest)
    | '-' :: rest => readNumber true rest
    | rest => readNumber false rest

def readItems (room : Nat) : Nat → List Char → Except Fault (List Json × List Char)
  | 0, _ => .error .malformed
  | fuel + 1, s =>
    (readValue room fuel s).bind fun (item, rest) =>
      match skipSpace rest with
      | ',' :: rest =>
        (readItems room fuel rest).map fun (items, rest) => (item :: items, rest)
      | ']' :: rest => .ok ([item], rest)
      | _ => .error .malformed

def readFields (room : Nat) : Nat → List Char → Except Fault (List (String × Json) × List Char)
  | 0, _ => .error .malformed
  | fuel + 1, s =>
    match skipSpace s with
    | '"' :: rest =>
      match readText rest with
      | none => .error .malformed
      | some (name, rest) =>
        match skipSpace rest with
        | ':' :: rest =>
          (readValue room fuel rest).bind fun (value, rest) =>
            match skipSpace rest with
            | ',' :: rest =>
              (readFields room fuel rest).map fun (fields, rest) => ((name, value) :: fields, rest)
            | '}' :: rest => .ok ([(name, value)], rest)
            | _ => .error .malformed
        | _ => .error .malformed
    | _ => .error .malformed
end

/-- At most two steps are taken for a character, so twice the length of the text and one more are
enough. -/
def parse (s : String) : Except Fault Json :=
  (readValue maxDepth (2 * s.toList.length + 1) s.toList).bind fun (json, rest) =>
    if (skipSpace rest).isEmpty then .ok json else .error .malformed

end SignOn.Json
