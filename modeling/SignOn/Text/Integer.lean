import SignOn.Text.Cut
import SignOn.Text.Numeral

/-!
# Integers in plain digits

A plain integer is a run of ASCII digits without a zero in front, perhaps after a minus sign. `read`
takes plain integers and texts that are plain once they are tidied: without the spaces around them, a
plus sign, zeros in front, zeros behind a point and single underscores.
-/

namespace SignOn.Text.Integer

open Numeral

/-- Reads a plain integer. Its length, with the sign, is judged before what follows it. -/
def readPlain (s : List Char) : Except Fault Int :=
  let negative := s.head? == some '-'
  let (digits, rest) := takeDigits (if negative then s.tail else s)
  if digits.isEmpty then .error .malformed
  else if maxDigits < s.length - rest.length then .error (.tooLong digits.length)
  else if !rest.isEmpty then .error .malformed
  else
    let n : Int := valueOf digits
    .ok (if negative then -n else n)

/-- A plus sign may not stand before a minus. -/
def dropPlus : List Char → Option (List Char)
  | '+' :: '-' :: _ => none
  | '+' :: rest => some rest
  | s => some s

/-- Goes on behind zeros and underscores, of which `last` is the last one. It stays where nothing
follows it, or a point. -/
def dropZerosAfter (last : Char) : List Char → Option (List Char)
  | [] => some [last]
  | c :: rest =>
    if c = '0' ∨ c = '_' then dropZerosAfter c rest
    else if c.isDigit ∨ c = '-' then some (c :: rest)
    else if c = '.' then some (last :: c :: rest)
    else none

/-- Drops the zeros in front with the underscores among them. The text has to go on as a number. -/
def dropZeros : List Char → Option (List Char)
  | [] => none
  | c :: rest =>
    if c = '0' then dropZerosAfter c rest
    else if c.isDigit ∨ c = '-' then some (c :: rest)
    else none

/-- Drops a point with nothing but zeros behind it. -/
def dropFraction (s : List Char) : List Char :=
  match cut '.' s with
  | (whole, some zeros) => if !zeros.isEmpty && zeros.all (· == '0') then whole else s
  | (_, none) => s

/-- Drops the underscores, if none stands at an end or beside another one. -/
def dropJoins (s : List Char) : List Char :=
  let groups := s.splitOn '_'
  if groups.any (·.isEmpty) then s else groups.flatten

def tidy (s : List Char) : Option (List Char) :=
  ((dropPlus (trimBy isPadding s)).bind dropZeros).map fun s => dropJoins (dropFraction s)

/-- A tidied text of too many digits is no integer. -/
def read (text : String) : Except Fault Int :=
  match readPlain text.toList with
  | .error .malformed =>
    match (tidy text.toList).map readPlain with
    | some (.ok n) => .ok n
    | _ => .error .malformed
  | result => result

end SignOn.Text.Integer
