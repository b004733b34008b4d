import SignOn.Text.Cut
import SignOn.Text.Printable

/-!
# Integer numerals

A numeral is an optional sign and groups of decimal digits, of any script, joined by single
underscores. Leading zeros are allowed, spaces around the numeral are not part of it, and more than
`maxDigits` digits are refused. Each script with decimal digits has them in one run of ten, from
zero to nine; `digitZeros` holds the zeros (Unicode 14, general category Nd).
-/

namespace SignOn.Text

def digitZeros : List Nat := [
  0x30, 0x660, 0x6f0, 0x7c0, 0x966, 0x9e6, 0xa66, 0xae6, 0xb66, 0xbe6, 0xc66, 0xce6, 0xd66,
  0xde6, 0xe50, 0xed0, 0xf20, 0x1040, 0x1090, 0x17e0, 0x1810, 0x1946, 0x19d0, 0x1a80, 0x1a90,
  0x1b50, 0x1bb0, 0x1c40, 0x1c50, 0xa620, 0xa8d0, 0xa900, 0xa9d0, 0xa9f0, 0xaa50, 0xabf0,
  0xff10, 0x104a0, 0x10d30, 0x11066, 0x110f0, 0x11136, 0x111d0, 0x112f0, 0x11450, 0x114d0,
  0x11650, 0x116c0, 0x11730, 0x118e0, 0x11950, 0x11c50, 0x11d50, 0x11da0, 0x16a60, 0x16ac0,
  0x16b50, 0x1d7ce, 0x1d7d8, 0x1d7e2, 0x1d7ec, 0x1d7f6, 0x1e140, 0x1e2f0, 0x1e950, 0x1fbf0
]

/-- The value of a decimal digit of any script. Superscripts, fractions and letters that count in
some numeral system have none. -/
def digitValue? (c : Char) : Option Nat :=
  (digitZeros.find? fun first => decide (first ≤ c.toNat ∧ c.toNat < first + 10)).map (c.toNat - ·)

def isDigit (c : Char) : Bool :=
  (digitValue? c).isSome

namespace Numeral

inductive Fault where
  /-- The text is no numeral. -/
  | malformed
  /-- A numeral of too many digits, with their number. -/
  | tooLong (digits : Nat)
  deriving DecidableEq, Repr

def maxDigits : Nat := 4300

/-- What may stand around a numeral: every blank but the information separators. -/
def isPadding (c : Char) : Bool :=
  isBlank c && !decide (28 ≤ c.toNat ∧ c.toNat ≤ 31)

/-- Splits off a sign; the first part tells whether it was a minus. -/
def splitSign : List Char → Bool × List Char
  | '+' :: rest => (false, rest)
  | '-' :: rest => (true, rest)
  | s => (false, s)

def isDigitOrJoin (c : Char) : Bool :=
  isDigit c || c == '_'

/-- The number that decimal digits write; a character that is no digit counts as zero. -/
def valueOf (digits : List Char) : Nat :=
  digits.foldl (fun n c => 10 * n + (digitValue? c).getD 0) 0

/-- Splits off the ASCII digits in front. A zero in front stands alone. -/
def takeDigits : List Char → List Char × List Char
  | '0' :: rest => (['0'], rest)
  | s => (s.takeWhile Char.isDigit, s.dropWhile Char.isDigit)

/-- Reads the digit groups of a numeral. The groups are judged first, then their length, then what
follows them. -/
def readGroups (s : List Char) : Except Fault Nat :=
  let groups := (s.takeWhile isDigitOrJoin).splitOn '_'
  let digits := groups.flatten
  if groups.any (·.isEmpty) then .error .malformed
  else if maxDigits < digits.length then .error (.tooLong digits.length)
  else if !(s.dropWhile isDigitOrJoin).isEmpty then .error .malformed
  else .ok (valueOf digits)

def read (s : String) : Except Fault Int :=
  let (negative, rest) := splitSign (trimBy isPadding s.toList)
  match readGroups rest with
  | .error e => .error e
  | .ok n => .ok (if negative then -n else n)

def shownLength : Nat := 200

def Fault.message (text : String) : Fault → String
  | .malformed =>
    "invalid literal for int() with base 10: " ++
      String.ofList ((quoted text).toList.take shownLength)
  | .tooLong digits =>
    "Exceeds the limit (" ++ toString maxDigits ++
      " digits) for integer string conversion: value has " ++ toString digits ++
      " digits; use sys.set_int_max_str_digits() to increase the limit"

end Numeral

end SignOn.Text
