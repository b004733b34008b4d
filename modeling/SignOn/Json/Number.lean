import SignOn.Json.Basic
import SignOn.Rounding
import SignOn.Text.Numeral

/-!
# Numbers of documents

A number without a fraction and an exponent is an exact integer. With one of them it is a number in
double precision, and an integer if its rounded value is one: `1.0` is the number `1`.
-/

namespace SignOn.Json

/-- The digits behind a point. A point without digits is no part of the number. -/
def takeFraction : List Char → List Char × List Char
  | '.' :: rest =>
    match rest.takeWhile Char.isDigit with
    | [] => ([], '.' :: rest)
    | digits => (digits, rest.dropWhile Char.isDigit)
  | s => ([], s)

/-- The exponent, which is no part of the number either if it has no digits. -/
def takeExponent : List Char → Option Int × List Char
  | [] => (none, [])
  | e :: rest =>
    let (negative, power) := Text.Numeral.splitSign rest
    let digits := power.takeWhile Char.isDigit
    if (e == 'e' || e == 'E') && !digits.isEmpty then
      let n : Int := Text.Numeral.valueOf digits
      (some (if negative then -n else n), power.dropWhile Char.isDigit)
    else (none, e :: rest)

def decimalDigits (n : Nat) : List Char :=
  Nat.toDigits 10 n

/-- `digits * 10 ^ exponent` in double precision, unless it is out of range. -/
def double? (digits : Nat) (exponent : Int) : Option Rounding.BinaryFraction :=
  let places : Int := (decimalDigits digits).length + exponent
  if digits = 0 ∨ places < -323 then some ⟨0, 0⟩
  else if 309 < places then none
  else
    let n := digits * Nat.pow 10 exponent.toNat
    let d := Nat.pow 10 (-exponent).toNat
    if n <<< 1075 ≤ d then some ⟨0, 0⟩
    else
      let x := Rounding.nearestDouble n d
      if x.floor < 1 <<< 1024 then some x else none

def signed (negative : Bool) (numeral : String) : String :=
  if negative then "-" ++ numeral else numeral

def infinite (negative : Bool) : Json :=
  .nonInteger (signed negative "Infinity")

/-- A number in double precision. One that is no integer is written as an integer times a negative
power of ten, exactly. -/
def ofDouble (negative : Bool) (x : Rounding.BinaryFraction) : Json :=
  if x.num % (1 <<< x.log2Den) = 0 then
    let n : Int := x.floor
    .int (if negative then -n else n)
  else
    let digits := (decimalDigits (x.num * Nat.pow 5 x.log2Den)).reverse
    let zeros := (digits.takeWhile (· == '0')).length
    .nonInteger (signed negative
      (String.ofList (digits.drop zeros).reverse ++ "e-" ++ toString (x.log2Den - zeros)))

def readNumber (negative : Bool) (s : List Char) : Except Fault (Json × List Char) :=
  let (whole, rest) := Text.Numeral.takeDigits s
  let (fraction, rest) := takeFraction rest
  let (exponent, rest) := takeExponent rest
  match whole, fraction, exponent with
  | [], _, _ => .error .malformed
  | whole, [], none =>
    if Text.Numeral.maxDigits < whole.length then .error (.tooLong whole.length)
    else
      let n : Int := Text.Numeral.valueOf whole
      .ok (.int (if negative then -n else n), rest)
  | whole, fraction, exponent =>
    match double? (Text.Numeral.valueOf (whole ++ fraction)) (exponent.getD 0 - fraction.length) with
    | none => .ok (infinite negative, rest)
    | some x => .ok (ofDouble negative x, rest)

end SignOn.Json
