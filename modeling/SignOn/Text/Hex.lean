/-!
# Hexadecimal digits

`hexDigits` writes a number in a fixed count of digits and `hexValue` reads digits back. Reading
takes both cases; the writer of a format chooses one.
-/

namespace SignOn.Text

def hexDigit? (c : Char) : Option Nat :=
  let n := c.toNat
  if 48 ≤ n ∧ n ≤ 57 then some (n - 48)
  else if 65 ≤ n ∧ n ≤ 70 then some (n - 55)
  else if 97 ≤ n ∧ n ≤ 102 then some (n - 87)
  else none

def isHexDigit (c : Char) : Bool :=
  (hexDigit? c).isSome

/-- The number that hexadecimal digits write, most significant first. -/
def hexValue? (s : List Char) : Option Nat :=
  s.foldl (fun n c => n.bind fun n => (hexDigit? c).map (16 * n + ·)) (some 0)

/-- The last `width` hexadecimal digits of `n`, in lower case. -/
def hexDigits : Nat → Nat → List Char
  | 0, _ => []
  | width + 1, n => hexDigits width (n / 16) ++ [Nat.digitChar (n % 16)]

def upperHexDigits (width n : Nat) : List Char :=
  (hexDigits width n).map Char.toUpper

theorem length_hexDigits (width n : Nat) : (hexDigits width n).length = width := by
  induction width generalizing n with
  | zero => rfl
  | succ width ih => simp [hexDigits, ih]

theorem hexDigit?_digitChar (n : Nat) (h : n < 16) : hexDigit? (Nat.digitChar n) = some n := by
  have all : ∀ n : Fin 16, hexDigit? (Nat.digitChar n) = some n.val := by decide
  exact all ⟨n, h⟩

theorem hexDigit?_upper_digitChar (n : Nat) (h : n < 16) :
    hexDigit? (Nat.digitChar n).toUpper = some n := by
  have all : ∀ n : Fin 16, hexDigit? (Nat.digitChar n).toUpper = some n.val := by decide
  exact all ⟨n, h⟩

theorem hexValue?_append_singleton (s : List Char) (c : Char) :
    hexValue? (s ++ [c]) = (hexValue? s).bind fun n => (hexDigit? c).map (16 * n + ·) := by
  simp [hexValue?]

theorem hexValue?_hexDigits (width n : Nat) :
    hexValue? (hexDigits width n) = some (n % Nat.pow 16 width) := by
  induction width generalizing n with
  | zero => simp [hexDigits, hexValue?, Nat.pow, Nat.mod_one]
  | succ width ih =>
    rw [hexDigits, hexValue?_append_singleton, ih, Option.bind_some,
      hexDigit?_digitChar _ (Nat.mod_lt _ (by decide))]
    simp only [Option.map_some, Option.some.injEq]
    have hpow : Nat.pow 16 (width + 1) = 16 * Nat.pow 16 width := Nat.mul_comm ..
    rw [hpow, Nat.mod_mul]
    omega

end SignOn.Text
