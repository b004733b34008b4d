/-!
# Quotients rounded to floating point

`nearestDouble` rounds a quotient of natural numbers once to the nearest number with 53 significant
bits, a tie to the even one, and gives it as an exact fraction.
-/

namespace SignOn.Rounding

/-- The natural number nearest to `n / d`; a tie goes to the even neighbour. -/
def roundHalfEven (n d : Nat) : Nat :=
  let q := n / d
  let r := n % d
  if 2 * r < d then q
  else if d < 2 * r then q + 1
  else if q % 2 = 0 then q
  else q + 1

structure BinaryFraction where
  num : Nat
  log2Den : Nat
  deriving DecidableEq, Repr

/-- How often `n / d` has to be doubled to reach 53 binary places before the point. -/
def doublings (n d : Nat) : Nat :=
  let most := 53 + d.log2 - n.log2
  if d <<< 52 ≤ n <<< (most - 1) then most - 1 else most

/-- How often `n / d` has to be halved to keep 53 binary places before the point. -/
def halvings (n d : Nat) : Nat :=
  let least := n.log2 - (53 + d.log2)
  if n < d <<< (53 + least) then least else least + 1

def nearestDouble (n d : Nat) : BinaryFraction :=
  if n = 0 then ⟨0, 0⟩
  else if n < d <<< 53 then
    let up := doublings n d
    ⟨roundHalfEven (n <<< up) d, up⟩
  else
    let down := halvings n d
    ⟨roundHalfEven n (d <<< down) <<< down, 0⟩

def BinaryFraction.floor (x : BinaryFraction) : Nat :=
  x.num >>> x.log2Den

def BinaryFraction.ceil (x : BinaryFraction) : Nat :=
  (x.num + (1 <<< x.log2Den - 1)) >>> x.log2Den

end SignOn.Rounding
