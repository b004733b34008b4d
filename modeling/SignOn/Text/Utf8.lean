/-!
# UTF-8

`encode` writes characters as bytes. `decode` reads any bytes: each maximal part that begins a
character without completing one, and each byte that begins none, becomes U+FFFD.
-/

namespace SignOn.Text.Utf8

def encode (s : List Char) : List UInt8 :=
  s.flatMap String.utf8EncodeChar

def encodeString (s : String) : List UInt8 :=
  encode s.toList

/-- A character begun: the continuation bytes still owed, the range of the next one, and the bits
read so far. -/
structure Partial where
  owed : Nat
  low : UInt8
  high : UInt8
  bits : Nat
  deriving DecidableEq, Repr

/-- Between characters there is nothing begun. -/
abbrev State := Option Partial

def replacement : Char := Char.ofNat 0xfffd

/-- What a first byte begins. The ranges of the second byte rule out overlong forms, surrogates and
code points above U+10FFFF. -/
def lead? (b : UInt8) : Option Partial :=
  if 0xc2 ≤ b ∧ b ≤ 0xdf then some ⟨1, 0x80, 0xbf, b.toNat - 0xc0⟩
  else if b = 0xe0 then some ⟨2, 0xa0, 0xbf, 0⟩
  else if b = 0xed then some ⟨2, 0x80, 0x9f, 0xd⟩
  else if 0xe1 ≤ b ∧ b ≤ 0xef then some ⟨2, 0x80, 0xbf, b.toNat - 0xe0⟩
  else if b = 0xf0 then some ⟨3, 0x90, 0xbf, 0⟩
  else if b = 0xf4 then some ⟨3, 0x80, 0x8f, 4⟩
  else if 0xf1 ≤ b ∧ b ≤ 0xf3 then some ⟨3, 0x80, 0xbf, b.toNat - 0xf0⟩
  else none

def begin (b : UInt8) : List Char × State :=
  if b < 0x80 then ([Char.ofNat b.toNat], none)
  else match lead? b with
    | some p => ([], some p)
    | none => ([replacement], none)

/-- A byte after those of `p`: it continues the character, or ends it early and begins anew. -/
def continue? (p : Partial) (b : UInt8) : List Char × State :=
  if p.low ≤ b ∧ b ≤ p.high then
    let bits := p.bits * 64 + (b.toNat - 0x80)
    if p.owed ≤ 1 then ([Char.ofNat bits], none)
    else ([], some ⟨p.owed - 1, 0x80, 0xbf, bits⟩)
  else
    let (out, state) := begin b
    (replacement :: out, state)

def step : State → UInt8 → List Char × State
  | none, b => begin b
  | some p, b => continue? p b

def decodeFrom : State → List UInt8 → List Char
  | none, [] => []
  | some _, [] => [replacement]
  | state, b :: rest => (step state b).1 ++ decodeFrom (step state b).2 rest

def decode (bytes : List UInt8) : List Char :=
  decodeFrom none bytes

end SignOn.Text.Utf8
