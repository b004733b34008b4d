import SignOn.Text.Cut
import SignOn.Text.Hex
import SignOn.Text.Numeral

/-!
# Internet addresses as hosts

The written forms of IPv4 addresses (four decimal octets without leading zeros) and of IPv6
addresses (groups of hexadecimal digits with at most one gap, an IPv4 tail and a zone allowed), and
the form kept for later versions.
-/

namespace SignOn.Uri

def isOctet (s : List Char) : Bool :=
  !s.isEmpty && s.all Char.isDigit && decide (s.length ≤ 3) &&
    (s == ['0'] || s.head? != some '0') && decide (Text.Numeral.valueOf s ≤ 255)

def isIPv4 (s : List Char) : Bool :=
  let octets := s.splitOn '.'
  octets.length == 4 && octets.all isOctet

def isGroup (s : List Char) : Bool :=
  !s.isEmpty && s.all Text.isHexDigit && decide (s.length ≤ 4)

/-- How many groups stand on one side of the gap. A side without groups is one empty piece. -/
def groupsBeside? (pieces : List (List Char)) : Option Nat :=
  if pieces = [[]] then some 0
  else if pieces.all isGroup then some pieces.length
  else none

/-- The position of the first empty piece between the first and the last one. -/
def gap? (pieces : List (List Char)) : Option Nat :=
  (pieces.tail.dropLast.findIdx? List.isEmpty).map (· + 1)

/-- Eight groups, or fewer around a gap that stands for one group at least. -/
def areGroups (pieces : List (List Char)) : Bool :=
  match gap? pieces with
  | none => pieces.length == 8 && pieces.all isGroup
  | some i =>
    match groupsBeside? (pieces.take i), groupsBeside? (pieces.drop (i + 1)) with
    | some before, some after => decide (before + after < 8)
    | _, _ => false

/-- An IPv4 tail takes the place of the last two groups. -/
def isIPv6Address (s : List Char) : Bool :=
  let pieces := s.splitOn ':'
  match pieces.getLast? with
  | none => false
  | some last =>
    if '.' ∈ last then isIPv4 last && areGroups (pieces.dropLast ++ [['0'], ['0']])
    else areGroups pieces

/-- An address, or an address and a zone after a percent sign. -/
def isIPv6 (s : List Char) : Bool :=
  match Text.cut '%' s with
  | (address, none) => isIPv6Address address
  | (address, some zone) => !zone.isEmpty && !zone.contains '%' && isIPv6Address address

/-- A `v`, hexadecimal digits, a dot and at least one more character. -/
def isFutureAddress (s : List Char) : Bool :=
  match s with
  | 'v' :: rest =>
    match Text.cut '.' rest with
    | (version, some (_ :: _)) => !version.isEmpty && version.all Text.isHexDigit
    | _ => false
  | _ => false

end SignOn.Uri
