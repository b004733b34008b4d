import SignOn.Text.Cut
import SignOn.Text.Hex
import SignOn.Text.Utf8

/-!
# Form encoding

Pairs of names and values as one text: pairs are joined by `&`, a name and its value by `=`, a space
is `+`, and every other byte outside a small alphabet is `%` and two hexadecimal digits. `decode`
reads any text, also one that `encode` does not write.
-/

namespace SignOn.Uri.Form

def isPlain (c : Char) : Bool :=
  ('a' ≤ c && c ≤ 'z') || ('A' ≤ c && c ≤ 'Z') || ('0' ≤ c && c ≤ '9') ||
    c == '_' || c == '.' || c == '-' || c == '~'

def percent (b : UInt8) : List Char :=
  '%' :: Text.upperHexDigits 2 b.toNat

def encodeChar (c : Char) : List Char :=
  if c = ' ' then ['+']
  else if isPlain c then [c]
  else (String.utf8EncodeChar c).flatMap percent

def encodeText (s : String) : List Char :=
  s.toList.flatMap encodeChar

def encodePair (pair : String × String) : List Char :=
  encodeText pair.1 ++ '=' :: encodeText pair.2

def encode (pairs : List (String × String)) : List Char :=
  ['&'].intercalate (pairs.map encodePair)

/-- A part of encoded text: a byte of UTF-8, or a character beyond ASCII that stands as it is. -/
inductive Unit where
  | byte (b : UInt8)
  | char (c : Char)
  deriving DecidableEq, Repr

/-- A percent sign without two hexadecimal digits stands for itself. -/
def units : List Char → List Unit
  | [] => []
  | '+' :: rest => .byte 0x20 :: units rest
  | '%' :: a :: b :: rest =>
    match Text.hexValue? [a, b] with
    | some n => .byte (UInt8.ofNat n) :: units rest
    | none => .byte 0x25 :: units (a :: b :: rest)
  | c :: rest => (if c.toNat < 0x80 then .byte (UInt8.ofNat c.toNat) else .char c) :: units rest

/-- Decodes each run of bytes on its own. -/
def decodeUnits : Text.Utf8.State → List Unit → List Char
  | none, [] => []
  | some _, [] => [Text.Utf8.replacement]
  | state, .byte b :: rest =>
    (Text.Utf8.step state b).1 ++ decodeUnits (Text.Utf8.step state b).2 rest
  | none, .char c :: rest => c :: decodeUnits none rest
  | some _, .char c :: rest => Text.Utf8.replacement :: c :: decodeUnits none rest

def decodeText (s : List Char) : String :=
  String.ofList (decodeUnits none (units s))

/-- A piece without `=` is a name whose value is empty. -/
def decodePair (s : List Char) : String × String :=
  match Text.cut '=' s with
  | (name, value) => (decodeText name, decodeText (value.getD []))

/-- Empty pieces are passed over. -/
def decode (s : List Char) : List (String × String) :=
  ((s.splitOn '&').filter (!·.isEmpty)).map decodePair

/-- Bytes as characters of the same number. -/
def ofBytes (bytes : List UInt8) : List Char :=
  bytes.map fun b => Char.ofNat b.toNat

def decodeBytes (bytes : List UInt8) : List (String × String) :=
  decode (ofBytes bytes)

end SignOn.Uri.Form
