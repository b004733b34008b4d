import SignOn.Json.Basic
import SignOn.Text.Printable

/-!
# Writing Json

A document is written on one line in ASCII. A comma and a colon are followed by one space. A
character outside ASCII is written as one `\u` escape, or as two for a surrogate pair.

In a message (`shown`) a value is written in another way: a text between quotation marks as
`Text.quoted` has them, and the constants by names with a capital.
-/

namespace SignOn.Json

def escapeUnit (n : Nat) : List Char :=
  '\\' :: 'u' :: Text.hexDigits 4 n

def escapeChar (c : Char) : List Char :=
  if c = '"' then ['\\', '"']
  else if c = '\\' then ['\\', '\\']
  else if c = '\n' then ['\\', 'n']
  else if c = '\r' then ['\\', 'r']
  else if c = '\t' then ['\\', 't']
  else if c = '\x08' then ['\\', 'b']
  else if c = '\x0c' then ['\\', 'f']
  else if 0x20 ≤ c.toNat ∧ c.toNat ≤ 0x7e then [c]
  else if c.toNat ≤ 0xffff then escapeUnit c.toNat
  else
    escapeUnit (0xd800 + (c.toNat - 0x10000) / 0x400) ++
      escapeUnit (0xdc00 + (c.toNat - 0x10000) % 0x400)

def printText (s : String) : List Char :=
  '"' :: s.toList.flatMap escapeChar ++ ['"']

mutual
def print : Json → List Char
  | .null => ['n', 'u', 'l', 'l']
  | .bool true => ['t', 'r', 'u', 'e']
  | .bool false => ['f', 'a', 'l', 's', 'e']
  | .int n => (toString n).toList
  | .nonInteger numeral => numeral.toList
  | .text s => printText s
  | .array items => '[' :: printItems items ++ [']']
  | .object fields => '{' :: printFields fields ++ ['}']

def printItems : List Json → List Char
  | [] => []
  | [item] => print item
  | item :: rest => print item ++ ',' :: ' ' :: printItems rest

def printFields : List (String × Json) → List Char
  | [] => []
  | [(name, value)] => printText name ++ ':' :: ' ' :: print value
  | (name, value) :: rest =>
    printText name ++ ':' :: ' ' :: (print value ++ ',' :: ' ' :: printFields rest)
end

def render (json : Json) : String :=
  String.ofList json.print

mutual
def quoted : Json → String
  | .null => "None"
  | .bool true => "True"
  | .bool false => "False"
  | .int n => toString n
  | .nonInteger numeral => numeral
  | .text s => Text.quoted s
  | .array items => "[" ++ String.intercalate ", " (quotedItems items) ++ "]"
  | .object fields => "\x7b" ++ String.intercalate ", " (quotedFields fields) ++ "\x7d"

def quotedItems : List Json → List String
  | [] => []
  | item :: rest => quoted item :: quotedItems rest

def quotedFields : List (String × Json) → List String
  | [] => []
  | (name, value) :: rest => (Text.quoted name ++ ": " ++ quoted value) :: quotedFields rest
end

/-- A value inside a sentence: a text stands without quotation marks. -/
def shown : Json → String
  | .text s => s
  | value => value.quoted

end SignOn.Json
