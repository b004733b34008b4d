import SignOn.Json.AtomMap
import SignOn.Json.Parser
import SignOn.Json.Printer

/-!
# Reading the fields of a document

The fields of a stored document are read leniently: a field that is absent or holds nothing gives
the empty collection, and a collection may be written as anything that has elements.
-/

namespace SignOn.Document

/-- Why a document cannot be read, or a value cannot be written as one. -/
inductive Fault where
  /-- The text of a column is no document. -/
  | unreadable (cause : Json.Fault)
  /-- The document is no object. -/
  | noObject
  | missingField (name : String)
  /-- A collection is asked of a value that has no elements. -/
  | noElements
  /-- A set is asked for with an element that is no atom. -/
  | noAtom
  /-- A text is asked for and there is none. -/
  | noText
  /-- An element of a map is no pair but a collection of another length. -/
  | noPair (index length : Nat)
  /-- The atoms of a set are of different kinds, so that they cannot be listed in order. -/
  | unordered
  /-- A value that names no subject type. -/
  | subjectType (value : Json)
  /-- An integer of more than 64 bits in a column. -/
  | tooWide
  deriving DecidableEq, Repr

def Fault.message : Fault → String
  | .unreadable (.tooLong digits) => Text.Numeral.Fault.message "" (.tooLong digits)
  | .noPair index length =>
    "dictionary update sequence element #" ++ toString index ++ " has length " ++
      toString length ++ "; 2 is required"
  | .subjectType value => value.quoted ++ " is not a valid SubjectType"
  | _ => ""

abbrev Fields := List (String × Json)

/-- A field that may be absent; absence and null are one. -/
def optional (fields : Fields) (name : String) : Json :=
  (Json.field? name fields).getD .null

def required (fields : Fields) (name : String) : Except Fault Json :=
  match Json.field? name fields with
  | none => .error (.missingField name)
  | some value => .ok value

def listOf (value : Json) : Except Fault (List Json) :=
  if value.isEmpty then .ok []
  else match value.elements? with
    | none => .error .noElements
    | some items => .ok items

def atomsOf : List Json → Except Fault (List Atom)
  | [] => .ok []
  | item :: rest =>
    match Atom.ofJson? item with
    | none => .error .noAtom
    | some a => (atomsOf rest).map (a :: ·)

def setOf (value : Json) : Except Fault AtomSet :=
  (listOf value).bind fun items => (atomsOf items).map AtomSet.ofList

/-- One entry of a map, written as a collection of two elements. -/
def entryOf (index : Nat) (value : Json) : Except Fault (Atom × Json) :=
  match value.elements? with
  | none => .error .noElements
  | some [key, item] =>
    match Atom.ofJson? key with
    | none => .error .noAtom
    | some key => .ok (key, item)
  | some items => .error (.noPair index items.length)

def entriesOf (index : Nat) : List Json → Except Fault (List (Atom × Json))
  | [] => .ok []
  | item :: rest =>
    (entryOf index item).bind fun entry => (entriesOf (index + 1) rest).map (entry :: ·)

def fieldEntries (fields : Fields) : List (Atom × Json) :=
  fields.map fun field => (.text field.1, field.2)

/-- A field as a map: an object, or a collection of entries. -/
def mapOf (value : Json) : Except Fault (AtomMap Json) :=
  if value.isEmpty then .ok ∅
  else match value with
    | .object fields => .ok (.ofList (fieldEntries fields))
    | .array items => (entriesOf 0 items).map .ofList
    | .text s => .error (.noPair 0 (s.toList.take 1).length)
    | _ => .error .noElements

def ofSet (set : AtomSet) : Except Fault Json :=
  match set.ordered? with
  | none => .error .unordered
  | some atoms => .ok (.array (atoms.map Atom.toJson))

def fields? : List (Atom × Json) → Option Fields
  | [] => some []
  | (.text name, value) :: rest => (fields? rest).map ((name, value) :: ·)
  | _ :: _ => none

/-- A map as a field. An object has texts for names, so a map with another key is listed by its
entries. -/
def ofMap (map : AtomMap Json) : Json :=
  match fields? map.entries with
  | some fields => .object fields
  | none => .array (map.entries.map fun entry => .array [entry.1.toJson, entry.2])

end SignOn.Document
