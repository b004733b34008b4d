/-!
# Json documents

The numbers that matter are integers; of any other number a document keeps the text. The fields of
an object are a list in the order of the document, in which `Json.parse` leaves each key once. Texts
are Unicode texts, here and everywhere else: half of a surrogate pair is no character of one.
-/

namespace SignOn

inductive Json where
  | null
  | bool (b : Bool)
  | int (n : Int)
  /-- A number that is no integer, by the text that writes it. -/
  | nonInteger (numeral : String)
  | text (s : String)
  | array (items : List Json)
  | object (fields : List (String × Json))
  deriving Repr, Inhabited

namespace Json

mutual
def same : Json → Json → Bool
  | .null, .null => true
  | .bool a, .bool b => a == b
  | .int a, .int b => a == b
  | .nonInteger a, .nonInteger b => a == b
  | .text a, .text b => a == b
  | .array a, .array b => sameItems a b
  | .object a, .object b => sameFields a b
  | _, _ => false

def sameItems : List Json → List Json → Bool
  | [], [] => true
  | a :: as, b :: bs => same a b && sameItems as bs
  | _, _ => false

def sameFields : List (String × Json) → List (String × Json) → Bool
  | [], [] => true
  | (k, a) :: as, (l, b) :: bs => k == l && same a b && sameFields as bs
  | _, _ => false
end

mutual
theorem same_iff : (a b : Json) → (same a b = true ↔ a = b)
  | .array a, b => by cases b <;> simp [same, sameItems_iff a]
  | .object a, b => by cases b <;> simp [same, sameFields_iff a]
  | .null, b => by cases b <;> simp [same]
  | .bool _, b => by cases b <;> simp [same]
  | .int _, b => by cases b <;> simp [same]
  | .nonInteger _, b => by cases b <;> simp [same]
  | .text _, b => by cases b <;> simp [same]

theorem sameItems_iff : (a b : List Json) → (sameItems a b = true ↔ a = b)
  | [], b => by cases b <;> simp [sameItems]
  | a :: as, b => by cases b <;> simp [sameItems, same_iff a, sameItems_iff as]

theorem sameFields_iff : (a b : List (String × Json)) → (sameFields a b = true ↔ a = b)
  | [], b => by cases b <;> simp [sameFields]
  | (k, a) :: as, b => by
    cases b <;> simp [sameFields, same_iff a, sameFields_iff as, Prod.ext_iff, and_assoc]
end

instance : DecidableEq Json := fun a b => decidable_of_iff _ (same_iff a b)

def field? (name : String) (fields : List (String × Json)) : Option Json :=
  fields.lookup name

/-- Nothing to go through: null, false, zero and what is empty. -/
def isEmpty : Json → Bool
  | .null | .bool false | .int 0 | .text "" | .array [] | .object [] => true
  | _ => false

/-- What a value is made of: the items of an array, the characters of a text, the keys of an
object. Null, truth values and numbers are not made of anything. -/
def elements? : Json → Option (List Json)
  | .array items => some items
  | .text s => some (s.toList.map fun c => .text (String.ofList [c]))
  | .object fields => some (fields.map fun field => .text field.1)
  | .null | .bool _ | .int _ | .nonInteger _ => none

def ofOption (f : α → Json) : Option α → Json
  | none => .null
  | some a => f a

def text? : Json → Option String
  | .text s => some s
  | _ => none

inductive Fault where
  | malformed
  /-- An integer of too many digits, with their count. -/
  | tooLong (digits : Nat)
  /-- Too many arrays and objects within one another. -/
  | tooDeep
  deriving DecidableEq, Repr

end Json

end SignOn
