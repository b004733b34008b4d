import SignOn.Json.Basic

/-!
# Atoms and finite sets of atoms

An atom is a Json value without parts. A truth value counts as the number 0 or 1, so a set holds at
most one of `true` and `1`. `AtomSet` keeps its atoms sorted, which makes equal sets equal lists.
Documents are compared in the same way, atom by atom (`Json.countsAs`).
-/

namespace SignOn

inductive Atom where
  | null
  | bool (b : Bool)
  | int (n : Int)
  | nonInteger (numeral : String)
  | text (s : String)
  deriving DecidableEq, Repr

namespace Atom

def toJson : Atom → Json
  | .null => .null
  | .bool b => .bool b
  | .int n => .int n
  | .nonInteger s => .nonInteger s
  | .text s => .text s

def ofJson? : Json → Option Atom
  | .null => some .null
  | .bool b => some (.bool b)
  | .int n => some (.int n)
  | .nonInteger s => some (.nonInteger s)
  | .text s => some (.text s)
  | .array _ | .object _ => none

theorem ofJson?_toJson (a : Atom) : ofJson? a.toJson = some a := by
  cases a <;> rfl

/-- Atoms of different kinds cannot be put in an order by their values. -/
inductive Kind where
  | null
  | number
  | text
  deriving DecidableEq, Repr

def kind : Atom → Kind
  | .null => .null
  | .bool _ | .int _ | .nonInteger _ => .number
  | .text _ => .text

def Kind.rank : Kind → Nat
  | .null => 0
  | .number => 1
  | .text => 2

def number : Atom → Int
  | .bool true => 1
  | .int n => n
  | _ => 0

def letters : Atom → String
  | .text s | .nonInteger s => s
  | _ => ""

/-- The order by kind, then by number, then by the code points of a text. A number that is no integer
stands behind zero, by its text. -/
def before (a b : Atom) : Bool :=
  decide (a.kind.rank < b.kind.rank ∨ a.kind.rank = b.kind.rank ∧
    (a.number < b.number ∨ a.number = b.number ∧ a.letters < b.letters))

theorem before_trans {a b c : Atom} (hab : a.before b) (hbc : b.before c) : a.before c := by
  simp only [before, decide_eq_true_eq] at *
  rcases hab with h | ⟨h, h' | ⟨h', hl⟩⟩ <;> rcases hbc with k | ⟨k, k' | ⟨k', kl⟩⟩
  all_goals first
    | exact .inl (by omega)
    | exact .inr ⟨by omega, .inl (by omega)⟩
    | exact .inr ⟨by omega, .inr ⟨by omega, String.lt_trans hl kl⟩⟩

theorem not_before_self (a : Atom) : ¬ a.before a := by
  simp only [before, decide_eq_true_eq]
  rintro (h | ⟨_, h | ⟨_, h⟩⟩)
  · omega
  · omega
  · exact String.lt_irrefl _ h

/-- Whether two atoms count as one, as `true` and `1` do. -/
def same (a b : Atom) : Bool :=
  !a.before b && !b.before a

theorem text_same_iff {s t : String} : (text s).same (.text t) = true ↔ s = t := by
  have hlt (u v : String) : (text u).before (.text v) = decide (u < v) := by
    simp [before, kind, Kind.rank, number, letters]
  rw [same, hlt, hlt, Bool.and_eq_true, Bool.not_eq_true', Bool.not_eq_true',
    decide_eq_false_iff_not, decide_eq_false_iff_not, String.not_lt, String.not_lt]
  exact ⟨fun h => String.le_antisymm h.2 h.1, fun h => h ▸ ⟨String.le_refl _, String.le_refl _⟩⟩

end Atom

namespace Json

mutual
/-- Whether two documents count as one: atoms as `Atom.same` says, arrays item by item, and objects
field by field in any order. A number goes by its text, so a `NaN` counts as another `NaN`. -/
def countsAs : Json → Json → Bool
  | .array items, .array others => itemsCountAs items others
  | .object fields, .object others =>
    fields.length == others.length && fieldsCountAs fields others
  | value, other =>
    match Atom.ofJson? value, Atom.ofJson? other with
    | some a, some b => a.same b
    | _, _ => false

def itemsCountAs : List Json → List Json → Bool
  | [], [] => true
  | item :: items, other :: others => countsAs item other && itemsCountAs items others
  | _, _ => false

def fieldsCountAs : List (String × Json) → List (String × Json) → Bool
  | [], _ => true
  | (name, value) :: fields, others =>
    (match field? name others with
      | some other => countsAs value other
      | none => false) && fieldsCountAs fields others
end

theorem text_countsAs_iff {s t : String} : (text s).countsAs (.text t) = true ↔ s = t := by
  simp only [countsAs, Atom.ofJson?, Atom.text_same_iff]

end Json

structure AtomSet where
  atoms : List Atom
  sorted : atoms.Pairwise fun a b => a.before b
  deriving DecidableEq, Repr

namespace AtomSet

/-- Puts an atom in its place. An atom that counts as one already there changes nothing. -/
def insertSorted (a : Atom) : List Atom → List Atom
  | [] => [a]
  | b :: rest =>
    if a.before b then a :: b :: rest
    else if b.before a then b :: insertSorted a rest
    else b :: rest

theorem mem_insertSorted {a b : Atom} {atoms : List Atom} (h : b ∈ insertSorted a atoms) :
    b = a ∨ b ∈ atoms := by
  induction atoms with
  | nil => exact .inl (by simpa [insertSorted] using h)
  | cons c rest ih =>
    simp only [insertSorted] at h
    split at h
    · simpa using h
    · split at h
      · rcases List.mem_cons.1 h with rfl | h
        · exact .inr (List.mem_cons_self ..)
        · exact (ih h).imp id (List.mem_cons_of_mem _)
      · exact .inr h

theorem sorted_insertSorted (a : Atom) {atoms : List Atom}
    (h : atoms.Pairwise fun a b => a.before b) :
    (insertSorted a atoms).Pairwise fun a b => a.before b := by
  induction atoms with
  | nil => simp [insertSorted]
  | cons b rest ih =>
    have hb := List.pairwise_cons.1 h
    simp only [insertSorted]
    split
    · next hab =>
      refine List.pairwise_cons.2 ⟨fun c hc => ?_, h⟩
      rcases List.mem_cons.1 hc with rfl | hc
      · exact hab
      · exact Atom.before_trans hab (hb.1 c hc)
    · split
      · next hba =>
        refine List.pairwise_cons.2 ⟨fun c hc => ?_, ih hb.2⟩
        rcases mem_insertSorted hc with rfl | hc
        · exact hba
        · exact hb.1 c hc
      · exact h

def empty : AtomSet :=
  ⟨[], .nil⟩

instance : EmptyCollection AtomSet := ⟨empty⟩

instance : Membership Atom AtomSet := ⟨fun set a => a ∈ set.atoms⟩

instance (a : Atom) (set : AtomSet) : Decidable (a ∈ set) :=
  inferInstanceAs (Decidable (a ∈ set.atoms))

def insert (set : AtomSet) (a : Atom) : AtomSet :=
  ⟨insertSorted a set.atoms, sorted_insertSorted a set.sorted⟩

/-- The set of the atoms of a list. Of atoms that count as one, the first stays. -/
def ofList (atoms : List Atom) : AtomSet :=
  atoms.foldl insert ∅

def ofTexts (texts : List String) : AtomSet :=
  ofList (texts.map .text)

/-- The atoms in order, unless two of them are of different kinds. -/
def ordered? (set : AtomSet) : Option (List Atom) :=
  match set.atoms with
  | [] => some []
  | a :: rest => if rest.all (·.kind == a.kind) then some (a :: rest) else none

@[ext] theorem ext {s t : AtomSet} (h : s.atoms = t.atoms) : s = t := by
  cases s; cases t; simp_all

theorem ordered?_eq_some {set : AtomSet} {atoms : List Atom} (h : set.ordered? = some atoms) :
    atoms = set.atoms := by
  unfold ordered? at h
  split at h
  · next he => cases h; exact he.symm
  · next he =>
    split at h
    · cases h; exact he.symm
    · cases h

end AtomSet

end SignOn
