import SignOn.Assoc
import SignOn.Json.Atom

/-!
# Maps from atoms in the order of insertion

Atoms that count as one are one key. A known key keeps its place, and stays the atom that came
first, when its value changes.
-/

namespace SignOn

structure AtomMap (α : Type u) where
  entries : List (Atom × α)
  distinct : (entries.map Prod.fst).Pairwise fun a b => ¬ a.same b
  deriving DecidableEq, Repr

namespace AtomMap

def putEntry (key : Atom) (value : α) : List (Atom × α) → List (Atom × α)
  | [] => [(key, value)]
  | (k, v) :: rest => if k.same key then (k, value) :: rest else (k, v) :: putEntry key value rest

theorem keys_putEntry (key : Atom) (value : α) (entries : List (Atom × α)) :
    (putEntry key value entries).map Prod.fst =
      if ∃ k ∈ entries.map Prod.fst, k.same key then entries.map Prod.fst
      else entries.map Prod.fst ++ [key] := by
  induction entries with
  | nil => simp [putEntry]
  | cons entry rest ih =>
    obtain ⟨k, v⟩ := entry
    by_cases h : k.same key = true
    · simp [putEntry, h]
    · simp only [putEntry, h, Bool.false_eq_true, ↓reduceIte, List.map_cons, ih, List.mem_cons,
        exists_eq_or_imp, false_or]
      split <;> simp

theorem putEntry_of_new {key : Atom} {entries : List (Atom × α)}
    (h : ∀ k ∈ entries.map Prod.fst, ¬ k.same key) (value : α) :
    putEntry key value entries = entries ++ [(key, value)] := by
  induction entries with
  | nil => rfl
  | cons entry rest ih =>
    obtain ⟨k, v⟩ := entry
    rw [List.map_cons, List.forall_mem_cons] at h
    rw [putEntry, if_neg h.1, ih h.2, List.cons_append]

theorem distinct_putEntry (key : Atom) (value : α) {entries : List (Atom × α)}
    (h : (entries.map Prod.fst).Pairwise fun a b => ¬ a.same b) :
    ((putEntry key value entries).map Prod.fst).Pairwise fun a b => ¬ a.same b := by
  rw [keys_putEntry]
  split
  · exact h
  · next hnew =>
    refine List.pairwise_append.mpr ⟨h, List.pairwise_singleton .., fun a ha b hb hs => ?_⟩
    rw [List.mem_singleton] at hb
    exact hnew ⟨a, ha, hb ▸ hs⟩

def empty : AtomMap α :=
  ⟨[], .nil⟩

instance : EmptyCollection (AtomMap α) := ⟨empty⟩

def put (map : AtomMap α) (key : Atom) (value : α) : AtomMap α :=
  ⟨putEntry key value map.entries, distinct_putEntry key value map.distinct⟩

/-- Puts entries one after the other: a repeated key keeps its first place and its last value. -/
def ofList (entries : List (Atom × α)) : AtomMap α :=
  entries.foldl (fun map entry => map.put entry.1 entry.2) ∅

def ofAssoc (map : Assoc α) : AtomMap α where
  entries := map.entries.map fun entry => (.text entry.1, entry.2)
  distinct := by
    rw [List.map_map, List.pairwise_map]
    exact (List.pairwise_map.mp map.nodup).imp fun hne hs => hne (Atom.text_same_iff.mp hs)

@[ext] theorem ext {m n : AtomMap α} (h : m.entries = n.entries) : m = n := by
  cases m; cases n; simp_all

theorem foldl_put_entries {entries : List (Atom × α)} (map : AtomMap α)
    (h : ((map.entries ++ entries).map Prod.fst).Pairwise fun a b => ¬ a.same b) :
    (entries.foldl (fun map entry => map.put entry.1 entry.2) map).entries =
      map.entries ++ entries := by
  induction entries generalizing map with
  | nil => simp
  | cons entry rest ih =>
    have hnew : ∀ k ∈ map.entries.map Prod.fst, ¬ k.same entry.1 := by
      rw [List.map_append, List.pairwise_append] at h
      exact fun k hk => h.2.2 k hk _ (List.mem_cons_self ..)
    have hput : (map.put entry.1 entry.2).entries = map.entries ++ [entry] :=
      putEntry_of_new hnew entry.2
    rw [List.foldl_cons, ih _ (by rw [hput]; simpa using h), hput]
    simp

theorem ofList_entries (map : AtomMap α) : ofList map.entries = map := by
  apply AtomMap.ext
  exact foldl_put_entries ∅ map.distinct

end AtomMap

end SignOn
