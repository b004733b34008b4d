/-!
# Maps from text keys in the order of insertion

An `Assoc` holds each key once. A new key goes to the end and a known one keeps its place when its
value changes, so equal maps list their entries in the same order.
-/

namespace SignOn

namespace Entries

def get? (key : String) : List (String × α) → Option α
  | [] => none
  | (k, v) :: rest => if k = key then some v else get? key rest

/-- Changes the first entry under a key, or adds one at the end. -/
def put (key : String) (value : α) : List (String × α) → List (String × α)
  | [] => [(key, value)]
  | (k, v) :: rest => if k = key then (k, value) :: rest else (k, v) :: put key value rest

theorem keys_put (key : String) (value : α) (entries : List (String × α)) :
    (put key value entries).map Prod.fst =
      if key ∈ entries.map Prod.fst then entries.map Prod.fst else entries.map Prod.fst ++ [key] := by
  induction entries with
  | nil => simp [put]
  | cons entry rest ih =>
    obtain ⟨k, v⟩ := entry
    by_cases h : k = key
    · simp [put, h]
    · by_cases hm : key ∈ rest.map Prod.fst
      · simp only [List.mem_map] at hm ih
        simp [put, h, Ne.symm h, ih, hm]
      · simp only [List.mem_map] at hm ih
        simp [put, h, Ne.symm h, ih, hm]

theorem nodup_put (key : String) (value : α) {entries : List (String × α)}
    (h : (entries.map Prod.fst).Nodup) : ((put key value entries).map Prod.fst).Nodup := by
  rw [keys_put]
  split
  · exact h
  · next hm =>
    rw [List.nodup_append]
    refine ⟨h, by simp, ?_⟩
    intro a ha b hb he
    simp only [List.mem_singleton] at hb
    exact hm (hb ▸ he ▸ ha)

theorem get?_put_self (key : String) (value : α) (entries : List (String × α)) :
    get? key (put key value entries) = some value := by
  induction entries with
  | nil => simp [put, get?]
  | cons entry rest ih =>
    obtain ⟨k, v⟩ := entry
    by_cases h : k = key <;> simp [put, get?, h, ih]

theorem get?_put_of_ne {key other : String} (h : other ≠ key) (value : α)
    (entries : List (String × α)) : get? other (put key value entries) = get? other entries := by
  induction entries with
  | nil => simp [put, get?, Ne.symm h]
  | cons entry rest ih =>
    obtain ⟨k, v⟩ := entry
    by_cases hk : k = key
    · simp [put, get?, hk, Ne.symm h]
    · by_cases ho : k = other
      · rw [put, if_neg hk]
        simp [get?, ho]
      · simp [put, get?, hk, ho, ih]

theorem get?_of_not_mem {key : String} {entries : List (String × α)}
    (h : key ∉ entries.map Prod.fst) : get? key entries = none := by
  induction entries with
  | nil => rfl
  | cons entry rest ih =>
    simp only [List.map_cons, List.mem_cons, not_or] at h
    rw [get?, if_neg (Ne.symm h.1), ih h.2]

theorem put_of_not_mem {key : String} {entries : List (String × α)}
    (h : key ∉ entries.map Prod.fst) (value : α) : put key value entries = entries ++ [(key, value)] := by
  induction entries with
  | nil => rfl
  | cons entry rest ih =>
    obtain ⟨k, v⟩ := entry
    simp only [List.map_cons, List.mem_cons, not_or] at h
    simp [put, Ne.symm h.1, ih h.2]

end Entries

structure Assoc (α : Type u) where
  entries : List (String × α)
  nodup : (entries.map Prod.fst).Nodup
  deriving DecidableEq, Repr

namespace Assoc

def empty : Assoc α :=
  ⟨[], List.nodup_nil⟩

instance : EmptyCollection (Assoc α) := ⟨empty⟩
instance : Inhabited (Assoc α) := ⟨empty⟩

def get? (m : Assoc α) (key : String) : Option α :=
  Entries.get? key m.entries

def put (m : Assoc α) (key : String) (value : α) : Assoc α :=
  ⟨Entries.put key value m.entries, Entries.nodup_put key value m.nodup⟩

def keys (m : Assoc α) : List String :=
  m.entries.map Prod.fst

def isEmpty (m : Assoc α) : Bool :=
  m.entries.isEmpty

/-- Puts entries one after the other: a repeated key keeps its first place and its last value. -/
def ofList (entries : List (String × α)) : Assoc α :=
  entries.foldl (fun m entry => m.put entry.1 entry.2) ∅

def filterKeys (p : String → Bool) (m : Assoc α) : Assoc α :=
  ⟨m.entries.filter fun entry => p entry.1, m.nodup.sublist (List.filter_sublist.map Prod.fst)⟩

def mapValues (f : α → β) (m : Assoc α) : Assoc β :=
  ⟨m.entries.map fun entry => (entry.1, f entry.2), by simpa [Function.comp_def] using m.nodup⟩

@[ext] theorem ext {m n : Assoc α} (h : m.entries = n.entries) : m = n := by
  cases m; cases n; simp_all

@[simp] theorem entries_empty : (∅ : Assoc α).entries = [] := rfl

@[simp] theorem get?_empty (key : String) : (∅ : Assoc α).get? key = none := rfl

@[simp] theorem get?_put_self (m : Assoc α) (key : String) (value : α) :
    (m.put key value).get? key = some value :=
  Entries.get?_put_self key value m.entries

theorem get?_put_of_ne (m : Assoc α) {key other : String} (h : other ≠ key) (value : α) :
    (m.put key value).get? other = m.get? other :=
  Entries.get?_put_of_ne h value m.entries

theorem get?_of_not_mem {m : Assoc α} {key : String} (h : key ∉ m.keys) : m.get? key = none :=
  Entries.get?_of_not_mem h

theorem get?_put (m : Assoc α) (key other : String) (value : α) :
    (m.put key value).get? other = if other = key then some value else m.get? other := by
  split
  · next h => rw [h, get?_put_self]
  · next h => exact m.get?_put_of_ne h value

theorem foldl_put_eq_append {entries : List (String × α)} (m : Assoc α)
    (h : ((m.entries ++ entries).map Prod.fst).Nodup) :
    (entries.foldl (fun m entry => m.put entry.1 entry.2) m).entries = m.entries ++ entries := by
  induction entries generalizing m with
  | nil => simp
  | cons entry rest ih =>
    have hm : entry.1 ∉ m.entries.map Prod.fst := by
      simp only [List.map_append, List.map_cons] at h
      intro hin
      exact (List.nodup_append.1 h).2.2 _ hin _ (List.mem_cons_self ..) rfl
    have hp : (m.put entry.1 entry.2).entries = m.entries ++ [entry] :=
      Entries.put_of_not_mem hm entry.2
    rw [List.foldl_cons, ih _ (by rw [hp]; simpa using h), hp]
    simp

theorem ofList_entries_of_nodup {entries : List (String × α)} (h : (entries.map Prod.fst).Nodup) :
    (ofList entries).entries = entries := by
  simpa [ofList] using foldl_put_eq_append (∅ : Assoc α) (by simpa using h)

end Assoc

end SignOn
