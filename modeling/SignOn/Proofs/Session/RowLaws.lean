import SignOn.Session.State

/-!
# What a row of the session table keeps

A row that was made of a state gives that state back (`Row.state_ofState`). A state has a row when
its sets can be listed in order (`Row.ofState_of_listable`) and none otherwise
(`Row.ofState_of_not_listable`). The laws of the documents in a row come first: a set, a map, a
request and a client read back as what was written.
-/

namespace SignOn

-- ---------------------------------------------------------------------------
-- Checks that stop at the first fault
-- ---------------------------------------------------------------------------

theorem bind_eq_ok {x : Except ε α} {f : α → Except ε β} :
    x >>= f = .ok b ↔ ∃ a, x = .ok a ∧ f a = .ok b := by
  cases x <;> simp [bind, Except.bind]

theorem map_eq_ok {x : Except ε α} {f : α → β} : x.map f = .ok b ↔ ∃ a, x = .ok a ∧ f a = b := by
  cases x <;> simp [Except.map]

theorem eq_ok_of_toOption {x : Except ε α} (h : x.toOption = some a) : x = .ok a := by
  cases x <;> simp_all [Except.toOption]

theorem pure_eq_ok : (pure a : Except ε α) = .ok b ↔ a = b := by
  simp [pure, Except.pure]

-- ---------------------------------------------------------------------------
-- Sets and maps
-- ---------------------------------------------------------------------------

namespace AtomSet

theorem insertSorted_of_before {a : Atom} {atoms : List Atom} (h : ∀ b ∈ atoms, b.before a) :
    insertSorted a atoms = atoms ++ [a] := by
  induction atoms with
  | nil => rfl
  | cons b rest ih =>
    have hb : b.before a := h b (List.mem_cons_self ..)
    have hn : ¬ a.before b := fun ha => Atom.not_before_self a (Atom.before_trans ha hb)
    simp [insertSorted, hn, hb, ih fun c hc => h c (List.mem_cons_of_mem _ hc)]

theorem foldl_insert_atoms (set : AtomSet) {atoms : List Atom}
    (h : (set.atoms ++ atoms).Pairwise fun a b => a.before b) :
    (atoms.foldl insert set).atoms = set.atoms ++ atoms := by
  induction atoms generalizing set with
  | nil => simp
  | cons a rest ih =>
    have hbefore : ∀ b ∈ set.atoms, b.before a := fun b hb =>
      (List.pairwise_append.mp h).2.2 b hb a (List.mem_cons_self ..)
    have hset : (set.insert a).atoms = set.atoms ++ [a] := insertSorted_of_before hbefore
    rw [List.foldl_cons, ih (set.insert a) (by rw [hset]; simpa using h), hset]
    simp

theorem ofList_atoms (set : AtomSet) : ofList set.atoms = set := by
  apply AtomSet.ext
  exact foldl_insert_atoms ∅ set.sorted

end AtomSet

namespace Document

theorem listOf_array (items : List Json) : listOf (.array items) = .ok items := by
  cases items <;> rfl

theorem atomsOf_toJson (atoms : List Atom) : atomsOf (atoms.map Atom.toJson) = .ok atoms := by
  induction atoms with
  | nil => rfl
  | cons a rest ih => simp [atomsOf, Atom.ofJson?_toJson, ih, Except.map]

theorem setOf_ofSet {set : AtomSet} (h : ofSet set = .ok json) : setOf json = .ok set := by
  unfold ofSet at h
  split at h
  · cases h
  · next atoms hatoms =>
    cases h
    have he : AtomSet.ofList atoms = set := by
      rw [AtomSet.ordered?_eq_some hatoms, AtomSet.ofList_atoms]
    simp [setOf, listOf_array, atomsOf_toJson, Except.bind, Except.map, he]

theorem fields?_eq_some {entries : List (Atom × Json)} {fields : Fields}
    (h : fields? entries = some fields) : entries = fieldEntries fields := by
  induction entries generalizing fields with
  | nil =>
    cases h
    rfl
  | cons entry rest ih =>
    obtain ⟨key, value⟩ := entry
    cases key with
    | text name =>
      obtain ⟨others, hothers, rfl⟩ := Option.map_eq_some_iff.mp h
      rw [ih hothers]
      rfl
    | _ => cases h

theorem entryOf_pair (index : Nat) (key : Atom) (value : Json) :
    entryOf index (.array [key.toJson, value]) = .ok (key, value) := by
  simp [entryOf, Json.elements?, Atom.ofJson?_toJson]

theorem entriesOf_pairs (index : Nat) (entries : List (Atom × Json)) :
    entriesOf index (entries.map fun entry => .array [entry.1.toJson, entry.2]) = .ok entries := by
  induction entries generalizing index with
  | nil => rfl
  | cons entry rest ih =>
    rw [List.map_cons, entriesOf, entryOf_pair, Except.bind, ih]
    rfl

theorem mapOf_ofMap (map : AtomMap Json) : mapOf (ofMap map) = .ok map := by
  unfold ofMap
  split
  · next fields hfields =>
    have hmap := AtomMap.ofList_entries map
    rw [fields?_eq_some hfields] at hmap
    cases fields with
    | nil => exact congrArg Except.ok hmap
    | cons field rest => simp [mapOf, Json.isEmpty, hmap]
  · next hnone =>
    have hmap := AtomMap.ofList_entries map
    cases hentries : map.entries with
    | nil =>
      rw [hentries] at hnone
      cases hnone
    | cons entry rest =>
      rw [hentries] at hmap
      have hpairs := entriesOf_pairs 0 (entry :: rest)
      rw [List.map_cons] at hpairs
      simp [mapOf, Json.isEmpty, hpairs, Except.map, hmap]

end Document

-- ---------------------------------------------------------------------------
-- Requests, clients and parameters as documents
-- ---------------------------------------------------------------------------

theorem Request.Record.ofJson_toJson {record : Request.Record} (h : record.toJson = .ok json) :
    Request.Record.ofJson json = .ok record := by
  simp only [toJson, bind_eq_ok, pure_eq_ok] at h
  obtain ⟨scopes, hs, rfl⟩ := h
  simp [ofJson, ofFields, bind_eq_ok, Functor.map, Except.map, Document.required, Document.optional,
    Json.field?, List.lookup_cons, Document.listOf_array, Document.mapOf_ofMap,
    Document.setOf_ofSet hs]

theorem Request.Record.toJson_ok {record : Request.Record}
    (h : record.scopes.ordered?.isSome = true) : ∃ json, record.toJson = .ok json := by
  obtain ⟨atoms, ha⟩ := Option.isSome_iff_exists.mp h
  simp [toJson, Document.ofSet, ha, Functor.map, Except.map]

theorem Request.Record.toJson_error {record : Request.Record}
    (h : record.scopes.ordered?.isSome = false) : record.toJson = .error .unordered := by
  have hn : record.scopes.ordered? = none := by simpa using h
  simp [toJson, Document.ofSet, hn, bind, Except.bind]

theorem Client.Record.ofJson_toJson {record : Client.Record} (h : record.toJson = .ok json) :
    Client.Record.ofJson json = .ok record := by
  simp only [toJson, bind_eq_ok, pure_eq_ok] at h
  obtain ⟨uris, hu, rfl⟩ := h
  simp [ofJson, ofFields, bind_eq_ok, Functor.map, Except.map, Document.required, Document.optional,
    Json.field?, List.lookup_cons, SubjectType.ofJson_name, Document.setOf_ofSet hu]

theorem Client.Record.toJson_ok {record : Client.Record}
    (h : record.redirectUris.ordered?.isSome = true) : ∃ json, record.toJson = .ok json := by
  obtain ⟨atoms, ha⟩ := Option.isSome_iff_exists.mp h
  simp [toJson, Document.ofSet, ha, Functor.map, Except.map]

theorem Client.Record.toJson_error {record : Client.Record}
    (h : record.redirectUris.ordered?.isSome = false) : record.toJson = .error .unordered := by
  have hn : record.redirectUris.ordered? = none := by simpa using h
  simp [toJson, Document.ofSet, hn, bind, Except.bind]

namespace Session

theorem textFields_mapValues (fields : List (String × String)) :
    textFields (fields.map fun field => (field.1, .text field.2)) = .ok fields := by
  induction fields with
  | nil => rfl
  | cons field rest ih => simp [textFields, ih, Except.map]

theorem parametersOfJson_toJson (parameters : Assoc String) :
    parametersOfJson (parametersToJson parameters) = .ok parameters := by
  have he : Assoc.ofList parameters.entries = parameters :=
    Assoc.ext (Assoc.ofList_entries_of_nodup parameters.nodup)
  simp [parametersOfJson, parametersToJson, Assoc.mapValues, textFields_mapValues, Except.map, he]

theorem traverse_inverse {f : α → Except ε β} {g : β → Except ε α}
    (hg : ∀ a b, f a = .ok b → g b = .ok a) {value : Option α}
    (h : traverse f value = .ok written) :
    traverse g written = .ok value := by
  cases value with
  | none => cases h; rfl
  | some a =>
    cases hf : f a with
    | error cause => simp [traverse, hf, Except.map] at h
    | ok b =>
      simp only [traverse, hf, Except.map, Except.ok.injEq] at h
      subst h
      simp [traverse, hg a b hf, Except.map]

theorem traverse_ok {f : α → Except ε β} {p : α → Bool}
    (hf : ∀ a, p a = true → ∃ b, f a = .ok b) {value : Option α} (h : value.all p = true) :
    ∃ written, traverse f value = .ok written := by
  cases value with
  | none => exact ⟨none, rfl⟩
  | some a =>
    obtain ⟨b, hb⟩ := hf a h
    exact ⟨some b, by simp [traverse, hb, Except.map]⟩

theorem traverse_error {f : α → Except ε β} {p : α → Bool}
    (hf : ∀ a, p a = false → f a = .error cause) {value : Option α} (h : value.all p = false) :
    traverse f value = .error cause := by
  cases value with
  | none => simp at h
  | some a => simp [traverse, hf a h, Except.map]

-- ---------------------------------------------------------------------------
-- Rows
-- ---------------------------------------------------------------------------

/-- Whether a state has a row: the sets in it can be listed in order. -/
def State.isListable (state : State) : Bool :=
  state.pending.all (·.scopes.ordered?.isSome) && state.client.all (·.redirectUris.ordered?.isSome)

theorem Row.state_ofState {state : State} (h : Row.ofState state = .ok row) :
    row.state = .ok state := by
  simp only [Row.ofState, bind_eq_ok, pure_eq_ok] at h
  obtain ⟨pending, hpending, client, hclient, rfl⟩ := h
  have hp := traverse_inverse (fun _ _ => Request.Record.ofJson_toJson) hpending
  have hc := traverse_inverse (fun _ _ => Client.Record.ofJson_toJson) hclient
  have hr : traverse parametersOfJson (state.parameters.map parametersToJson) =
      .ok state.parameters := by
    cases state.parameters <;> simp [traverse, parametersOfJson_toJson, Except.map]
  simp [Row.state, bind_eq_ok, Functor.map, Except.map, hp, hc, hr]

theorem Row.ofState_of_listable {state : State} (h : state.isListable = true) :
    ∃ row, Row.ofState state = .ok row := by
  simp only [State.isListable, Bool.and_eq_true] at h
  obtain ⟨pending, hp⟩ := traverse_ok (fun _ => Request.Record.toJson_ok) h.1
  obtain ⟨client, hc⟩ := traverse_ok (fun _ => Client.Record.toJson_ok) h.2
  exact ⟨_, by simp only [Row.ofState, hp, hc]; rfl⟩

theorem Row.ofState_of_not_listable {state : State} (h : state.isListable = false) :
    Row.ofState state = .error .unordered := by
  unfold Row.ofState
  cases hs : state.pending.all (·.scopes.ordered?.isSome) with
  | false =>
    rw [traverse_error (fun _ => Request.Record.toJson_error) hs]
    rfl
  | true =>
    have hu : state.client.all (·.redirectUris.ordered?.isSome) = false := by
      simpa [State.isListable, hs] using h
    obtain ⟨pending, hp⟩ := traverse_ok (fun _ => Request.Record.toJson_ok) hs
    rw [hp, traverse_error (fun _ => Client.Record.toJson_error) hu]
    rfl

end Session

end SignOn
