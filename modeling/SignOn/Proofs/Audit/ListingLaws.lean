import Mathlib.Data.List.FinRange
import Mathlib.Data.List.Perm.Subperm
import SignOn.Audit.Basic
import SignOn.Proofs.Service.Run

/-!
# What a listing shows

Two rows of a log may hold the same entry, so that a row is known by its place. A listing shows rows
of which none is shown twice, none is refused by a filter, each is newer than those behind it, and
all are newer than what is left out (`Newest`), and there is one such list of rows only
(`Newest.unique`). This holds after any calls that log something, whatever the clock shows at each
(`Service.listing_newest`).
-/

namespace SignOn.Audit

-- ---------------------------------------------------------------------------
-- Filters
-- ---------------------------------------------------------------------------

/-- What the filters of a query ask of an entry. One that is absent or empty asks nothing. -/
structure Query.Admits (query : Query) (entry : Entry) : Prop where
  event : ∀ wanted, query.event = some wanted → wanted ≠ "" → entry.event = wanted
  outcome : ∀ wanted, query.outcome = some wanted → wanted ≠ "" → entry.outcome = wanted
  clientId : ∀ wanted, query.clientId = some wanted → wanted ≠ "" → entry.clientId = some wanted

theorem passes_iff {filter value : Option String} :
    passes filter value = true ↔
      ∀ wanted, filter = some wanted → wanted ≠ "" → value = some wanted := by
  cases filter with
  | none => simp [passes]
  | some text => simp [passes, or_iff_not_imp_left]

theorem accepts_iff {query : Query} {entry : Entry} :
    query.accepts entry = true ↔ query.Admits entry := by
  simp only [Query.accepts, Bool.and_eq_true, passes_iff, Option.some.injEq]
  constructor
  · rintro ⟨⟨hevent, houtcome⟩, hclient⟩
    exact ⟨hevent, houtcome, hclient⟩
  · rintro ⟨hevent, houtcome, hclient⟩
    exact ⟨⟨hevent, houtcome⟩, hclient⟩

instance (query : Query) (entry : Entry) : Decidable (query.Admits entry) :=
  decidable_of_iff _ accepts_iff

-- ---------------------------------------------------------------------------
-- The order of the rows
-- ---------------------------------------------------------------------------

/-- Of two rows of a log the newer one has the later time, or was logged later at the same time. -/
def Newer (log : Log) (i j : Fin log.length) : Prop :=
  (log.get j).time.micros < (log.get i).time.micros ∨
    (log.get i).time.micros = (log.get j).time.micros ∧ j < i

instance (log : Log) (i j : Fin log.length) : Decidable (Newer log i j) :=
  inferInstanceAs (Decidable (_ ∨ _))

/-- The rows of a log that a query is to show. -/
structure Newest (log : Log) (query : Query) (rows : List (Fin log.length)) : Prop where
  nodup : rows.Nodup
  admitted : ∀ i ∈ rows, query.Admits (log.get i)
  ordered : rows.Pairwise (Newer log)
  length_eq : (rows.length : Int) =
    min (log.countP (query.Admits ·) : Int) (max 1 (min query.limit 500))
  left_out : ∀ i, i ∉ rows → query.Admits (log.get i) → ∀ j ∈ rows, Newer log j i

section
variable {log : Log} {query : Query} {i j : Fin log.length} {rows others : List (Fin log.length)}

theorem Newer.asymm (h : Newer log i j) : ¬ Newer log j i := by
  unfold Newer at *
  omega

theorem Newer.ne (h : Newer log i j) : i ≠ j := by
  rintro rfl
  exact h.asymm h

/-- No other rows are the newest: of two lists as long as each other, each with a row that the other
has not, either row would be newer than the other one. -/
theorem Newest.unique (h : Newest log query rows) (h' : Newest log query others) :
    others = rows := by
  have hlength : others.length = rows.length := by
    have hrows := h.length_eq
    have hothers := h'.length_eq
    omega
  have hsubset : rows ⊆ others := by
    intro i hi
    by_contra hnot
    have hother : ∃ j ∈ others, j ∉ rows := by
      by_contra! hall
      have hperm := (h'.nodup.subperm hall).perm_of_length_le hlength.ge
      exact hnot (hperm.mem_iff.mpr hi)
    obtain ⟨j, hj, hjnot⟩ := hother
    have hnewer := h.left_out j hjnot (h'.admitted j hj) i hi
    exact hnewer.asymm (h'.left_out i hnot (h.admitted i hi) j hj)
  have hperm := (h.nodup.subperm hsubset).perm_of_length_le hlength.le
  exact hperm.symm.eq_of_pairwise (fun i j _ _ hij hji => absurd hji hij.asymm) h'.ordered h.ordered

end

-- ---------------------------------------------------------------------------
-- The rows of a listing
-- ---------------------------------------------------------------------------

/-- Sorting keeps the order of what compares as equal. -/
theorem pairwise_mergeSort_stable {le : α → α → Bool}
    (htrans : ∀ a b c, le a b = true → le b c = true → le a c = true)
    (htotal : ∀ a b, (le a b || le b a) = true) {before : α → α → Prop} {l : List α}
    (h : l.Pairwise before) :
    (l.mergeSort le).Pairwise fun a b => le a b = true ∧ (le b a = true → before a b) := by
  induction l with
  | nil => simp
  | cons a rest ih =>
    rw [List.pairwise_cons] at h
    obtain ⟨front, back, hsort, hrest, hfront⟩ := List.mergeSort_cons htrans htotal a rest
    have hsorted := List.pairwise_mergeSort htrans htotal (a :: rest)
    rw [hsort, List.pairwise_append, List.pairwise_cons] at hsorted
    obtain ⟨-, ⟨hbehind, -⟩, hahead⟩ := hsorted
    have hkept := ih h.2
    rw [hrest, List.pairwise_append] at hkept
    obtain ⟨hkeptFront, hkeptBack, hkeptBetween⟩ := hkept
    rw [hsort, List.pairwise_append, List.pairwise_cons]
    refine ⟨hkeptFront, ⟨fun b hb => ?_, hkeptBack⟩, fun b hb c hc => ?_⟩
    · have hmem : b ∈ rest := by
        rw [← (List.mergeSort_perm rest le).mem_iff, hrest]
        exact List.mem_append_right _ hb
      exact ⟨hbehind b hb, fun _ => h.1 b hmem⟩
    · rcases List.mem_cons.mp hc with rfl | hc
      · -- what is sorted in front of the first element does not compare as equal to it
        have hnot := hfront b hb
        exact ⟨hahead b hb c (List.mem_cons_self ..), fun hle => by simp [hle] at hnot⟩
      · exact hkeptBetween b hb c hc

def laterFirst (a b : Entry) : Bool :=
  decide (b.time.micros ≤ a.time.micros)

def rowsNewestFirst (log : Log) : List (Fin log.length) :=
  (List.finRange log.length).reverse.mergeSort fun i j => laterFirst (log.get i) (log.get j)

def matchingRows (log : Log) (query : Query) : List (Fin log.length) :=
  (rowsNewestFirst log).filter fun i => query.accepts (log.get i)

def listedRows (log : Log) (query : Query) : List (Fin log.length) :=
  (matchingRows log query).take query.size

theorem newestFirst_eq (log : Log) : newestFirst log = (rowsNewestFirst log).map log.get := by
  rw [rowsNewestFirst, List.map_mergeSort (s := laterFirst) (fun _ _ _ _ => rfl), List.map_reverse,
    List.map_get_finRange]
  rfl

theorem list_eq (log : Log) (query : Query) :
    list log query = (listedRows log query).map log.get := by
  rw [list, listedRows, newestFirst_eq, List.filter_map, List.map_take]
  rfl

theorem rowsNewestFirst_pairwise (log : Log) : (rowsNewestFirst log).Pairwise (Newer log) := by
  have hlogged : (List.finRange log.length).reverse.Pairwise fun i j => j < i :=
    List.pairwise_reverse.mpr (List.pairwise_lt_finRange _)
  refine (pairwise_mergeSort_stable ?_ ?_ hlogged).imp ?_
  · simp only [laterFirst, decide_eq_true_eq]
    omega
  · simp only [laterFirst, Bool.or_eq_true, decide_eq_true_eq]
    omega
  · simp only [laterFirst, decide_eq_true_eq, Newer]
    rintro i j ⟨hle, htie⟩
    rcases Int.lt_or_eq_of_le hle with hlt | heq
    · exact .inl hlt
    · exact .inr ⟨heq.symm, htie heq.ge⟩

section
variable {log : Log} {query : Query}

theorem mem_matchingRows {i : Fin log.length} :
    i ∈ matchingRows log query ↔ query.Admits (log.get i) := by
  simp [matchingRows, rowsNewestFirst, accepts_iff]

theorem matchingRows_pairwise (log : Log) (query : Query) :
    (matchingRows log query).Pairwise (Newer log) :=
  (rowsNewestFirst_pairwise log).filter _

theorem length_matchingRows (log : Log) (query : Query) :
    (matchingRows log query).length = log.countP (query.Admits ·) := by
  have hperm : (newestFirst log).Perm log :=
    (List.mergeSort_perm ..).trans (List.reverse_perm log)
  rw [← hperm.countP_eq, newestFirst_eq, List.countP_map, List.countP_eq_length_filter]
  simp only [matchingRows, ← accepts_iff, Bool.decide_eq_true, Function.comp_def]

theorem size_eq (query : Query) : (query.size : Int) = max 1 (min query.limit 500) := by
  unfold Query.size
  omega

theorem listedRows_newest (log : Log) (query : Query) :
    Newest log query (listedRows log query) where
  nodup := (matchingRows_pairwise log query).take.imp Newer.ne
  admitted := fun i hi => mem_matchingRows.mp (List.mem_of_mem_take hi)
  ordered := (matchingRows_pairwise log query).take
  length_eq := by
    rw [listedRows, List.length_take, length_matchingRows, ← size_eq]
    omega
  left_out := by
    intro i hi hadmits j hj
    have hmem := mem_matchingRows.mpr hadmits
    have hpairs := matchingRows_pairwise log query
    rw [← List.take_append_drop query.size (matchingRows log query)] at hmem hpairs
    have hrest := (List.mem_append.mp hmem).resolve_left hi
    exact (List.pairwise_append.mp hpairs).2.2 j hj i hrest

/-- A smaller limit leaves out rows at the end. -/
theorem list_prefix {limit : Int} (h : limit ≤ query.limit) (log : Log) :
    list log { query with limit } <+: list log query := by
  refine List.take_prefix_take_left ?_
  simp only [Query.size]
  omega

end

end SignOn.Audit

namespace SignOn.Service

-- ---------------------------------------------------------------------------
-- Listings after some calls
-- ---------------------------------------------------------------------------

/-- A call that logs an event, and what the clock shows then. -/
structure LogCall where
  now : Instant
  event : Audit.Event
  clientId : Option String := none
  subject : Option String := none
  ip : Option String := none

def LogCall.entry (call : LogCall) : Audit.Entry :=
  call.event.entry call.now call.clientId call.subject call.ip

/-- Calls one after another. Between two of them the clock may go back or stand still. -/
def logAll : List LogCall → ServiceM Unit
  | [] => return
  | call :: rest => do
    modify fun service => { service with now := call.now }
    log call.event call.clientId call.subject call.ip
    logAll rest

def afterCall (service : Service) (call : LogCall) : Service :=
  { service with
    now := call.now
    database := { service.database with audit := service.database.audit ++ [call.entry] } }

theorem logAll_cons_run (call : LogCall) (rest : List LogCall) (service : Service) :
    logAll (call :: rest) service = logAll rest (service.afterCall call) :=
  rfl

theorem logAll_run (calls : List LogCall) (service : Service) :
    ∃ after, logAll calls service = .ok () after ∧
      after.database.audit = service.database.audit ++ calls.map LogCall.entry := by
  induction calls generalizing service with
  | nil => exact ⟨service, rfl, (List.append_nil _).symm⟩
  | cons call rest ih =>
    obtain ⟨after, hrun, haudit⟩ := ih (service.afterCall call)
    refine ⟨after, by rw [logAll_cons_run, hrun], ?_⟩
    rw [haudit, List.map_cons, List.append_cons]
    rfl

/-- After any calls a listing shows the newest of the rows that its filters admit, which are no
others than these, and with a smaller limit the first of them. -/
theorem listing_newest (calls : List LogCall) (first : Service) (query : Audit.Query) :
    ∃ after log, logAll calls first = .ok () after ∧ after.database.audit = log ∧
      log = first.database.audit ++ calls.map LogCall.entry ∧
      (∃ rows, Audit.list log query = rows.map log.get ∧ Audit.Newest log query rows ∧
        ∀ others, Audit.Newest log query others → others = rows) ∧
      ∀ limit ≤ query.limit, Audit.list log { query with limit } <+: Audit.list log query := by
  obtain ⟨after, hrun, haudit⟩ := logAll_run calls first
  have hnewest := Audit.listedRows_newest after.database.audit query
  exact ⟨after, _, hrun, rfl, haudit,
    ⟨_, Audit.list_eq _ query, hnewest, fun _ hothers => hnewest.unique hothers⟩,
    fun _ hlimit => Audit.list_prefix hlimit _⟩

/-- A login that succeeds among some that fail. The clock stands still at first and is set back
then. -/
def unsteadyCalls : List LogCall :=
  [{ now := ⟨7⟩, event := .loginFailed, clientId := "web" },
    { now := ⟨7⟩, event := .loginSucceeded, clientId := "web", subject := "ada" },
    { now := ⟨7⟩, event := .loginFailed, clientId := "app" },
    { now := ⟨3⟩, event := .loginFailed, clientId := "web" },
    { now := ⟨5⟩, event := .loginFailed }]

def failedLogins : Audit.Query := { limit := 3, event := "", outcome := "fail" }

theorem unsteadyCalls_listing :
    ∃ after, logAll unsteadyCalls demo = .ok () after ∧
      (Audit.list after.database.audit failedLogins).map (·.clientId) =
        [some "app", some "web", none] ∧
      1 ≤ failedLogins.limit ∧
      Audit.list after.database.audit { failedLogins with limit := 1 } <+:
        Audit.list after.database.audit failedLogins := by
  obtain ⟨after, log, hrun, haudit, rfl, ⟨rows, hlist, -, hunique⟩, hprefix⟩ :=
    listing_newest unsteadyCalls demo failedLogins
  have hrows := hunique [⟨2, by decide⟩, ⟨0, by decide⟩, ⟨4, by decide⟩]
    { nodup := by decide
      admitted := by decide +kernel
      ordered := by decide +kernel
      length_eq := by decide +kernel
      left_out := by decide +kernel }
  refine ⟨after, hrun, ?_, by decide, ?_⟩
  · rw [haudit, hlist, ← hrows]
    rfl
  · rw [haudit]
    exact hprefix 1 (by decide)

end SignOn.Service
