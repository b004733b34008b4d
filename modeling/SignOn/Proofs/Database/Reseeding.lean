import SignOn.Proofs.Database.SeedLaws

/-!
# Seeding again and again

A run of the seeding, whether it returns or fails, is some insertions, so that it keeps what every
insertion keeps (`kept_run`): rows stay where they are (`Extends`) and keys stay unique
(`HasUniqueKeys`). After a run that returns the rows it asks for are there, and then the insertions
find nothing to do (`run_again`). All of this holds of every run in a sequence of them, those that
fail included (`seeding_settles`). No run needs the hasher of another: a user that is there is left
alone, whatever the hash of the password would be now.
-/

namespace SignOn.Database

structure HasUniqueKeys (db : Database) : Prop where
  users : (db.users.map User.username).Nodup
  clients : (db.clients.map Client.Row.clientId).Nodup

/-- Rows may have come to the ends of the tables of users and clients. -/
structure Extends (db after : Database) : Prop where
  users : db.users <+: after.users
  clients : db.clients <+: after.clients
  audit : after.audit = db.audit

-- ---------------------------------------------------------------------------
-- Insertions
-- ---------------------------------------------------------------------------

section
variable {db middle after : Database}

theorem Extends.refl (db : Database) : db.Extends db :=
  ⟨List.prefix_refl _, List.prefix_refl _, rfl⟩

theorem Extends.trans (h : db.Extends middle) (h' : middle.Extends after) : db.Extends after :=
  ⟨h.users.trans h'.users, h.clients.trans h'.clients, h'.audit.trans h.audit⟩

theorem extends_withUser (db : Database) (user : User) : db.Extends (db.withUser user) := by
  unfold withUser
  split
  · exact ⟨List.prefix_append .., List.prefix_refl _, rfl⟩
  · exact .refl db

theorem extends_withClient (db : Database) (row : Client.Row) : db.Extends (db.withClient row) := by
  unfold withClient
  split
  · exact ⟨List.prefix_refl _, List.prefix_append .., rfl⟩
  · exact .refl db

theorem user?_eq_none_iff {username : String} :
    db.user? username = none ↔ ∀ user ∈ db.users, user.username ≠ username := by
  simp [user?]

theorem row?_eq_none_iff {registry : Client.Registry} {clientId : String} :
    registry.row? clientId = none ↔ ∀ row ∈ registry, row.clientId ≠ clientId := by
  simp [Client.Registry.row?]

theorem nodup_keys_concat {key : α → κ} {rows : List α} {row : α} (h : (rows.map key).Nodup)
    (hnew : ∀ other ∈ rows, key other ≠ key row) : ((rows ++ [row]).map key).Nodup := by
  rw [List.map_append, List.nodup_append]
  refine ⟨h, by simp, fun k hk k' hk' heq => ?_⟩
  obtain ⟨other, hother, rfl⟩ := List.mem_map.mp hk
  rw [List.map_singleton, List.mem_singleton] at hk'
  exact hnew other hother (heq.trans hk')

theorem HasUniqueKeys.withUser (h : db.HasUniqueKeys) (user : User) :
    (db.withUser user).HasUniqueKeys := by
  unfold Database.withUser
  split
  · next hnone =>
    exact ⟨nodup_keys_concat h.users (user?_eq_none_iff.mp (Option.isNone_iff_eq_none.mp hnone)),
      h.clients⟩
  · exact h

theorem HasUniqueKeys.withClient (h : db.HasUniqueKeys) (row : Client.Row) :
    (db.withClient row).HasUniqueKeys := by
  unfold Database.withClient
  split
  · next hnone =>
    exact ⟨h.users,
      nodup_keys_concat h.clients (row?_eq_none_iff.mp (Option.isNone_iff_eq_none.mp hnone))⟩
  · exact h

theorem exists_username_withUser (db : Database) (user : User) :
    ∃ other ∈ (db.withUser user).users, other.username = user.username := by
  unfold withUser
  split
  · exact ⟨user, by simp, rfl⟩
  · next hsome => simpa [user?_eq_none_iff] using hsome

theorem exists_clientId_withClient (db : Database) (row : Client.Row) :
    ∃ other ∈ (db.withClient row).clients, other.clientId = row.clientId := by
  unfold withClient
  split
  · exact ⟨row, by simp, rfl⟩
  · next hsome => simpa [row?_eq_none_iff] using hsome

theorem withUser_of_exists {user : User}
    (h : ∃ other ∈ db.users, other.username = user.username) : db.withUser user = db := by
  obtain ⟨other, hother, hname⟩ := h
  rw [withUser, if_neg]
  rw [Option.isNone_iff_eq_none, user?_eq_none_iff]
  exact fun hnone => hnone other hother hname

theorem withClient_of_exists {row : Client.Row}
    (h : ∃ other ∈ db.clients, other.clientId = row.clientId) : db.withClient row = db := by
  obtain ⟨other, hother, hid⟩ := h
  rw [withClient, if_neg]
  rw [Option.isNone_iff_eq_none, row?_eq_none_iff]
  exact fun hnone => hnone other hother hid

theorem extends_foldl_withClient (db : Database) (rows : List Client.Row) :
    db.Extends (rows.foldl withClient db) :=
  List.foldlRecOn rows withClient (.refl db) fun _ h row _ => h.trans (extends_withClient _ row)

theorem exists_clientId_foldl {row : Client.Row} {rows : List Client.Row} (h : row ∈ rows)
    (db : Database) :
    ∃ other ∈ (rows.foldl withClient db).clients, other.clientId = row.clientId := by
  induction rows generalizing db with
  | nil => cases h
  | cons first rest ih =>
    rcases List.mem_cons.mp h with rfl | h
    · obtain ⟨other, hother, hid⟩ := exists_clientId_withClient db row
      exact ⟨other, (extends_foldl_withClient _ rest).clients.subset hother, hid⟩
    · exact ih h (db.withClient first)

theorem foldl_withClient_of_exists {rows : List Client.Row}
    (h : ∀ row ∈ rows, ∃ other ∈ db.clients, other.clientId = row.clientId) :
    rows.foldl withClient db = db := by
  induction rows with
  | nil => rfl
  | cons row rest ih =>
    rw [List.forall_mem_cons] at h
    rw [List.foldl_cons, withClient_of_exists h.1, ih h.2]

end

-- ---------------------------------------------------------------------------
-- Runs
-- ---------------------------------------------------------------------------

namespace Seed

variable {hasher : Hasher} {env : Environment} {db after : Database} {maxAge : Option Int}

theorem ensureClient_eq_error {clientId : String} {uris : List String} {failure : Failure}
    (h : ensureClient clientId uris maxAge db = .error failure after) :
    failure = .document .tooWide ∧ after = db := by
  rw [ensureClient, run_get_bind] at h
  cases hr : db.clients.row? clientId with
  | some other =>
    rw [hr] at h
    cases h
  | none =>
    rw [hr] at h
    change insertClient _ db = _ at h
    rw [insertClient_run hr] at h
    split at h
    · cases h
    · cases h
      exact ⟨rfl, rfl⟩

theorem client_eq_error {failure : Failure} (h : client env maxAge db = .error failure after) :
    failure = .document .tooWide ∧ after = db := by
  unfold client at h
  cases hid : env.nonEmpty? "IDP_CLIENT_ID" with
  | none =>
    rw [hid] at h
    cases h
  | some clientId =>
    rw [hid] at h
    cases hvalue : redirectVariable env with
    | none =>
      rw [hvalue] at h
      cases h
    | some value =>
      rw [hvalue] at h
      cases hempty : (addresses value).isEmpty with
      | true =>
        simp only [hempty] at h
        cases h
      | false =>
        simp only [hempty] at h
        exact ensureClient_eq_error h

def withSeedUser (hasher : Hasher) (env : Environment) (db : Database) : Database :=
  (user? hasher env).toList.foldl withUser db

theorem readInteger_eq_error {value : Option String} {failure : Failure}
    (h : readInteger value = .error failure) : ∃ text cause, failure = .numeral text cause := by
  cases value with
  | none => cases h
  | some text =>
    simp only [readInteger] at h
    split at h
    · cases h
    · split at h
      · cases h
        exact ⟨text, _, rfl⟩
      · cases h

/-- A run that fails has added the user at most, and no key was there already. -/
theorem run_eq_error {failure : Failure} (h : run hasher env db = .error failure after) :
    after = withSeedUser hasher env db ∧
      ((∃ text cause, failure = .numeral text cause) ∨ failure = .document .tooWide) := by
  rw [run, run_bind (user_run hasher env db)] at h
  cases hread : readInteger (env.get? "IDP_CLIENT_DEFAULT_MAX_AGE") with
  | error cause =>
    rw [hread] at h
    cases h
    exact ⟨rfl, .inl (readInteger_eq_error hread)⟩
  | ok maxAge =>
    rw [hread] at h
    cases hc : client env maxAge (withSeedUser hasher env db) with
    | error cause middle =>
      cases (run_bind_error hc).symm.trans h
      obtain ⟨hcause, rfl⟩ := client_eq_error hc
      exact ⟨rfl, .inr hcause⟩
    | ok _ middle =>
      -- the row for development has no age limit and always fits
      have hok := ensureClient_eq_ok.mpr ⟨admits_developmentRow middle.clients, rfl⟩
      cases ((run_bind hc).trans hok).symm.trans h

theorem kept_run {P : Database → Prop} (hu : ∀ db user, P db → P (db.withUser user))
    (hc : ∀ db row, P db → P (db.withClient row)) (h : P db) (hasher : Hasher)
    (env : Environment) : P (stateOf (run hasher env db)) := by
  have huser : P (withSeedUser hasher env db) :=
    List.foldlRecOn _ withUser h fun db hdb user _ => hu db user hdb
  cases hrun : run hasher env db with
  | error failure after =>
    obtain ⟨rfl, -⟩ := run_eq_error hrun
    exact huser
  | ok _ after =>
    obtain ⟨maxAge, -, -, rfl⟩ := run_eq_ok.mp hrun
    exact List.foldlRecOn _ withClient huser fun db hdb row _ => hc db row hdb

theorem extends_run (hasher : Hasher) (env : Environment) (db : Database) :
    db.Extends (stateOf (run hasher env db)) :=
  kept_run (fun _ user h => h.trans (extends_withUser _ user))
    (fun _ row h => h.trans (extends_withClient _ row)) (.refl db) hasher env

-- ---------------------------------------------------------------------------
-- Settled tables
-- ---------------------------------------------------------------------------

theorem exists_username_added {user : User} (h : user? hasher env = some user) :
    ∃ other ∈ (added hasher env maxAge db).users, other.username = user.username := by
  obtain ⟨other, hother, hname⟩ := exists_username_withUser db user
  refine ⟨other, ?_, hname⟩
  rw [added, h]
  exact (extends_foldl_withClient _ _).users.subset hother

theorem exists_user?_of_user? {user : User} (h : user? hasher env = some user) (other : Hasher) :
    ∃ found, user? other env = some found ∧ found.username = user.username := by
  obtain ⟨username, hname, h⟩ := Option.bind_eq_some_iff.mp h
  obtain ⟨password, hpassword, rfl⟩ := Option.map_eq_some_iff.mp h
  exact ⟨⟨username, other.hashPassword password⟩, by simp [user?, hname, hpassword], rfl⟩

theorem added_added (hasher again : Hasher) (env : Environment) (maxAge : Option Int)
    (db : Database) :
    added again env maxAge (added hasher env maxAge db) = added hasher env maxAge db := by
  have huser : (user? again env).toList.foldl withUser (added hasher env maxAge db) =
      added hasher env maxAge db := by
    cases h : user? again env with
    | none => rfl
    | some user =>
      obtain ⟨found, hfound, hname⟩ := exists_user?_of_user? h hasher
      exact withUser_of_exists (hname ▸ exists_username_added hfound)
  rw [added, huser]
  exact foldl_withClient_of_exists fun row hrow => exists_clientId_foldl hrow _

theorem run_again (h : run hasher env db = .ok () after) (again : Hasher) :
    run again env after = .ok () after := by
  obtain ⟨maxAge, hread, -, rfl⟩ := run_eq_ok.mp h
  refine run_eq_ok.mpr
    ⟨maxAge, hread, fun row hrow hnone => ?_, (added_added hasher again env maxAge db).symm⟩
  have hmem := List.mem_append_left [developmentRow] (Option.mem_toList.mpr hrow)
  obtain ⟨other, hother, hid⟩ := exists_clientId_foldl hmem (withSeedUser hasher env db)
  exact absurd hid (row?_eq_none_iff.mp hnone other hother)

/-- The tables after a sequence of runs, whatever came of each. -/
def seeded (runs : List (Hasher × Environment)) (db : Database) : Database :=
  runs.foldl (fun db (hasher, env) => stateOf (run hasher env db)) db

theorem HasUniqueKeys.seeded (h : db.HasUniqueKeys) (runs : List (Hasher × Environment)) :
    (seeded runs db).HasUniqueKeys :=
  List.foldlRecOn runs _ h fun _ hdb (hasher, env) _ =>
    kept_run (fun _ user h => h.withUser user) (fun _ row h => h.withClient row) hdb hasher env

/-- In a sequence of runs every run only adds to tables of unique keys, and no key of a row that it
inserts is taken. What a run that returns asks for is there after it, and running it once more
changes nothing. -/
theorem seeding_settles (h : db.HasUniqueKeys) (earlier : List (Hasher × Environment))
    (hasher : Hasher) (env : Environment) :
    (seeded (earlier ++ [(hasher, env)]) db).HasUniqueKeys ∧
      (seeded earlier db).Extends (seeded (earlier ++ [(hasher, env)]) db) ∧
      resultOf (run hasher env (seeded earlier db)) ≠ .error .duplicateKey ∧
      ∀ after, run hasher env (seeded earlier db) = .ok () after →
        seeded (earlier ++ [(hasher, env)]) db = after ∧
        (∃ row ∈ after.clients, row.clientId = "test-client") ∧
        (∀ username password, env.get? "IDP_SEED_USER" = some username → username ≠ "" →
          env.get? "IDP_SEED_PASSWORD" = some password → password ≠ "" →
          ∃ user ∈ after.users, user.username = username) ∧
        ∀ again : Hasher, run again env after = .ok () after := by
  have hseeded : seeded (earlier ++ [(hasher, env)]) db =
      stateOf (run hasher env (seeded earlier db)) := by
    rw [seeded, List.foldl_append]
    rfl
  refine ⟨HasUniqueKeys.seeded h _, ?_, ?_, fun after hrun => ⟨?_, ?_, ?_, run_again hrun⟩⟩
  · rw [hseeded]
    exact extends_run hasher env _
  · cases hrun : run hasher env (seeded earlier db) with
    | ok _ after => exact fun hfailed => nomatch hfailed
    | error failure after =>
      intro hfailed
      cases hfailed
      obtain ⟨-, ⟨text, cause, hcause⟩ | hcause⟩ := run_eq_error hrun <;> cases hcause
  · rw [hseeded, hrun]
    rfl
  · obtain ⟨maxAge, -, -, rfl⟩ := run_eq_ok.mp hrun
    have hrow : developmentRow ∈ [developmentRow] := List.mem_singleton_self developmentRow
    exact exists_clientId_foldl (List.mem_append_right _ hrow) _
  · intro username password huser huser_ne hpassword hpassword_ne
    obtain ⟨maxAge, -, -, rfl⟩ := run_eq_ok.mp hrun
    have huser? : user? hasher env = some ⟨username, hasher.hashPassword password⟩ := by
      simp [user?, Environment.nonEmpty?, huser, huser_ne, hpassword, hpassword_ne, Option.filter]
    exact exists_username_added huser?

def grownTables : Database where
  users := [⟨"ada", "=old"⟩]
  clients := [.ofAddresses "web" ["https://rp/cb"] none]

/-- An environment that names the user with another password, and the client for development. -/
def developingEnvironment : Environment :=
  [("IDP_SEED_USER", "ada"), ("IDP_SEED_PASSWORD", "new"), ("IDP_CLIENT_ID", "test-client"),
    ("IDP_REDIRECT_URIS", "https://dev/cb"), ("IDP_CLIENT_DEFAULT_MAX_AGE", "60")]

/-- An environment that adds a user and fails at its age limit. -/
def brokenEnvironment : Environment :=
  [("IDP_SEED_USER", "bob"), ("IDP_SEED_PASSWORD", "pw"), ("IDP_CLIENT_DEFAULT_MAX_AGE", "1h")]

theorem developingEnvironment_settles : ∃ after,
    run .plain developingEnvironment (seeded [(.plain, brokenEnvironment)] grownTables) =
        .ok () after ∧
      grownTables.HasUniqueKeys ∧ after.HasUniqueKeys ∧
      after.users.map User.username = ["ada", "bob"] ∧
      after.clients.map Client.Row.clientId = ["web", "test-client"] ∧
      ∀ again : Hasher, run again developingEnvironment after = .ok () after := by
  have hkeys : grownTables.HasUniqueKeys := ⟨by decide, by decide⟩
  obtain ⟨hunique, -, -, hreturned⟩ :=
    seeding_settles hkeys [(.plain, brokenEnvironment)] .plain developingEnvironment
  have hreturns : resultOf (run .plain developingEnvironment
      (seeded [(.plain, brokenEnvironment)] grownTables)) = .ok () :=
    eq_ok_of_toOption (by decide +kernel)
  cases hrun : run .plain developingEnvironment
      (seeded [(.plain, brokenEnvironment)] grownTables) with
  | error failure after =>
    rw [hrun] at hreturns
    cases hreturns
  | ok _ after =>
    obtain ⟨rfl, -, -, hagain⟩ := hreturned after hrun
    exact ⟨_, rfl, hkeys, hunique, by decide +kernel, by decide +kernel, hagain⟩

end Seed

end SignOn.Database
