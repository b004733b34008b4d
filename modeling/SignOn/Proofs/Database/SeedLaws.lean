import SignOn.Database.Seed
import SignOn.Proofs.Session.FaultLaws

/-!
# What seeding adds

Seeding is up to three insertions. Each puts a row at the end of its table unless one of that key is
there (`Database.withUser`, `Database.withClient`), and which rows these are is a function of the
environment (`Seed.user?`, `Seed.client?`). A run returns where the age limit is read and the row of
its client fits the table, and has then made exactly these insertions (`Seed.run_eq_ok`).
-/

namespace SignOn

theorem run_get_bind {f : σ → EStateM ε σ β} (s : σ) : (get >>= f) s = f s s := rfl

theorem ended_inj {a : α} {s s' : σ} :
    (.ok a s : EStateM.Result ε σ α) = .ok a s' ↔ s' = s :=
  ⟨by rintro ⟨⟩; rfl, by rintro rfl; rfl⟩

-- ---------------------------------------------------------------------------
-- Insertions
-- ---------------------------------------------------------------------------

/-- A table has a row of that identifier already, or can take this one. -/
def Client.Registry.Admits (registry : Registry) (row : Row) : Prop :=
  registry.row? row.clientId = none → row.defaultMaxAge.all fitsColumn = true

namespace Database

def withUser (db : Database) (user : User) : Database :=
  if (db.user? user.username).isNone then { db with users := db.users ++ [user] } else db

def withClient (db : Database) (row : Client.Row) : Database :=
  if (db.clients.row? row.clientId).isNone then { db with clients := db.clients ++ [row] } else db

section
variable {db after : Database} {row : Client.Row}

@[simp] theorem withUser_clients (db : Database) (user : User) :
    (db.withUser user).clients = db.clients := by
  unfold withUser
  split <;> rfl

@[simp] theorem foldl_withUser_clients (db : Database) (users : List User) :
    (users.foldl withUser db).clients = db.clients := by
  induction users generalizing db with
  | nil => rfl
  | cons user users ih => rw [List.foldl_cons, ih, withUser_clients]

theorem withClient_of_absent (h : db.clients.row? row.clientId = none) :
    (db.withClient row).clients = db.clients ++ [row] := by
  rw [withClient, h]
  rfl

theorem insertUser_run {user : User} (h : db.user? user.username = none) :
    insertUser user db = .ok () { db with users := db.users ++ [user] } := by
  rw [insertUser, run_get_bind, h]
  rfl

/-- The width of a row is checked before its key. -/
theorem insertClient_run (h : db.clients.row? row.clientId = none) :
    insertClient row db =
      if row.defaultMaxAge.all Client.fitsColumn then
        .ok () { db with clients := db.clients ++ [row] }
      else .error (.document .tooWide) db := by
  unfold insertClient
  cases row.defaultMaxAge.all Client.fitsColumn with
  | false => rfl
  | true =>
    refine (run_get_bind db).trans ?_
    rw [h]
    rfl

end

-- ---------------------------------------------------------------------------
-- The rows of an environment
-- ---------------------------------------------------------------------------

namespace Seed

def user? (hasher : Hasher) (env : Environment) : Option User :=
  (env.nonEmpty? "IDP_SEED_USER").bind fun username =>
    (env.nonEmpty? "IDP_SEED_PASSWORD").map fun password =>
      ⟨username, hasher.hashPassword password⟩

/-- The row of the client that an environment names. A client without an address is none. -/
def client? (env : Environment) (maxAge : Option Int) : Option Client.Row :=
  (env.nonEmpty? "IDP_CLIENT_ID").bind fun clientId =>
    (redirectVariable env).bind fun value =>
      if (addresses value).isEmpty then none
      else some (.ofAddresses clientId (addresses value) maxAge)

def developmentRow : Client.Row :=
  .ofAddresses developmentClient [developmentAddress] none

def added (hasher : Hasher) (env : Environment) (maxAge : Option Int) (db : Database) : Database :=
  ((client? env maxAge).toList ++ [developmentRow]).foldl withClient
    ((user? hasher env).toList.foldl withUser db)

section
variable {hasher : Hasher} {env : Environment} {db after : Database}

theorem user_run (hasher : Hasher) (env : Environment) (db : Database) :
    user hasher env db = .ok () ((user? hasher env).toList.foldl withUser db) := by
  unfold user user?
  cases env.nonEmpty? "IDP_SEED_USER" with
  | none => rfl
  | some username =>
    cases env.nonEmpty? "IDP_SEED_PASSWORD" with
    | none => rfl
    | some password =>
      simp only [Option.bind_some, Option.map_some, Option.toList_some, List.foldl_cons,
        List.foldl_nil, withUser]
      rw [run_get_bind]
      cases hu : db.user? username with
      | none => exact insertUser_run hu
      | some other => rfl

theorem ensureClient_eq_ok {clientId : String} {uris : List String} {maxAge : Option Int} :
    ensureClient clientId uris maxAge db = .ok () after ↔
      db.clients.Admits (.ofAddresses clientId uris maxAge) ∧
        after = db.withClient (.ofAddresses clientId uris maxAge) := by
  have hid : (Client.Row.ofAddresses clientId uris maxAge).clientId = clientId := rfl
  rw [ensureClient, run_get_bind, Client.Registry.Admits, withClient, hid]
  cases hr : db.clients.row? clientId with
  | some other =>
    change EStateM.Result.ok () db = .ok () after ↔ _
    rw [ended_inj]
    simp
  | none =>
    change insertClient _ db = .ok () after ↔ _
    rw [insertClient_run hr]
    split
    · next hfits =>
      rw [ended_inj]
      simp [hfits]
    · next hfits => simp [hfits]

theorem client_eq_ok {maxAge : Option Int} : client env maxAge db = .ok () after ↔
    (∀ row ∈ client? env maxAge, db.clients.Admits row) ∧
      after = (client? env maxAge).toList.foldl withClient db := by
  have hnone : (pure () : Change Unit) db = .ok () after ↔
      (∀ row ∈ (none : Option Client.Row), db.clients.Admits row) ∧
        after = (none : Option Client.Row).toList.foldl withClient db := by
    refine ended_inj.trans ?_
    simp
  unfold client client?
  cases env.nonEmpty? "IDP_CLIENT_ID" with
  | none => exact hnone
  | some clientId =>
    cases redirectVariable env with
    | none => exact hnone
    | some value =>
      cases hvalue : (addresses value).isEmpty with
      | true =>
        simp only [Option.bind_some, hvalue]
        exact hnone
      | false =>
        simp only [Option.bind_some, hvalue, Bool.not_false, ↓reduceIte, Bool.false_eq_true,
          ensureClient_eq_ok, Option.mem_some, forall_eq', Option.toList_some, List.foldl_cons,
          List.foldl_nil]

theorem admits_developmentRow (registry : Client.Registry) : registry.Admits developmentRow :=
  fun _ => rfl

theorem run_eq_ok : run hasher env db = .ok () after ↔
    ∃ maxAge, readInteger (env.get? "IDP_CLIENT_DEFAULT_MAX_AGE") = .ok maxAge ∧
      (∀ row ∈ client? env maxAge, db.clients.Admits row) ∧
        after = added hasher env maxAge db := by
  rw [run, run_bind (user_run hasher env db)]
  cases readInteger (env.get? "IDP_CLIENT_DEFAULT_MAX_AGE") with
  | error failure =>
    simp only [reduceCtorEq, false_and, exists_false, iff_false]
    exact fun h => nomatch h
  | ok maxAge =>
    simp only [Except.ok.injEq, exists_eq_left', added, List.foldl_append, List.foldl_cons,
      List.foldl_nil]
    constructor
    · intro h
      obtain ⟨_, middle, hclient, h⟩ := exists_of_run_bind h
      obtain ⟨hadmits, rfl⟩ := client_eq_ok.mp hclient
      rw [foldl_withUser_clients] at hadmits
      obtain ⟨-, rfl⟩ := ensureClient_eq_ok.mp h
      exact ⟨hadmits, rfl⟩
    · rintro ⟨hadmits, rfl⟩
      rw [← foldl_withUser_clients db (user? hasher env).toList] at hadmits
      rw [run_bind (client_eq_ok.mpr ⟨hadmits, rfl⟩)]
      exact ensureClient_eq_ok.mpr ⟨admits_developmentRow _, rfl⟩

end

end Seed

end Database

end SignOn
