import SignOn.Audit.Basic
import SignOn.Client.Registry
import SignOn.Failure

/-!
# Users and the tables

A password is hashed and checked by its first 72 bytes, so that two passwords that agree on them are
one. How bytes are hashed is a matter of the `Hasher`, of which nothing is assumed. It need not even
give the same bytes the same hash when it is asked again: every run of the seeding has a hasher of
its own. Users and clients are kept in the order of insertion, and no two rows of a table have one
key.
-/

namespace SignOn

structure Hasher where
  hash : List UInt8 → String
  /-- Whether a hash is one of these bytes; no answer for a text that is no hash. -/
  check : List UInt8 → String → Option Bool

namespace Hasher

def significantBytes : Nat := 72

def significant (password : String) : List UInt8 :=
  (Text.Utf8.encodeString password).take significantBytes

def hashPassword (hasher : Hasher) (password : String) : String :=
  hasher.hash (significant password)

def verifyPassword (hasher : Hasher) (attempt hash : String) : Except Failure Bool :=
  match hasher.check (significant attempt) hash with
  | some valid => .ok valid
  | none => .error .unusableHash

/-- Keeps the bytes as they are, behind a mark. It stands in where only verdicts are of interest. -/
def plain : Hasher where
  hash bytes := String.ofList ('=' :: letters bytes)
  check bytes hash :=
    match hash.toList with
    | '=' :: kept => some (kept == letters bytes)
    | _ => none
where
  letters (bytes : List UInt8) : List Char := bytes.map fun byte => Char.ofNat byte.toNat

end Hasher

structure User where
  username : String
  passwordHash : String
  deriving DecidableEq, Repr

structure Database where
  users : List User := []
  clients : Client.Registry := []
  audit : Audit.Log := []
  deriving DecidableEq, Repr

namespace Database

/-- A change of the tables, which keeps what was inserted before a failure. -/
abbrev Change := EStateM Failure Database

def user? (db : Database) (username : String) : Option User :=
  db.users.find? (·.username == username)

def insertUser (user : User) : Change Unit := do
  if ((← get).user? user.username).isSome then throw .duplicateKey
  modify fun db => { db with users := db.users ++ [user] }

def insertClient (row : Client.Row) : Change Unit := do
  if !row.defaultMaxAge.all Client.fitsColumn then throw (.document .tooWide)
  if ((← get).clients.row? row.clientId).isSome then throw .duplicateKey
  modify fun db => { db with clients := db.clients ++ [row] }

end Database

end SignOn
