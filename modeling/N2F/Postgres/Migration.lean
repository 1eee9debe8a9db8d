import N2F.Ecma.Number
import N2F.Machine
import N2F.Postgres.Transaction
import Mathlib.Data.List.Sort

set_option autoImplicit false

namespace N2F.Migrations

open Ecma

structure Migration where
  version : Number
  sql : List Char
deriving DecidableEq

def invalid : Failure := failure .invalid "invalid database configuration" "database.config"

def drift : Failure := failure .conflict "migration history differs" "database.migration_drift"

def refuses (previous : ℚ) (m : Migration) : Bool := !m.version.isSafeInteger || !m.version.above previous || m.sql.isEmpty

def admitted (previous : ℚ) : List Migration → Bool
  | [] => true
  | m :: rest => !refuses previous m && admitted (m.version.rational.getD 0) rest

-- The bigint a safe version is stored as; String and the server write it alike.
def Migration.number (m : Migration) : ℤ := (m.version.rational.getD 0).num

structure Row where
  version : ℤ
  checksum : String
deriving DecidableEq

structure Db (σ : Type) where
  schema : σ
  table : Option (List Row)

inductive Call where
  | waiting (ms : List Migration)
  | holding
  | answered (result : Result Unit)
deriving DecidableEq

-- The transaction that holds the advisory lock: its own view of the database, the
-- entries of its list that are not compared or executed yet, and what it executed.
structure Txn (σ : Type) where
  call : ℕ
  list : List Migration
  view : Db σ
  todo : List Migration
  ran : List (List Char)

structure State (σ : Type) where
  db : Db σ
  holder : Option (Txn σ)
  calls : List Call
  executed : List (List Char)

section

variable {σ : Type} (sha256 : List Char → String)

def Migration.row (m : Migration) : Row := ⟨m.number, sha256 m.sql⟩

def agrees (row : Row) (m : Migration) : Bool := row.version.repr = m.number.repr && row.checksum = sha256 m.sql

def compared : List Row → List Migration → Option (List Migration)
  | [], ms => some ms
  | _ :: _, [] => none
  | row :: rows, m :: ms => if agrees sha256 row m then compared rows ms else none

def Db.ledger (db : Db σ) : List Row := db.table.getD []

-- ORDER BY version
def ordered (rows : List Row) : List Row := rows.insertionSort fun a b => a.version ≤ b.version

def Db.insert (db : Db σ) (row : Row) : Except String (Db σ) :=
  match db.table with
  | none => .error "42P01"
  | some rows =>
      if rows.any (fun other => other.version = row.version) then .error "23505" else .ok { db with table := some (rows ++ [row]) }

def State.answer (s : State σ) (call : ℕ) (result : Result Unit) : State σ := { s with calls := s.calls.set call (.answered result) }

def State.rollback (s : State σ) (txn : Txn σ) (e : Failure) : State σ := { s with holder := none }.answer txn.call (.error e)

-- The steps of the calls as the server takes them: the lock is granted to one
-- transaction at a time, which then reads what was committed before; the SQL of a
-- migration takes its view anywhere. A transaction that fails, is canceled or
-- loses its connection is rolled back; a commit may go through unseen or not at all.
inductive Event (σ : Type) where
  | call (ms : List Migration)
  | refuse (call : ℕ) (e : Failure)
  | lock (call : ℕ)
  | apply (after : Db σ)
  | fail (e : Failure)
  | commit (seen : Bool)
  | lose

def State.lock (s : State σ) (call : ℕ) (ms : List Migration) : State σ :=
  let view : Db σ := { s.db with table := some s.db.ledger }
  match compared sha256 (ordered view.ledger) ms with
  | none => s.answer call (.error drift)
  | some todo => { s with holder := some ⟨call, ms, view, todo, []⟩, calls := s.calls.set call .holding }

def State.apply (s : State σ) (txn : Txn σ) (m : Migration) (rest : List Migration) (after : Db σ) : State σ :=
  match after.insert (m.row sha256) with
  | .error code => s.rollback txn (map (.database (some code)))
  | .ok view => { s with holder := some { txn with view := view, todo := rest, ran := txn.ran ++ [m.sql] } }

def State.commit (s : State σ) (txn : Txn σ) (seen : Bool) : State σ :=
  { s with db := txn.view, holder := none, executed := s.executed ++ txn.ran }.answer txn.call
    (if seen then .ok () else .error uncertain)

def step (s : State σ) : Event σ → Option (State σ)
  | .call ms => some { s with calls := s.calls ++ [if admitted 0 ms then .waiting ms else .answered (.error invalid)] }
  | .refuse call e =>
      match s.calls[call]? with
      | some (.waiting _) => some (s.answer call (.error e))
      | _ => none
  | .lock call =>
      match s.holder, s.calls[call]? with
      | none, some (.waiting ms) => some (s.lock sha256 call ms)
      | _, _ => none
  | .apply after =>
      match s.holder with
      | some txn =>
          match txn.todo with
          | m :: rest => some (s.apply sha256 txn m rest after)
          | [] => none
      | none => none
  | .fail e =>
      match s.holder with
      | some txn => some (s.rollback txn e)
      | none => none
  | .commit seen =>
      match s.holder with
      | some txn => if txn.todo = [] then some (s.commit txn seen) else none
      | none => none
  | .lose =>
      match s.holder with
      | some txn => if txn.todo = [] then some (s.rollback txn uncertain) else none
      | none => none

def start (schema : σ) : State σ := ⟨⟨schema, none⟩, none, [], []⟩

def machine (schema : σ) : Machine (State σ) (Event σ) := ⟨start schema, step sha256⟩

-- The SQL of a migration leaves the ledger table as it was: it writes no row of it, and
-- puts no rule or trigger on it that the insert behind it would run into.
def Quiet (s : State σ) : Event σ → Prop
  | .apply after => ∀ txn, s.holder = some txn → after.table = txn.view.table
  | _ => True

end

end N2F.Migrations
