import SkaterLedger.Store.Basic

/-!
# Transactions

A statement on the tables is carried out or fails, and one that fails changes nothing. A series of
statements has no such guarantee: what the earlier ones have written is there when a later one fails
(`Stop`). A transaction gives it. At its beginning a connection saves the tables; a commit forgets
what was saved, and a rollback brings it back.
-/

namespace SkaterLedger

/-- Where a series of statements stops of which one fails. -/
structure Stop where
  /-- Why the statement failed. -/
  failure : Failure
  /-- The tables at that point, with all that was written before. -/
  store : Store

/-- Carries out a statement in a series. If it fails, the series stops there. -/
def Store.execute (statement : Store → Except Failure α) (s : Store) : Except Stop α :=
  (statement s).mapError fun failure => ⟨failure, s⟩

/-- A connection to the tables. -/
structure Connection where
  /-- The tables as they are read and written at the moment. -/
  store : Store
  /-- The tables as they were at the beginning of the transaction, if one is open. -/
  saved : Option Store

namespace Connection

/-- Begins a transaction. -/
def begin (c : Connection) : Connection := { c with saved := some c.store }

/-- Ends a transaction and keeps what was written. -/
def commit (c : Connection) : Connection := { c with saved := none }

/-- Ends a transaction and takes back what was written. -/
def rollback (c : Connection) : Connection := ⟨c.saved.getD c.store, none⟩

/-- Carries out a series of statements as one transaction, which is rolled back where they stop. -/
def transaction (statements : Store → Except Stop (α × Store)) (c : Connection) :
    Except Failure α × Connection :=
  let c := c.begin
  match statements c.store with
  | .ok (a, s) => (.ok a, { c with store := s }.commit)
  | .error stop => (.error stop.failure, { c with store := stop.store }.rollback)

end Connection

/-- Carries out a series of statements on a store as one transaction. Also returns the store that
this leaves, whether the statements succeed or not. -/
def Store.transaction (statements : Store → Except Stop (α × Store)) (s : Store) :
    Except Failure α × Store :=
  let run := Connection.transaction statements ⟨s, none⟩
  (run.1, run.2.store)

/-- A result together with the store that is left, if there is a result. -/
def Store.settled (run : Except Failure α × Store) : Except Failure (α × Store) :=
  run.1.map fun a => (a, run.2)

end SkaterLedger
