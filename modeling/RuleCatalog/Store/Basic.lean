import RuleCatalog.Store.Database
import RuleCatalog.Store.Memory

/-! # Stores

A store is kept in memory or is a database. Both are used through handles; only a store in memory
can be used through itself.
-/

namespace RuleCatalog

open Store

/-- A store of either kind. -/
inductive Store where
  | memory (m : Memory)
  | database (d : Database)

namespace Store

/-- Opens a transaction under a number that no transaction had before. -/
def begin (s : Store) (t : TxId) : Except Error Store :=
  match s with
  | .memory m => (m.begin t).map .memory
  | .database d => (d.begin t).map .database

/-- Ends a transaction with its changes. -/
def commit (s : Store) (t : TxId) : Except Error Unit × Store :=
  match s with
  | .memory m =>
    let (outcome, m) := m.commit t
    (outcome, .memory m)
  | .database d =>
    let (outcome, d) := d.commit t
    (outcome, .database d)

/-- Ends a transaction without its changes. -/
def rollback (s : Store) (t : TxId) : Store :=
  match s with
  | .memory m => .memory (m.rollback t)
  | .database d => .database (d.rollback t)

/-- Answers a request through a handle. -/
def answer (h : Handle) : Handler Store := fun r s =>
  match s with
  | .memory m =>
    let (answer, m) := Memory.answer h r m
    (answer, .memory m)
  | .database d =>
    let (answer, d) := Database.answer h r d
    (answer, .database d)

end Store

end RuleCatalog
