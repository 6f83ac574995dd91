import RuleCatalog.Store.Basic

/-! # Sessions

A store in use. Transactions go by names, which can be used again once their transaction has ended,
and failures of the store can be rehearsed. Everything that is asked of the store in one operation
is kept, so that it can be shown.
-/

namespace RuleCatalog

open Store

/-- A store in use. -/
structure Session where
  store : Store
  /-- The open transactions by their names. -/
  names : List (String × TxId)
  /-- The number of the next transaction. -/
  next : TxId
  rehearsal : Option Rehearsal

namespace Session

/-- A session with a store that is not in use yet. -/
def start (store : Store) : Session := ⟨store, [], 0, none⟩

/-- The open transaction of a name. -/
def transaction? (s : Session) (name : String) : Option TxId := s.names.lookup name

/-- The session with a name given up. -/
def forget (s : Session) (name : String) : Session :=
  { s with names := s.names.filter (·.1 != name) }

/-- Ends a transaction without its changes, if there is one of the name. -/
def rollback (s : Session) (name : String) : Session :=
  match s.transaction? name with
  | some t => { s.forget name with store := s.store.rollback t }
  | none => s

/-- Opens a transaction. One that has the name already ends without its changes, once the new one is
open. -/
def begin (s : Session) (name : String) : Except Store.Error Session := do
  let store ← s.store.begin s.next
  let opened := ({ s with store := store } : Session).rollback name
  return { opened with names := (name, s.next) :: opened.names, next := s.next + 1 }

/-- Ends a transaction with its changes. -/
def commit (s : Session) (name : String) (t : TxId) : Except Store.Error Unit × Session :=
  let (outcome, store) := s.store.commit t
  (outcome, { s.forget name with store := store })

/-- Ends all transactions without their changes. -/
def reopen (s : Session) : Session := (s.names.map Prod.fst).foldl rollback s

/-- Lets requests fail from now on, or no longer. -/
def rehearse (s : Session) (rehearsal : Option Rehearsal) : Session :=
  { s with rehearsal := rehearsal }

/-- Runs an operation through a handle. Gives its result and what it asked of the store. -/
def run {α : Type} (s : Session) (h : Handle) (script : Script α) : α × List Request × Session :=
  let handler := ((Store.answer h).rehearsed).recorded
  let (result, (store, rehearsal), asked) := script.run handler ((s.store, s.rehearsal), [])
  (result, asked, { s with store := store, rehearsal := rehearsal })

end Session

end RuleCatalog
