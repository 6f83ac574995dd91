import RuleCatalog.Json.Value

/-! # Drafts

What can be made of a text that is meant to be JSON. Reading a text never fails: it gives a `Draft`,
a tree that carries each fault at the place where it stands. A decoder walks the draft in the order
of the text and reports whatever it meets first, a member of the wrong kind or a fault; members that
it does not know it skips, and skipping is satisfied with less than reading (a string that is closed,
a number of any size).
-/

namespace RuleCatalog.Json

/-- How a text fails to be JSON. -/
inductive Fault where
  /-- The text ends where more is needed. -/
  | ended
  /-- Something else stands where the grammar asks for a token. -/
  | malformed
  deriving DecidableEq, Repr

/-- How a list of items or members ends. -/
inductive Ending where
  | closed
  | open (fault : Fault)
  deriving DecidableEq, Repr

/-- A value as it stands in a text. After a faulty part nothing follows, unless skipping it is
possible. -/
inductive Draft where
  /-- The text ends here. -/
  | missing
  | broken (fault : Fault)
  | null
  | bool (b : Bool)
  | number (read : Except Fault Number) (skip : Except Fault Unit)
  | text (read : Except Fault String) (skip : Except Fault Unit)
  | array (items : List Draft) (ending : Ending)
  /-- Members with their names; a name of any kind is kept as it stands. -/
  | object (members : List (Draft × Draft)) (ending : Ending)

namespace Ending

/-- The fault of an ending that is not closed. -/
def check : Ending → Except Fault Unit
  | .closed => .ok ()
  | .open fault => .error fault

end Ending

namespace Draft

/-- The name of a member: only a string will do. -/
def name : Draft → Except Fault String
  | .text read _ => read
  | .missing => .error .ended
  | _ => .error .malformed

/-- The name of a member that is skipped. -/
def skipName : Draft → Except Fault Unit
  | .text _ skip => skip
  | .missing => .error .ended
  | _ => .error .malformed

mutual

/-- Passes over a value. -/
def skip : Draft → Except Fault Unit
  | .missing => .error .ended
  | .broken fault => .error fault
  | .null => .ok ()
  | .bool _ => .ok ()
  | .number _ skip => skip
  | .text _ skip => skip
  | .array items ending => do
    skipItems items
    ending.check
  | .object members ending => do
    skipMembers members
    ending.check

/-- Passes over items. -/
def skipItems : List Draft → Except Fault Unit
  | [] => .ok ()
  | item :: rest => do
    skip item
    skipItems rest

/-- Passes over members. -/
def skipMembers : List (Draft × Draft) → Except Fault Unit
  | [] => .ok ()
  | (key, value) :: rest => do
    skipName key
    skip value
    skipMembers rest

end

end Draft

end RuleCatalog.Json
