/-! # Reports

What a caller is told about a failure: a message, and the messages of the failures behind it, the
nearest first. A failure that was caused by another one ends its message with the message of its
cause, so what stands in front can be relied on.
-/

namespace RuleCatalog

/-- A failure in words. -/
structure Report where
  message : String
  causes : List String
  deriving DecidableEq, Repr

namespace Report

/-- A failure without a cause. -/
def plain (message : String) : Report := ⟨message, []⟩

/-- A failure with a cause, which its message repeats. -/
def under (heading : String) (cause : Report) : Report :=
  ⟨heading ++ ": " ++ cause.message, cause.message :: cause.causes⟩

/-- What was being done when a failure occurred. -/
def during (activity : String) (cause : Report) : Report :=
  ⟨activity, cause.message :: cause.causes⟩

end Report

end RuleCatalog
