import Mathlib.Tactic.SplitIfs
import RuleCatalog.Number.Shortest

/-! # Shortest decimal forms

The shortest decimal form of a number that is not zero has digits other than zeros, so its digits do
not begin with a zero.
-/

namespace RuleCatalog

/-- A decimal that is not written as a row of zeros. -/
def Decimal.Proper (d : Decimal) : Prop := 0 < d.digits ∨ d.exponent = 0

namespace Binary64

variable {tie : Tie} {x : Binary64} {k : Int} {d : Decimal}

theorem readsBack_zero (pattern : Nat) (k : Int) : readsBack pattern 0 k = (0 == pattern) := by
  simp [readsBack, nearestPattern]

/-- What reads back as a number that is not zero is not zero. -/
theorem onGrid?_positive (nonzero : x.isZero = false) (hit : onGrid? tie x k = some d) :
    0 < d.digits := by
  have positive : ∀ n, readsBack x.pattern n k = true → 0 < n := by
    intro n back
    apply Nat.pos_of_ne_zero
    rintro rfl
    rw [readsBack_zero] at back
    exact Bool.eq_false_iff.mp nonzero (beq_iff_eq.mpr (beq_iff_eq.mp back).symm)
  simp only [onGrid?] at hit
  split_ifs at hit <;> cases hit
  all_goals first | exact Nat.succ_pos _ | exact positive _ ‹_›

theorem firstHit_positive (nonzero : x.isZero = false) (grids : Nat) (k : Int) :
    0 < (firstHit tie x grids k).digits := by
  induction grids generalizing k with
  | zero => exact Nat.one_pos
  | succ grids ih =>
    rw [firstHit]
    split
    · next hit => exact onGrid?_positive nonzero hit
    · exact ih _

theorem stripZeros_positive (fuel : Nat) (positive : 0 < d.digits) :
    0 < (stripZeros fuel d).digits := by
  induction fuel generalizing d with
  | zero => exact positive
  | succ fuel ih =>
    rw [stripZeros]
    split
    · apply ih
      dsimp only
      omega
    · exact positive

theorem shortest_proper (tie : Tie) (x : Binary64) : (x.shortest tie).Proper := by
  unfold shortest
  split
  · exact .inr rfl
  · next nonzero =>
    exact .inl (stripZeros_positive _ (firstHit_positive (Bool.eq_false_iff.mpr nonzero) ..))

end Binary64

end RuleCatalog
