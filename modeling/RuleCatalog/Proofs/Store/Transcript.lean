import RuleCatalog.Store.Request

/-! # Transcripts

What a computation asks of a store and what it is answered, in order. The store is any handler: it
may answer every request as it likes, depending on all that it was asked before.
-/

namespace RuleCatalog.Store

/-- A request with its answer. -/
structure Exchange where
  request : Request
  answer : Except Error request.Answer

namespace Script

variable {σ α β : Type} {h : Handler σ}

/-- What a computation asks and is answered. -/
def transcript (h : Handler σ) : Script α → σ → List Exchange
  | .done _, _ => []
  | .ask r next, s => ⟨r, (h r s).1⟩ :: (next (h r s).1).transcript h (h r s).2

/-- The requests that are recorded are those of the transcript. -/
theorem run_recorded (script : Script α) (s : σ) (asked : List Request) :
    script.run h.recorded (s, asked) =
      ((script.run h s).1, (script.run h s).2,
        asked ++ (script.transcript h s).map Exchange.request) := by
  induction script generalizing s asked with
  | done a => simp [run, transcript]
  | ask r next ih => simp [run, transcript, Handler.recorded, ih]

theorem run_andThen (script : Script α) (f : α → Script β) (s : σ) :
    (script.andThen f).run h s = (f (script.run h s).1).run h (script.run h s).2 := by
  induction script generalizing s with
  | done a => rfl
  | ask r next ih => exact ih _ _

theorem transcript_andThen (script : Script α) (f : α → Script β) (s : σ) :
    (script.andThen f).transcript h s = script.transcript h s ++
      (f (script.run h s).1).transcript h (script.run h s).2 := by
  induction script generalizing s with
  | done a => rfl
  | ask r next ih => exact congrArg (List.cons _) (ih _ _)

end Script

end RuleCatalog.Store
