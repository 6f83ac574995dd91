/-! # Results

What is known of a computation that may fail once it has succeeded or failed.
-/

namespace RuleCatalog

variable {α β ε ε' : Type}

theorem eq_ok_of_toOption {x : Except ε α} {a : α} (result : x.toOption = some a) :
    x = .ok a := by
  cases x with
  | error e => simp [Except.toOption] at result
  | ok b => exact congrArg Except.ok (Option.some.inj result)

theorem eq_ok_of_mapError {f : ε → ε'} {outcome : Except ε α} {a : α}
    (ok : outcome.mapError f = .ok a) : outcome = .ok a := by
  cases outcome with
  | error e => cases ok
  | ok b => exact congrArg _ (Except.ok.inj ok)

theorem bind_eq_ok_iff {x : Except ε α} {next : α → Except ε β} {b : β} :
    (x >>= next) = .ok b ↔ ∃ a, x = .ok a ∧ next a = .ok b := by
  cases x <;> simp [bind, Except.bind]

theorem map_eq_ok_iff {x : Except ε α} {f : α → β} {b : β} :
    x.map f = .ok b ↔ ∃ a, x = .ok a ∧ f a = b := by
  cases x <;> simp [Except.map]

theorem map_eq_error_iff {x : Except ε α} {f : α → β} {e : ε} :
    x.map f = .error e ↔ x = .error e := by
  cases x <;> simp [Except.map]

theorem mapM_ok {f : α → Except ε β} {g : α → β} {l : List α} (each : ∀ a ∈ l, f a = .ok (g a)) :
    l.mapM f = .ok (l.map g) := by
  induction l with
  | nil => rfl
  | cons a l ih =>
    obtain ⟨here, later⟩ := List.forall_mem_cons.mp each
    simp only [List.mapM_cons, here, ih later]
    rfl

/-! ## Several checks -/

variable {check : α → Except ε Unit} {items : List α} {e : ε}

theorem forM_eq_ok_iff : items.forM check = .ok () ↔ ∀ item ∈ items, check item = .ok () := by
  induction items with
  | nil => simp [pure, Except.pure]
  | cons item items ih =>
    have step : (item :: items).forM check = (check item >>= fun _ => items.forM check) := rfl
    rw [step, List.forall_mem_cons, ← ih]
    cases check item <;> simp [bind, Except.bind]

/-- The failure of the first item that fails is the failure of all. -/
theorem forM_eq_error_iff : items.forM check = .error e ↔
    ∃ before item after, items = before ++ item :: after ∧
      (∀ passed ∈ before, check passed = .ok ()) ∧ check item = .error e := by
  induction items with
  | nil =>
    refine iff_of_false nofun ?_
    rintro ⟨before, item, after, split, -⟩
    cases before <;> cases split
  | cons first items ih =>
    have step : (first :: items).forM check = (check first >>= fun _ => items.forM check) := rfl
    rw [step]
    cases here : check first with
    | error e' =>
      constructor
      · rintro ⟨⟩
        exact ⟨[], first, items, rfl, nofun, here⟩
      · rintro ⟨before, item, after, split, passed, failed⟩
        cases before with
        | nil =>
          cases split
          exact here.symm.trans failed
        | cons other before =>
          cases split
          exact nomatch here.symm.trans (passed first List.mem_cons_self)
    | ok =>
      refine Iff.trans ih ?_
      constructor
      · rintro ⟨before, item, after, rfl, passed, failed⟩
        exact ⟨first :: before, item, after, rfl, List.forall_mem_cons.mpr ⟨here, passed⟩, failed⟩
      · rintro ⟨before, item, after, split, passed, failed⟩
        cases before with
        | nil =>
          cases split
          exact nomatch here.symm.trans failed
        | cons other before =>
          cases split
          exact ⟨before, item, after, rfl, (List.forall_mem_cons.mp passed).2, failed⟩

end RuleCatalog
