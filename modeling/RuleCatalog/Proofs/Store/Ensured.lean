import RuleCatalog.Proofs.Store.Views

/-! # What computations ensure

A computation asks through one handle, which answers from the tables that it sees. What such a
computation ensures is said about those tables: `Ensures` goes through its requests and takes every
answer that the tables allow. What is shown in this way holds of every run.
-/

namespace RuleCatalog.Store.Memory

variable {α β : Type} {m : Memory} {h : Handle} {rows : Rows} {script : Script α}
  {Q Q' : α → Rows → Prop} {R : β → Rows → Prop}

/-- Started when its handle sees given tables, a computation ends with a result and with tables that
are as demanded. -/
def Ensures (Q : α → Rows → Prop) : Script α → Rows → Prop
  | .done a, rows => Q a rows
  | .ask r next, rows => ∀ answer rows', Answered r rows answer rows' → rows'.Intact →
      Ensures Q (next answer) rows'

namespace Ensures

theorem imp (ensured : Ensures Q script rows) (intact : rows.Intact)
    (weaker : ∀ a rows', rows.Keeps rows' → rows'.Intact → Q a rows' → Q' a rows') :
    Ensures Q' script rows := by
  induction script generalizing rows with
  | done a => exact weaker a rows (.refl rows) intact ensured
  | ask r next ih =>
    intro answer rows' answered intact'
    refine ih answer (ensured answer rows' answered intact') intact' ?_
    exact fun a rows'' more => weaker a rows'' (answered.effect.keeps.trans more)

theorem andThen {f : α → Script β} (ensured : Ensures Q script rows) (intact : rows.Intact)
    (rest : ∀ a rows', rows.Keeps rows' → rows'.Intact → Q a rows' → Ensures R (f a) rows') :
    Ensures R (script.andThen f) rows := by
  induction script generalizing rows with
  | done a => exact rest a rows (.refl rows) intact ensured
  | ask r next ih =>
    intro answer rows' answered intact'
    refine ih answer (ensured answer rows' answered intact') intact' ?_
    exact fun a rows'' more => rest a rows'' (answered.effect.keeps.trans more)

/-- What is ensured holds after every run. -/
theorem run (ensured : Ensures Q script rows) (sound : m.Sound) (view : m.view? h = some rows) :
    ∃ rows', (script.run (answer h) m).2.view? h = some rows' ∧
      (script.run (answer h) m).2.Sound ∧ Q (script.run (answer h) m).1 rows' := by
  induction script generalizing m rows with
  | done a => exact ⟨rows, view, sound, ensured⟩
  | ask r next ih =>
    obtain ⟨rows', view', answered⟩ := answer_answered view r
    have sound' : (answer h r m).2.Sound := sound.act (.ask h r)
    exact ih _ (ensured _ rows' answered (sound'.view_intact view')) sound' view'

end Ensures

end RuleCatalog.Store.Memory
