import RuleCatalog.Proofs.Result
import RuleCatalog.Proofs.Time.Text

/-! # Timestamps that are read

Offsets are made of whole minutes, so a leap second that is read from a text ends its minute. This
is all that is special about the timestamps that texts give: each of them is read from its own text.
-/

namespace RuleCatalog.Timestamp

variable {text rest : List Char} {n : Nat}

/-! ## Fractions -/

theorem digitsValue_lt {ds : List Char} (digits : ∀ c ∈ ds, isDigit c = true) :
    digitsValue ds < 10 ^ ds.length := by
  rw [digitsValue_eq]
  induction ds with
  | nil => simp
  | cons c ds ih =>
    obtain ⟨digit, digits⟩ := List.forall_mem_cons.mp digits
    have later := ih digits
    have here : c.toNat - '0'.toNat ≤ 9 := by
      simp only [isDigit, Bool.and_eq_true, decide_eq_true_eq, Char.le_def,
        UInt32.le_iff_toNat_le] at digit
      have high : c.toNat ≤ 57 := digit.2
      change c.toNat - 48 ≤ 9
      omega
    have most := Nat.mul_le_mul_left (10 ^ ds.length) here
    rw [Nat.ofDigitChars_cons, Nat.ofDigitChars_eq_ofDigitChars_zero, List.length_cons,
      Nat.pow_succ, Nat.mul_zero, Nat.zero_add]
    omega

/-- A number of at most so many digits, which stand at the start of the text. -/
theorem number_some {width : Nat} (read : number (some width) text = .ok (n, rest)) :
    ∃ taken ≤ width, taken ≤ text.length ∧ n < 10 ^ taken ∧ rest = text.drop taken := by
  cases text with
  | nil => cases read
  | cons c cs =>
    simp only [number] at read
    split at read
    · cases read
    split at read <;> cases read
    have digits : ∀ d ∈ ((c :: cs).take width).takeWhile isDigit, isDigit d = true :=
      List.all_eq_true.mp List.all_takeWhile
    have prefixed := (List.takeWhile_prefix isDigit (l := (c :: cs).take width)).length_le
    rw [List.length_take] at prefixed
    exact ⟨_, by omega, by omega, digitsValue_lt digits, rfl⟩

theorem fraction_lt (read : fraction text = .ok (n, rest)) : n < Nat.pow 10 9 := by
  unfold fraction at read
  split at read
  · next digits =>
    obtain ⟨⟨m, after⟩, numbered, result⟩ := bind_eq_ok_iff.mp read
    obtain ⟨taken, most, inside, below, rfl⟩ := number_some numbered
    cases result
    have length : digits.length - (digits.drop taken).length = taken := by
      rw [List.length_drop]
      omega
    calc m * 10 ^ (9 - (digits.length - (digits.drop taken).length))
        = m * 10 ^ (9 - taken) := by rw [length]
      _ < 10 ^ taken * 10 ^ (9 - taken) :=
        Nat.mul_lt_mul_of_pos_right below (Nat.pow_pos (by decide))
      _ = 10 ^ 9 := by rw [← Nat.pow_add, Nat.add_sub_cancel' most]
  · cases read
    decide

/-! ## Offsets -/

theorem offset_minutes {shift : Int} (read : offset text = .ok (shift, rest)) : shift % 60 = 0 := by
  unfold offset at read
  split at read
  · cases read
    rfl
  · split at read
    · cases read
      rfl
    · cases read
      rfl
    · obtain ⟨⟨negative, text⟩, -, read⟩ := bind_eq_ok_iff.mp read
      obtain ⟨⟨hours, text⟩, -, read⟩ := bind_eq_ok_iff.mp read
      obtain ⟨⟨minutes, text⟩, -, read⟩ := bind_eq_ok_iff.mp read
      dsimp only at read
      split at read
      · cases read
      · cases read
        split <;> omega

/-! ## Timestamps -/

theorem make?_eq_some_iff {seconds : Int} {nanos : Nat} {t : Timestamp} :
    make? seconds nanos = some t ↔ t.seconds = seconds ∧ t.nanos = nanos := by
  constructor
  · intro made
    simp only [make?] at made
    split at made
    · split at made <;> cases made
      exact ⟨rfl, rfl⟩
    · cases made
  · rintro ⟨rfl, rfl⟩
    exact t.make?_self

/-- The text of a timestamp that was read tells the same timestamp. -/
theorem told_of_parse {s : String} {t : Timestamp} (read : parse s = .ok t) : t.told = t := by
  obtain ⟨⟨y, text⟩, -, read⟩ := bind_eq_ok_iff.mp read
  obtain ⟨text, -, read⟩ := bind_eq_ok_iff.mp read
  obtain ⟨⟨month, text⟩, -, read⟩ := bind_eq_ok_iff.mp read
  obtain ⟨text, -, read⟩ := bind_eq_ok_iff.mp read
  obtain ⟨⟨day, text⟩, -, read⟩ := bind_eq_ok_iff.mp read
  obtain ⟨text, -, read⟩ := bind_eq_ok_iff.mp read
  obtain ⟨⟨hour, text⟩, -, read⟩ := bind_eq_ok_iff.mp read
  obtain ⟨text, -, read⟩ := bind_eq_ok_iff.mp read
  obtain ⟨⟨minute, text⟩, -, read⟩ := bind_eq_ok_iff.mp read
  obtain ⟨text, -, read⟩ := bind_eq_ok_iff.mp read
  obtain ⟨⟨second, text⟩, -, read⟩ := bind_eq_ok_iff.mp read
  obtain ⟨⟨nanos, text⟩, fractionRead, read⟩ := bind_eq_ok_iff.mp read
  obtain ⟨⟨shift, text⟩, offsetRead, read⟩ := bind_eq_ok_iff.mp read
  have wholeMinutes := offset_minutes offsetRead
  have below := fraction_lt fractionRead
  dsimp only at read
  split at read
  · cases read
  split at read
  · cases read
  split at read
  · cases read
  split at read
  · next made =>
    cases read
    obtain ⟨seconds, written⟩ := make?_eq_some_iff.mp made
    rw [told_eq_self_iff, seconds, written]
    split
    · next last =>
      subst last
      omega
    · exact .inl below
  · cases read

/-- The timestamps that texts give are those that do not change when they are written and read. -/
theorem told_eq_self_iff_parse {t : Timestamp} : t.told = t ↔ ∃ s, parse s = .ok t :=
  ⟨fun same => ⟨t.text, t.parse_text.trans (congrArg _ same)⟩, fun ⟨_, read⟩ => told_of_parse read⟩

end RuleCatalog.Timestamp
