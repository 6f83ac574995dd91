import RuleCatalog.Proofs.Json.Layout

/-! # Reading what was written

A written value is read as one: its text is used up to its last character, and its draft has no
fault. Whatever the layout is, the reader has steps enough for the text.
-/

namespace RuleCatalog.Json

open Text (Glyph)

variable {l : Layout} {level fuel : Nat} {rest : List Glyph}

/-! ## Between tokens -/

theorem skipSpace_blanks {cs : List Char} (blanks : Blanks cs) :
    skipSpace (shown cs ++ rest) = skipSpace rest := by
  induction cs with
  | nil => rfl
  | cons c cs ih =>
    obtain ⟨here, later⟩ := List.forall_mem_cons.mp blanks
    simpa [skipSpace, here] using ih later

theorem skipSpace_token {c : Char} (token : isSpace (some c) = false) :
    skipSpace (some c :: rest) = some c :: rest := by
  simp [skipSpace, token]

/-- Blanks end a numeral. -/
theorem EndsNumeral.blanks {cs : List Char} (blanks : Blanks cs) (ends : EndsNumeral rest) :
    EndsNumeral (shown cs ++ rest) := by
  cases cs with
  | nil => exact ends
  | cons c cs =>
    rintro g ⟨⟩
    have space := blanks c (List.mem_cons_self ..)
    have cases : ((c = ' ' ∨ c = '\n') ∨ c = '\t') ∨ c = '\r' := by
      simpa [isSpace] using space
    rcases cases with ((rfl | rfl) | rfl) | rfl <;> simp [digitOf?]

theorem endsNumeral_comma : EndsNumeral (some ',' :: rest) := by
  rintro g ⟨⟩
  simp [digitOf?]

theorem endsNumeral_bracket : EndsNumeral (some ']' :: rest) := by
  rintro g ⟨⟩
  simp [digitOf?]

theorem endsNumeral_brace : EndsNumeral (some '\x7d' :: rest) := by
  rintro g ⟨⟩
  simp [digitOf?]

theorem endsNumeral_items (items : List Value) :
    EndsNumeral (shown (l.writeItems level items) ++ rest) := by
  cases items with
  | nil =>
    rw [Layout.writeItems, shown, List.map_append, List.append_assoc]
    exact .blanks (l.outer_blanks level) endsNumeral_bracket
  | cons item items => exact endsNumeral_comma

theorem endsNumeral_members (members : List (String × Value)) :
    EndsNumeral (shown (l.writeMembers level members) ++ rest) := by
  cases members with
  | nil =>
    rw [Layout.writeMembers, shown, List.map_append, List.append_assoc]
    exact .blanks (l.outer_blanks level) endsNumeral_brace
  | cons member members => exact endsNumeral_comma

/-! ## Drafts -/

mutual

/-- The draft of a written value. -/
def draftOf : Value → Draft
  | .null => .null
  | .bool b => .bool b
  | .number n => .number n.reread (.ok ())
  | .string s => .text (.ok s) (.ok ())
  | .array items => .array (draftsOf items) .closed
  | .object members => .object (memberDraftsOf members) .closed

def draftsOf : List Value → List Draft
  | [] => []
  | item :: rest => draftOf item :: draftsOf rest

def memberDraftsOf : List (String × Value) → List (Draft × Draft)
  | [] => []
  | (name, value) :: rest => (.text (.ok name) (.ok ()), draftOf value) :: memberDraftsOf rest

end

/-! ## Scalars -/

theorem readScalar_number {n : Number} (finite : n.isFinite = true) {c : Char} {cs : List Char}
    (written : writeNumber n = c :: cs) (starts : StartsNumeral c) (ends : EndsNumeral rest) :
    readScalar (some c) (shown cs ++ rest) = (draftOf (.number n), some rest) := by
  have numeral := readNumeral_written finite ends
  rw [written] at numeral
  have named : c ≠ 'n' ∧ c ≠ 't' ∧ c ≠ 'f' ∧ c ≠ '"' := by
    refine ⟨?_, ?_, ?_, ?_⟩ <;> rintro rfl <;> rcases starts with minus | digit <;> contradiction
  have begins : some c = some '-' ∨ (digitOf? (some c)).isSome = true := by
    rcases starts with rfl | digit
    · exact .inl rfl
    · exact .inr (digitOf?_of_isDigit digit ▸ rfl)
  simp only [shown, List.map_cons, List.cons_append] at numeral
  obtain ⟨noNull, noTrue, noFalse, noString⟩ := named
  simp only [readScalar]
  split
  · next same => exact (noNull (Option.some.inj same)).elim
  · next same => exact (noTrue (Option.some.inj same)).elim
  · next same => exact (noFalse (Option.some.inj same)).elim
  · next same => exact (noString (Option.some.inj same)).elim
  · rw [if_pos begins, numeral]
    rfl

theorem readScalar_string (s : String) :
    readScalar (some '"') (shown (s.toList.flatMap escapeChar ++ ['"']) ++ rest) =
      (draftOf (.string s), some rest) := by
  simp only [readScalar, readString_written]
  rfl

/-! ## Values -/

/-- A token that a value may begin with: neither a blank nor a closing mark. -/
def StartsValue (c : Char) : Prop := isSpace (some c) = false ∧ c ≠ ']' ∧ c ≠ '\x7d'

theorem StartsNumeral.startsValue {c : Char} (starts : StartsNumeral c) : StartsValue c := by
  have apart : ∀ other, ¬StartsNumeral other → c ≠ other := fun other no same => no (same ▸ starts)
  refine ⟨?_, apart _ (by simp [StartsNumeral]), apart _ (by simp [StartsNumeral])⟩
  have noSpace := apart ' ' (by simp [StartsNumeral])
  have noLine := apart '\n' (by simp [StartsNumeral])
  have noTab := apart '\t' (by simp [StartsNumeral])
  have noReturn := apart '\r' (by simp [StartsNumeral])
  simp [isSpace, noSpace, noLine, noTab, noReturn]

theorem write_cons (level : Nat) {v : Value} (finite : v.Finite) :
    ∃ c cs, l.write level v = c :: cs ∧ StartsValue c := by
  match v, finite with
  | .null, _ | .bool true, _ | .bool false, _ | .string _, _ | .array [], _ | .object [], _ =>
    exact ⟨_, _, rfl, by decide, by decide, by decide⟩
  | .array (_ :: _), _ | .object ((_, _) :: _), _ =>
    exact ⟨_, _, rfl, by decide, by decide, by decide⟩
  | .number n, finite =>
    obtain ⟨m, numeral⟩ := exists_numeral finite
    obtain ⟨c, cs, written, starts⟩ := numeral.starts
    exact ⟨c, cs, written, starts.startsValue⟩

/-! ## Steps of the reader -/

/-- Blanks before a value do not matter. -/
theorem readValue_blanks {cs : List Char} (blanks : Blanks cs) (text : List Glyph) :
    readValue fuel (shown cs ++ text) = readValue fuel text := by
  cases fuel with
  | zero => rfl
  | succ fuel => simp only [readValue, skipSpace_blanks blanks]

/-- Blanks before a member do not matter. -/
theorem readMembers_blanks {cs : List Char} (blanks : Blanks cs) (text : List Glyph) :
    readMembers fuel (shown cs ++ text) = readMembers fuel text := by
  have member : ∀ fuel, readMember fuel (shown cs ++ text) = readMember fuel text := by
    intro fuel
    cases fuel with
    | zero => rfl
    | succ fuel => simp only [readMember, readValue_blanks blanks]
  cases fuel with
  | zero => rfl
  | succ fuel => simp only [readMembers, member]

section Steps

variable {text after next left : List Glyph} {c : Char} {item : Draft} {items : List Draft}
  {member : Draft × Draft} {members : List (Draft × Draft)}

theorem readValue_scalar (token : isSpace (some c) = false) (noArray : c ≠ '[')
    (noObject : c ≠ '\x7b') : readValue (fuel + 1) (some c :: rest) = readScalar (some c) rest := by
  simp [readValue, skipSpace_token token, noArray, noObject]

theorem readValue_array {blanks : List Char} (blank : Blanks blanks) (starts : StartsValue c)
    (read : readItems fuel (some c :: text) = ((items, .closed), some after)) :
    readValue (fuel + 1) (some '[' :: (shown blanks ++ some c :: text)) =
      (.array items .closed, some after) := by
  have inner : skipSpace (shown blanks ++ some c :: text) = some c :: text :=
    (skipSpace_blanks blank).trans (skipSpace_token starts.1)
  have opens : skipSpace (some '[' :: (shown blanks ++ some c :: text)) = _ :=
    skipSpace_token (by decide)
  have noEnd := starts.2.1
  simp [readValue, opens, inner, read, noEnd]

theorem readValue_object {blanks : List Char} (blank : Blanks blanks) (starts : StartsValue c)
    (read : readMembers fuel (some c :: text) = ((members, .closed), some after)) :
    readValue (fuel + 1) (some '\x7b' :: (shown blanks ++ some c :: text)) =
      (.object members .closed, some after) := by
  have inner : skipSpace (shown blanks ++ some c :: text) = some c :: text :=
    (skipSpace_blanks blank).trans (skipSpace_token starts.1)
  have opens : skipSpace (some '\x7b' :: (shown blanks ++ some c :: text)) = _ :=
    skipSpace_token (by decide)
  have noEnd := starts.2.2
  simp [readValue, opens, inner, read, noEnd]

theorem readItems_last (read : readValue fuel text = (item, some rest))
    (ends : skipSpace rest = some ']' :: after) :
    readItems (fuel + 1) text = (([item], .closed), some after) := by
  simp only [readItems, read, ends]

theorem readItems_more (read : readValue fuel text = (item, some rest))
    (comma : skipSpace rest = some ',' :: after) (token : skipSpace after = some c :: next)
    (noEnd : c ≠ ']') (more : readItems fuel (some c :: next) = ((items, .closed), some left)) :
    readItems (fuel + 1) text = ((item :: items, .closed), some left) := by
  simp [readItems, read, comma, token, more, noEnd]

theorem readMembers_last (read : readMember fuel text = (member, some rest))
    (ends : skipSpace rest = some '\x7d' :: after) :
    readMembers (fuel + 1) text = (([member], .closed), some after) := by
  simp only [readMembers, read, ends]

theorem readMembers_more (read : readMember fuel text = (member, some rest))
    (comma : skipSpace rest = some ',' :: after)
    (more : readMembers fuel after = ((members, .closed), some left)) :
    readMembers (fuel + 1) text = ((member :: members, .closed), some left) := by
  simp only [readMembers, read, comma, more]

theorem readMember_colon {key value : Draft} (read : readValue fuel text = (key, some rest))
    (colon : skipSpace rest = some ':' :: after)
    (readAlso : readValue fuel after = (value, some left)) :
    readMember (fuel + 1) text = ((key, value), some left) := by
  simp only [readMember, read, colon, readAlso]

end Steps

/-! ## Whole values -/

variable (l)

/-- The text of items without the brackets around them. -/
def itemsText (level : Nat) : List Value → List Char
  | [] => []
  | item :: items => l.write (level + 1) item ++ l.writeItems level items

/-- The text of members without the braces around them. -/
def membersText (level : Nat) : List (String × Value) → List Char
  | [] => []
  | (name, value) :: members => writeString name ++ ':' :: (l.gap ++
      (l.write (level + 1) value ++ l.writeMembers level members))

variable {l}

theorem itemsText_cons (level : Nat) {item : Value} (finite : item.Finite) (items : List Value) :
    ∃ c cs, itemsText l level (item :: items) = c :: cs ∧ StartsValue c := by
  obtain ⟨c, cs, written, starts⟩ := write_cons (l := l) (level + 1) finite
  exact ⟨c, cs ++ l.writeItems level items, by rw [itemsText, written, List.cons_append], starts⟩

theorem skipSpace_writeItems_nil :
    skipSpace (shown (l.writeItems level []) ++ rest) = some ']' :: rest := by
  rw [Layout.writeItems, shown, List.map_append, List.append_assoc,
    skipSpace_blanks (l.outer_blanks level)]
  exact skipSpace_token (by decide)

theorem skipSpace_writeMembers_nil :
    skipSpace (shown (l.writeMembers level []) ++ rest) = some '\x7d' :: rest := by
  rw [Layout.writeMembers, shown, List.map_append, List.append_assoc,
    skipSpace_blanks (l.outer_blanks level)]
  exact skipSpace_token (by decide)

theorem itemsText_length (level : Nat) {items : List Value} (nonempty : items ≠ []) :
    (itemsText l level items).length < (l.writeItems level items).length := by
  obtain ⟨item, items, rfl⟩ := List.exists_cons_of_ne_nil nonempty
  simp only [itemsText, Layout.writeItems, List.length_cons, List.length_append]
  omega

theorem membersText_length (level : Nat) {members : List (String × Value)}
    (nonempty : members ≠ []) :
    (membersText l level members).length < (l.writeMembers level members).length := by
  obtain ⟨⟨name, value⟩, members, rfl⟩ := List.exists_cons_of_ne_nil nonempty
  simp only [membersText, Layout.writeMembers, List.length_cons, List.length_append]
  omega

theorem readValue_number {n : Number} (finite : n.isFinite = true) (ends : EndsNumeral rest) :
    readValue (fuel + 1) (shown (writeNumber n) ++ rest) = (draftOf (.number n), some rest) := by
  obtain ⟨m, numeral⟩ := exists_numeral finite
  obtain ⟨c, cs, written, starts⟩ := numeral.starts
  have noArray : c ≠ '[' := by
    rintro rfl
    rcases starts with minus | digit <;> contradiction
  have noObject : c ≠ '\x7b' := by
    rintro rfl
    rcases starts with minus | digit <;> contradiction
  rw [written]
  exact (readValue_scalar starts.startsValue.1 noArray noObject).trans
    (readScalar_number finite written starts ends)

/-- The first item is read, and then the others. -/
theorem readItems_step {item : Value} {items : List Value}
    (finite : Value.EveryItem (·.isFinite = true) (fun _ => True) items)
    (first : readValue fuel (shown (l.write (level + 1) item) ++
      (shown (l.writeItems level items) ++ rest)) =
        (draftOf item, some (shown (l.writeItems level items) ++ rest)))
    (more : items ≠ [] → readItems fuel (shown (itemsText l level items) ++ rest) =
      ((draftsOf items, .closed), some rest)) :
    readItems (fuel + 1) (shown (itemsText l level (item :: items)) ++ rest) =
      ((draftsOf (item :: items), .closed), some rest) := by
  have text : shown (itemsText l level (item :: items)) ++ rest =
      shown (l.write (level + 1) item) ++ (shown (l.writeItems level items) ++ rest) := by
    simp [itemsText]
  rw [text]
  cases items with
  | nil => exact readItems_last first skipSpace_writeItems_nil
  | cons next items =>
    obtain ⟨c, cs, begins, starts⟩ := itemsText_cons (l := l) level finite.1 items
    have more := more (by simp)
    rw [begins] at more
    have token : skipSpace (shown (l.inner level) ++ (some c :: (shown cs ++ rest))) =
        some c :: (shown cs ++ rest) :=
      (skipSpace_blanks (l.inner_blanks level)).trans (skipSpace_token starts.1)
    have comma : skipSpace (shown (l.writeItems level (next :: items)) ++ rest) =
        some ',' :: (shown (l.inner level) ++ (some c :: (shown cs ++ rest))) := by
      have written : l.writeItems level (next :: items) =
          ',' :: (l.inner level ++ itemsText l level (next :: items)) := rfl
      rw [written, begins]
      simp [skipSpace, isSpace]
    exact readItems_more first comma token starts.2.1 more

/-- A member is read: its name, the colon and its value. -/
theorem readMember_write (name : String) {value : Value} (steps : 1 ≤ fuel)
    (read : readValue fuel (shown (l.write (level + 1) value) ++ rest) =
      (draftOf value, some rest)) :
    readMember (fuel + 1) (shown (writeString name) ++ some ':' :: (shown l.gap ++
      (shown (l.write (level + 1) value) ++ rest))) =
      ((draftOf (.string name), draftOf value), some rest) := by
  obtain ⟨fuel, rfl⟩ := Nat.exists_eq_add_of_le' steps
  have key : readValue (fuel + 1) (shown (writeString name) ++ some ':' :: (shown l.gap ++
      (shown (l.write (level + 1) value) ++ rest))) = (draftOf (.string name), some (some ':' ::
        (shown l.gap ++ (shown (l.write (level + 1) value) ++ rest)))) :=
    (readValue_scalar (by decide) (by decide) (by decide)).trans (readScalar_string name)
  apply readMember_colon key (skipSpace_token (by decide))
  rw [readValue_blanks l.gap_blanks]
  exact read

/-- The first member is read, and then the others. -/
theorem readMembers_step {name : String} {value : Value} {members : List (String × Value)}
    (steps : 1 ≤ fuel)
    (first : readValue fuel (shown (l.write (level + 1) value) ++
      (shown (l.writeMembers level members) ++ rest)) =
        (draftOf value, some (shown (l.writeMembers level members) ++ rest)))
    (more : members ≠ [] → readMembers (fuel + 1) (shown (membersText l level members) ++ rest) =
      ((memberDraftsOf members, .closed), some rest)) :
    readMembers (fuel + 2) (shown (membersText l level ((name, value) :: members)) ++ rest) =
      ((memberDraftsOf ((name, value) :: members), .closed), some rest) := by
  have text : shown (membersText l level ((name, value) :: members)) ++ rest =
      shown (writeString name) ++ some ':' :: (shown l.gap ++
        (shown (l.write (level + 1) value) ++ (shown (l.writeMembers level members) ++ rest))) := by
    simp [membersText]
  have member := readMember_write name steps first
  rw [text]
  cases members with
  | nil => exact readMembers_last member skipSpace_writeMembers_nil
  | cons next members =>
    have more := more (by simp)
    have comma : skipSpace (shown (l.writeMembers level (next :: members)) ++ rest) =
        some ',' :: (shown (l.inner level) ++
          (shown (membersText l level (next :: members)) ++ rest)) := by
      have written : l.writeMembers level (next :: members) =
          ',' :: (l.inner level ++ membersText l level (next :: members)) := rfl
      rw [written]
      simp [skipSpace, isSpace]
    rw [← readMembers_blanks (l.inner_blanks level)] at more
    exact readMembers_more member comma more

mutual

/-- A written value is read as its draft. -/
theorem readValue_write (l : Layout) : ∀ (v : Value) (level fuel : Nat) (rest : List Glyph),
    v.Finite → 3 * (l.write level v).length + 1 ≤ fuel → EndsNumeral rest →
    readValue fuel (shown (l.write level v) ++ rest) = (draftOf v, some rest)
  | v, level, 0, rest, _, enough, _ => by omega
  | .null, level, fuel + 1, rest, _, _, _ => rfl
  | .bool true, level, fuel + 1, rest, _, _, _ => rfl
  | .bool false, level, fuel + 1, rest, _, _, _ => rfl
  | .number n, level, fuel + 1, rest, finite, _, ends => readValue_number finite ends
  | .string s, level, fuel + 1, rest, _, _, _ =>
    (readValue_scalar (by decide) (by decide) (by decide)).trans (readScalar_string s)
  | .array [], level, fuel + 1, rest, _, _, _ => rfl
  | .array (item :: items), level, fuel + 1, rest, finite, enough, _ => by
    have read := readItems_write l (item :: items) level fuel rest finite (by simp) (by
      simp only [Layout.write, List.length_cons, List.length_append, itemsText] at enough ⊢
      omega)
    obtain ⟨c, cs, begins, starts⟩ := itemsText_cons (l := l) level finite.1 items
    have written : l.write level (.array (item :: items)) =
        '[' :: (l.inner level ++ itemsText l level (item :: items)) := rfl
    have text : shown (l.write level (.array (item :: items))) ++ rest =
        some '[' :: (shown (l.inner level) ++ some c :: (shown cs ++ rest)) := by
      rw [written, begins]
      simp
    rw [begins] at read
    exact text ▸ readValue_array (l.inner_blanks level) starts read
  | .object [], level, fuel + 1, rest, _, _, _ => rfl
  | .object ((name, value) :: members), level, fuel + 1, rest, finite, enough, _ => by
    have read := readMembers_write l ((name, value) :: members) level fuel rest finite.2 (by simp)
      (by
        simp only [Layout.write, List.length_cons, List.length_append, membersText] at enough ⊢
        omega)
    have written : l.write level (.object ((name, value) :: members)) =
        '\x7b' :: (l.inner level ++ membersText l level ((name, value) :: members)) := rfl
    have text : shown (l.write level (.object ((name, value) :: members))) ++ rest =
        some '\x7b' :: (shown (l.inner level) ++
          (shown (membersText l level ((name, value) :: members)) ++ rest)) := by
      rw [written]
      simp
    exact text ▸ readValue_object (c := '"') (l.inner_blanks level)
      ⟨by decide, by decide, by decide⟩ read

/-- Written items are read as their drafts. -/
theorem readItems_write (l : Layout) : ∀ (items : List Value) (level fuel : Nat)
    (rest : List Glyph), Value.EveryItem (·.isFinite = true) (fun _ => True) items → items ≠ [] →
    3 * (itemsText l level items).length + 2 ≤ fuel →
    readItems fuel (shown (itemsText l level items) ++ rest) =
      ((draftsOf items, .closed), some rest)
  | [], _, _, _, _, nonempty, _ => (nonempty rfl).elim
  | _, _, 0, _, _, _, enough => by omega
  | item :: items, level, fuel + 1, rest, finite, _, enough => by
    simp only [itemsText, List.length_append] at enough
    have first := readValue_write l item (level + 1) fuel (shown (l.writeItems level items) ++ rest)
      finite.1 (by omega) (endsNumeral_items items)
    apply readItems_step finite.2 first
    intro nonempty
    apply readItems_write l items level fuel rest finite.2 nonempty
    have shorter := itemsText_length (l := l) level nonempty
    omega

/-- Written members are read as their drafts. -/
theorem readMembers_write (l : Layout) : ∀ (members : List (String × Value)) (level fuel : Nat)
    (rest : List Glyph), Value.EveryMember (·.isFinite = true) (fun _ => True) members →
    members ≠ [] → 3 * (membersText l level members).length + 3 ≤ fuel →
    readMembers fuel (shown (membersText l level members) ++ rest) =
      ((memberDraftsOf members, .closed), some rest)
  | [], _, _, _, _, nonempty, _ => (nonempty rfl).elim
  | _, _, 0, _, _, _, enough => by omega
  | _, _, 1, _, _, _, enough => by omega
  | (name, value) :: members, level, fuel + 2, rest, finite, _, enough => by
    simp only [membersText, List.length_append, List.length_cons] at enough
    have first := readValue_write l value (level + 1) fuel
      (shown (l.writeMembers level members) ++ rest) finite.1 (by omega)
      (endsNumeral_members members)
    apply readMembers_step (by omega) first
    intro nonempty
    apply readMembers_write l members level (fuel + 1) rest finite.2 nonempty
    have shorter := membersText_length (l := l) level nonempty
    omega

end

/-! ## Documents -/

theorem ofGlyphs_write (l : Layout) {v : Value} (finite : v.Finite) :
    Document.ofGlyphs (shown (l.write 0 v)) = ⟨draftOf v, true⟩ := by
  have read := readValue_write l v 0 (3 * (shown (l.write 0 v)).length + 1) [] finite
    (by simp) fun _ none => nomatch none
  rw [List.append_nil] at read
  simp only [Document.ofGlyphs, read]
  rfl

/-- A value is read from its text without blanks. -/
theorem ofString_compact {v : Value} (finite : v.Finite) :
    Document.ofString v.compact = ⟨draftOf v, true⟩ := by
  have glyphs : Text.glyphsOf v.compact = shown (writeCompact v) := by
    rw [Text.glyphsOf, Value.compact, String.toList_ofList]
  rw [Document.ofString, glyphs, ← Layout.write_compact 0 v]
  exact ofGlyphs_write .compact finite

/-- A value is read from its text with one item a line. -/
theorem ofString_pretty {v : Value} (finite : v.Finite) :
    Document.ofString v.pretty = ⟨draftOf v, true⟩ := by
  have glyphs : Text.glyphsOf v.pretty = shown (writePretty 0 v) := by
    rw [Text.glyphsOf, Value.pretty, String.toList_ofList]
  rw [Document.ofString, glyphs, ← Layout.write_pretty 0 v]
  exact ofGlyphs_write .pretty finite

end RuleCatalog.Json
