import MarketSnapshot.Proofs.JsonText

namespace MarketSnapshot.Json

inductive Side where
  | outside
  | inside
  | escaped

/-- The characters of a text that stand outside its strings, and the marks of the strings. -/
def outer : Side → List Char → List Char
  | _, [] => []
  | .outside, c :: rest => c :: outer (if c = '"' then .inside else .outside) rest
  | .inside, c :: rest =>
    if c = '"' then c :: outer .outside rest
    else outer (if c = '\\' then .escaped else .inside) rest
  | .escaped, _ :: rest => outer .inside rest

def Visible (c : Char) : Prop := 32 < c.toNat ∧ c.toNat < 127

instance (c : Char) : Decidable (Visible c) :=
  inferInstanceAs (Decidable (32 < c.toNat ∧ c.toNat < 127))

def Tidy (cs : List Char) : Prop :=
  ∃ marks, (∀ c ∈ marks, Visible c) ∧
    ∀ rest, outer .outside (cs ++ rest) = marks ++ outer .outside rest

theorem Tidy.outer {cs : List Char} (tidy : Tidy cs) : ∀ c ∈ outer .outside cs, Visible c := by
  obtain ⟨marks, visible, split⟩ := tidy
  have whole := split []
  rw [List.append_nil] at whole
  intro c member
  rw [whole] at member
  exact visible c (by simpa [Json.outer] using member)

theorem tidy_nil : Tidy [] := ⟨[], by simp, fun _ => rfl⟩

theorem Tidy.append {left right : List Char} (hl : Tidy left) (hr : Tidy right) :
    Tidy (left ++ right) := by
  obtain ⟨first, first_visible, first_split⟩ := hl
  obtain ⟨second, second_visible, second_split⟩ := hr
  refine ⟨first ++ second, ?_, fun rest => ?_⟩
  · intro c member
    rcases List.mem_append.mp member with member | member
    · exact first_visible c member
    · exact second_visible c member
  · rw [List.append_assoc, first_split, second_split, List.append_assoc]

theorem tidy_singleton {c : Char} (visible : Visible c) (plain : c ≠ '"') : Tidy [c] := by
  refine ⟨[c], by simpa using visible, fun rest => ?_⟩
  simp [Json.outer, plain]

theorem Tidy.cons {c : Char} {cs : List Char} (visible : Visible c) (plain : c ≠ '"')
    (tidy : Tidy cs) : Tidy (c :: cs) :=
  (tidy_singleton visible plain).append tidy

theorem visible_of_isWordChar {c : Char} (word : isWordChar c = true) :
    Visible c ∧ c ≠ '"' := by
  have apart : c ≠ '"' := by
    rintro rfl
    revert word
    decide
  refine ⟨?_, apart⟩
  simp only [isWordChar, Char.isAlphanum, Char.isAlpha, Char.isUpper, Char.isLower, Char.isDigit,
    Bool.or_eq_true, Bool.and_eq_true, decide_eq_true_eq, ge_iff_le, UInt32.le_iff_toNat_le]
    at word
  rcases word with (((((word | word) | word)) | rfl) | rfl) | rfl
  · exact ⟨Nat.lt_of_lt_of_le (by decide) word.1, Nat.lt_of_le_of_lt word.2 (by decide)⟩
  · exact ⟨Nat.lt_of_lt_of_le (by decide) word.1, Nat.lt_of_le_of_lt word.2 (by decide)⟩
  · exact ⟨Nat.lt_of_lt_of_le (by decide) word.1, Nat.lt_of_le_of_lt word.2 (by decide)⟩
  · decide
  · decide
  · decide

theorem Word.tidy {cs : List Char} (word : Word cs) : Tidy cs := by
  have all := word.all
  clear word
  induction cs with
  | nil => exact tidy_nil
  | cons c cs ih =>
    have ⟨visible, plain⟩ := visible_of_isWordChar (all c (by simp))
    exact (ih fun d member => all d (List.mem_cons_of_mem c member)).cons visible plain

theorem outer_hex {cs : List Char} (plain : ∀ c ∈ cs, c ≠ '"' ∧ c ≠ '\\') (rest : List Char) :
    outer .inside (cs ++ rest) = outer .inside rest := by
  induction cs with
  | nil => rfl
  | cons c cs ih =>
    have first := plain c (by simp)
    have later := ih fun d member => plain d (List.mem_cons_of_mem c member)
    simp [Json.outer, first, later]

theorem hexDigit_plain : ∀ d < 16, Text.hexDigit d ≠ '"' ∧ Text.hexDigit d ≠ '\\' := by decide

theorem hex_plain (width n : Nat) : ∀ c ∈ Text.hex width n, c ≠ '"' ∧ c ≠ '\\' := by
  induction width generalizing n with
  | zero => simp [Text.hex]
  | succ width ih =>
    intro c member
    simp only [Text.hex, List.mem_append, List.mem_singleton] at member
    rcases member with member | rfl
    · exact ih (n / 16) c member
    · exact hexDigit_plain (n % 16) (by omega)

theorem outer_escape (c : Char) (rest : List Char) :
    outer .inside (escape c ++ rest) = outer .inside rest := by
  unfold escape
  split
  · rfl
  split
  · rfl
  split
  · rfl
  split
  · rfl
  split
  · rfl
  split
  · rfl
  split
  · rfl
  split
  · exact outer_hex (hex_plain 4 c.toNat) rest
  · rename_i mark backslash _ _ _ _ _ _
    simp [Json.outer, mark, backslash]

theorem tidy_writeChars (cs : List Char) : Tidy (writeChars cs) := by
  have body : ∀ rest, outer .inside (cs.flatMap escape ++ rest) = outer .inside rest := by
    intro rest
    induction cs with
    | nil => rfl
    | cons c cs ih => rw [List.flatMap_cons, List.append_assoc, outer_escape, ih]
  refine ⟨['"', '"'], by simp [Visible], fun rest => ?_⟩
  have closed := body ('"' :: rest)
  simp [writeChars, Json.outer, closed]

mutual

theorem tidy_written : ∀ (v : Value) {levels : Nat} {cs : List Char},
    writeWithin levels v = .ok cs → Tidy cs
  | .null, _, _, written => by
    cases written
    exact spells_null.word.tidy
  | .bool b, _, _, written => by
    cases written
    exact (spells_flag b).word.tidy
  | .int n, _, _, written => (spells_int written).word.tidy
  | .float x, _, _, written => by
    cases written
    exact (spells_number x).word.tidy
  | .text t, _, _, written => by
    obtain ⟨chars, _, rfl⟩ := writeWithin_text written
    exact tidy_writeChars chars
  | .list items, _, _, written => by
    obtain ⟨below, inner, _, ok, rfl⟩ := writeWithin_list written
    have closing : Tidy [']'] := tidy_singleton (by decide) (by decide)
    exact ((tidy_items items ok).append closing).cons (by decide) (by decide)
  | .dict entries, _, _, written => by
    obtain ⟨below, inner, _, ok, rfl⟩ := writeWithin_dict written
    have closing : Tidy ['\x7d'] := tidy_singleton (by decide) (by decide)
    exact ((tidy_entries entries ok).append closing).cons (by decide) (by decide)

theorem tidy_items : ∀ (items : List Value) {levels : Nat} {cs : List Char},
    writeItems levels items = .ok cs → Tidy cs
  | [], _, _, written => by
    cases written
    exact tidy_nil
  | [v], levels, cs, written => tidy_written v (show writeWithin levels v = .ok cs from written)
  | v :: second :: others, _, _, written => by
    obtain ⟨first, tail, ok, later, rfl⟩ := writeItems_cons written
    have rest := tidy_items (second :: others) later
    exact (tidy_written v ok).append (rest.cons (by decide) (by decide))

theorem tidy_entries : ∀ (entries : List (String × Value)) {levels : Nat} {cs : List Char},
    writeEntries levels entries = .ok cs → Tidy cs
  | [], _, _, written => by
    cases written
    exact tidy_nil
  | [(key, v)], _, _, written => by
    obtain ⟨first, ok, rfl⟩ := writeEntries_single written
    exact (tidy_writeChars _).append ((tidy_written v ok).cons (by decide) (by decide))
  | (key, v) :: second :: others, _, _, written => by
    obtain ⟨first, tail, ok, later, rfl⟩ := writeEntries_cons written
    have rest := (tidy_entries (second :: others) later).cons (c := ',') (by decide) (by decide)
    have value := ((tidy_written v ok).append rest).cons (c := ':') (by decide) (by decide)
    exact (tidy_writeChars _).append value

end

end MarketSnapshot.Json
