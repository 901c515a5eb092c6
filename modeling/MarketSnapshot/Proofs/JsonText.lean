import MarketSnapshot.Proofs.NumberText

namespace MarketSnapshot.Json

theorem bind_eq_ok_iff {ε α β : Type} {x : Except ε α} {f : α → Except ε β} {b : β} :
    (x >>= f) = .ok b ↔ ∃ a, x = .ok a ∧ f a = .ok b := by
  cases x with
  | error e =>
    constructor
    · intro written
      cases written
    · rintro ⟨_, nothing, _⟩
      cases nothing
  | ok a =>
    constructor
    · exact fun written => ⟨a, rfl, written⟩
    · rintro ⟨_, same, written⟩
      cases same
      exact written

theorem hexValue?_hexDigit : ∀ d < 16, hexValue? (Text.hexDigit d) = some d := by decide

theorem readString_hex {n : Nat} (small : n < 0xD800) (rest : List Char) :
    readString (.code 4 0) (Text.hex 4 n ++ rest) =
      (readString .plain rest).map fun found => (.char (Char.ofNat n) :: found.1, found.2) := by
  have first := hexValue?_hexDigit (n / 16 / 16 / 16 % 16) (by omega)
  have second := hexValue?_hexDigit (n / 16 / 16 % 16) (by omega)
  have third := hexValue?_hexDigit (n / 16 % 16) (by omega)
  have last := hexValue?_hexDigit (n % 16) (by omega)
  have value : 16 * (16 * (16 * (n / 16 / 16 / 16 % 16) + n / 16 / 16 % 16) + n / 16 % 16) +
      n % 16 = n := by omega
  have glyph : Glyph.ofCode? n = some (.char (Char.ofNat n)) := by
    have apart : ¬ (0xD800 ≤ n ∧ n < 0xE000) := by omega
    have valid : n.isValidChar := .inl small
    simp [Glyph.ofCode?, apart, valid]
  simp [Text.hex, readString, first, second, third, last, value, glyph, joinSurrogates]

theorem readString_named {letter c : Char} (named : escaped? letter = some c)
    (other : letter ≠ 'u') (rest : List Char) :
    readString .plain (['\\', letter] ++ rest) =
      (readString .plain rest).map fun found => (.char c :: found.1, found.2) := by
  simp [readString, other, named, joinSurrogates]

theorem readString_escape (c : Char) (rest : List Char) :
    readString .plain (escape c ++ rest) =
      (readString .plain rest).map fun found => (.char c :: found.1, found.2) := by
  have same : Char.ofNat c.toNat = c := Char.ofNat_toNat c
  unfold escape
  split
  · subst c
    exact readString_named rfl (by decide) rest
  split
  · subst c
    exact readString_named rfl (by decide) rest
  split
  · subst c
    exact readString_named rfl (by decide) rest
  split
  · subst c
    exact readString_named rfl (by decide) rest
  split
  · subst c
    exact readString_named rfl (by decide) rest
  split
  · rename_i code
    rw [← same, code]
    exact readString_named rfl (by decide) rest
  split
  · rename_i code
    rw [← same, code]
    exact readString_named rfl (by decide) rest
  split
  · have read := readString_hex (n := c.toNat) (by omega) rest
    rw [same] at read
    simpa [readString] using read
  · rename_i mark backslash _ _ _ _ _ control
    simp [readString, mark, backslash, control, joinSurrogates]

theorem readString_flatMap_escape (cs rest : List Char) :
    readString .plain (cs.flatMap escape ++ '"' :: rest) = some (Text.ofChars cs, rest) := by
  induction cs with
  | nil => rfl
  | cons c cs ih =>
    rw [List.flatMap_cons, List.append_assoc, readString_escape, ih]
    rfl

theorem skipBlanks_cons {c : Char} (visible : isBlank c = false) (rest : List Char) :
    skipBlanks (c :: rest) = c :: rest := by
  simp [skipBlanks, visible]

theorem readKey_writeChars (key : String) (rest : List Char) :
    readKey (writeChars key.toList ++ ':' :: rest) = some (key, rest) := by
  have read := readString_flatMap_escape key.toList (':' :: rest)
  have back : (Text.ofChars key.toList).string? = some key := Text.string?_ofString key
  have mark : skipBlanks ('"' :: (key.toList.flatMap escape ++ '"' :: ':' :: rest)) =
      '"' :: (key.toList.flatMap escape ++ '"' :: ':' :: rest) := skipBlanks_cons (by decide) _
  have colon : skipBlanks (':' :: rest) = ':' :: rest := skipBlanks_cons (by decide) _
  simp [readKey, writeChars, mark, read, back, colon]

def Ends (rest : List Char) : Prop := ∀ c, rest.head? = some c → isWordChar c = false

theorem ends_nil : Ends [] := by intro c first; cases first

theorem ends_cons {c : Char} (other : isWordChar c = false) (rest : List Char) :
    Ends (c :: rest) := by
  intro d first
  cases first
  exact other

theorem isBlank_of_isWordChar {c : Char} (word : isWordChar c = true) : isBlank c = false := by
  rw [← Bool.not_eq_true]
  intro blank
  simp only [isBlank, Bool.or_eq_true, decide_eq_true_eq] at blank
  rcases blank with ((rfl | rfl) | rfl) | rfl <;> revert word <;> decide

theorem readValue_word {cs rest : List Char} {v : Value} (word : Word cs) (ends : Ends rest)
    (read : readWord cs = some v) (fuel : Nat) :
    readValue (fuel + 1) (cs ++ rest) = some (v, rest) := by
  have none_taken : rest.takeWhile isWordChar = [] ∧ rest.dropWhile isWordChar = rest := by
    cases rest with
    | nil => exact ⟨rfl, rfl⟩
    | cons c rest => simp [ends c rfl]
  have taken : (cs ++ rest).takeWhile isWordChar = cs := by
    rw [List.takeWhile_append_of_pos word.all, none_taken.1, List.append_nil]
  have left : (cs ++ rest).dropWhile isWordChar = rest := by
    rw [List.dropWhile_append_of_pos word.all, none_taken.2]
  obtain ⟨c, others, rfl⟩ := List.exists_cons_of_ne_nil word.nonempty
  have first := word.all c (by simp)
  have visible := skipBlanks_cons (isBlank_of_isWordChar first) (others ++ rest)
  have apart : c ≠ '"' ∧ c ≠ '[' ∧ c ≠ '\x7b' := by
    refine ⟨?_, ?_, ?_⟩ <;> rintro rfl <;> revert first <;> decide
  rw [List.cons_append] at taken left ⊢
  simp [readValue, visible, apart, taken, left, read]

def shownNumber : Binary64 → Value
  | .finite x => .float (.finite x)
  | .infinite _ | .nan => .null

mutual

/-- What JSON text shows of a value. -/
def shown : Value → Value
  | .float x => shownNumber x
  | .list items => .list (shownItems items)
  | .dict entries => .dict (shownEntries entries)
  | v => v

def shownItems : List Value → List Value
  | [] => []
  | v :: rest => shown v :: shownItems rest

def shownEntries : List (String × Value) → List (String × Value)
  | [] => []
  | (key, v) :: rest => (key, shown v) :: shownEntries rest

end

theorem writeWithin_text {levels : Nat} {t : Text} {cs : List Char}
    (written : writeWithin levels (.text t) = .ok cs) :
    ∃ chars, t = Text.ofChars chars ∧ cs = writeChars chars := by
  change writeText t = _ at written
  unfold writeText at written
  split at written
  · rename_i chars encodes
    cases written
    exact ⟨chars, Text.chars?_eq_some_iff.mp encodes, rfl⟩
  · cases written

theorem writeWithin_list {levels : Nat} {items : List Value} {cs : List Char}
    (written : writeWithin levels (.list items) = .ok cs) :
    ∃ below inner, levels = below + 1 ∧ writeItems below items = .ok inner ∧
      cs = '[' :: (inner ++ [']']) := by
  cases levels with
  | zero => cases written
  | succ below =>
    obtain ⟨inner, ok, same⟩ := bind_eq_ok_iff.mp written
    exact ⟨below, inner, rfl, ok, (Except.ok.inj same).symm⟩

theorem writeWithin_dict {levels : Nat} {entries : List (String × Value)} {cs : List Char}
    (written : writeWithin levels (.dict entries) = .ok cs) :
    ∃ below inner, levels = below + 1 ∧ writeEntries below entries = .ok inner ∧
      cs = '\x7b' :: (inner ++ ['\x7d']) := by
  cases levels with
  | zero => cases written
  | succ below =>
    obtain ⟨inner, ok, same⟩ := bind_eq_ok_iff.mp written
    exact ⟨below, inner, rfl, ok, (Except.ok.inj same).symm⟩

theorem writeItems_cons {levels : Nat} {v second : Value} {rest : List Value} {cs : List Char}
    (written : writeItems levels (v :: second :: rest) = .ok cs) :
    ∃ first others, writeWithin levels v = .ok first ∧
      writeItems levels (second :: rest) = .ok others ∧ cs = first ++ ',' :: others := by
  obtain ⟨first, ok, written⟩ := bind_eq_ok_iff.mp written
  obtain ⟨others, later, same⟩ := bind_eq_ok_iff.mp written
  exact ⟨first, others, ok, later, (Except.ok.inj same).symm⟩

theorem writeEntries_single {levels : Nat} {key : String} {v : Value} {cs : List Char}
    (written : writeEntries levels [(key, v)] = .ok cs) :
    ∃ first, writeWithin levels v = .ok first ∧ cs = writeChars key.toList ++ ':' :: first := by
  obtain ⟨first, ok, same⟩ := bind_eq_ok_iff.mp written
  exact ⟨first, ok, (Except.ok.inj same).symm⟩

theorem writeEntries_cons {levels : Nat} {key : String} {v : Value} {second : String × Value}
    {rest : List (String × Value)} {cs : List Char}
    (written : writeEntries levels ((key, v) :: second :: rest) = .ok cs) :
    ∃ first others, writeWithin levels v = .ok first ∧
      writeEntries levels (second :: rest) = .ok others ∧
      cs = writeChars key.toList ++ ':' :: (first ++ ',' :: others) := by
  obtain ⟨first, ok, written⟩ := bind_eq_ok_iff.mp written
  obtain ⟨others, later, same⟩ := bind_eq_ok_iff.mp written
  exact ⟨first, others, ok, later, by simp [← Except.ok.inj same]⟩

structure Spells (cs : List Char) (v : Value) : Prop where
  word : Word cs
  reads : readWord cs = some v

theorem spells_null : Spells "null".toList .null :=
  ⟨⟨by decide, List.all_eq_true.mp rfl⟩, rfl⟩

theorem spells_flag (b : Bool) : Spells (writeFlag b) (.bool b) := by
  cases b with
  | true => exact ⟨⟨by decide, List.all_eq_true.mp rfl⟩, rfl⟩
  | false => exact ⟨⟨by decide, List.all_eq_true.mp rfl⟩, rfl⟩

theorem spells_int {n : Int} {cs : List Char} (written : writeInt n = .ok cs) :
    Spells cs (.int n) := by
  unfold writeInt at written
  split at written
  · cases written
    refine ⟨word_toString n, ?_⟩
    rw [readWord, readNumber_toString]
    rfl
  · cases written

theorem spells_number (x : Binary64) : Spells (writeNumber x) (shownNumber x) := by
  cases x with
  | finite x =>
    refine ⟨Binary64.word_write .compact x, ?_⟩
    simp [writeNumber, readWord, Binary64.readNumber_write, shownNumber]
  | nan => exact spells_null
  | infinite negative => exact spells_null

def Opens (cs : List Char) : Prop :=
  ∃ c others, cs = c :: others ∧ isBlank c = false ∧ c ≠ ']' ∧ c ≠ '\x7d'

theorem opens_cons {c : Char} (visible : isBlank c = false ∧ c ≠ ']' ∧ c ≠ '\x7d')
    (others : List Char) : Opens (c :: others) := ⟨c, others, rfl, visible⟩

theorem Opens.append {cs : List Char} (opens : Opens cs) (rest : List Char) :
    Opens (cs ++ rest) := by
  obtain ⟨c, others, rfl, visible⟩ := opens
  exact opens_cons visible (others ++ rest)

theorem Word.opens {cs : List Char} (word : Word cs) : Opens cs := by
  obtain ⟨c, others, rfl⟩ := List.exists_cons_of_ne_nil word.nonempty
  have first := word.all c (by simp)
  refine opens_cons ⟨isBlank_of_isWordChar first, ?_, ?_⟩ others <;>
    rintro rfl <;> revert first <;> decide

theorem opens_writeChars (cs : List Char) : Opens (writeChars cs) := opens_cons (by decide) _

theorem opens_of_written {levels : Nat} {v : Value} {cs : List Char}
    (written : writeWithin levels v = .ok cs) : Opens cs := by
  cases v with
  | null =>
    cases written
    exact spells_null.word.opens
  | bool b =>
    cases written
    exact (spells_flag b).word.opens
  | int n => exact (spells_int written).word.opens
  | float x =>
    cases written
    exact (spells_number x).word.opens
  | text t =>
    obtain ⟨chars, _, rfl⟩ := writeWithin_text written
    exact opens_writeChars chars
  | list items =>
    obtain ⟨_, inner, _, _, rfl⟩ := writeWithin_list written
    exact opens_cons (by decide) _
  | dict entries =>
    obtain ⟨_, inner, _, _, rfl⟩ := writeWithin_dict written
    exact opens_cons (by decide) _

theorem Spells.readValue {cs rest : List Char} {v : Value} {fuel : Nat} (spells : Spells cs v)
    (ends : Ends rest) (enough : cs.length ≤ fuel) :
    readValue fuel (cs ++ rest) = some (v, rest) := by
  have long : 0 < cs.length := List.length_pos_iff.mpr spells.word.nonempty
  obtain ⟨less, rfl⟩ := Nat.exists_eq_succ_of_ne_zero (n := fuel) (by omega)
  exact readValue_word spells.word ends spells.reads less

theorem readValue_writeChars (cs rest : List Char) (fuel : Nat) :
    readValue (fuel + 1) (writeChars cs ++ rest) = some (.text (Text.ofChars cs), rest) := by
  have read := readString_flatMap_escape cs rest
  have mark : skipBlanks ('"' :: (cs.flatMap escape ++ '"' :: rest)) =
      '"' :: (cs.flatMap escape ++ '"' :: rest) := skipBlanks_cons (by decide) _
  simp [writeChars, readValue, mark, read]

theorem readValue_emptyList (rest : List Char) (fuel : Nat) :
    readValue (fuel + 1) ('[' :: ']' :: rest) = some (.list [], rest) := rfl

theorem readValue_emptyDict (rest : List Char) (fuel : Nat) :
    readValue (fuel + 1) ('\x7b' :: '\x7d' :: rest) = some (.dict [], rest) := rfl

theorem readValue_list {inner rest : List Char} {items : List Value} {fuel : Nat}
    (opens : Opens inner) (read : readItems fuel (inner ++ ']' :: rest) = some (items, rest)) :
    readValue (fuel + 1) ('[' :: (inner ++ ']' :: rest)) = some (.list items, rest) := by
  obtain ⟨c, others, rfl, visible, bracket, _⟩ := opens
  rw [List.cons_append] at read ⊢
  have first := skipBlanks_cons visible (others ++ ']' :: rest)
  have open_bracket : skipBlanks ('[' :: c :: (others ++ ']' :: rest)) =
      '[' :: c :: (others ++ ']' :: rest) := skipBlanks_cons (by decide) _
  simp [readValue, open_bracket, first, bracket, read]

theorem readValue_dict {inner rest : List Char} {entries : List (String × Value)} {fuel : Nat}
    (opens : Opens inner)
    (read : readEntries fuel (inner ++ '\x7d' :: rest) = some (entries, rest)) :
    readValue (fuel + 1) ('\x7b' :: (inner ++ '\x7d' :: rest)) = some (.dict entries, rest) := by
  obtain ⟨c, others, rfl, visible, _, brace⟩ := opens
  rw [List.cons_append] at read ⊢
  have first := skipBlanks_cons visible (others ++ '\x7d' :: rest)
  have open_brace : skipBlanks ('\x7b' :: c :: (others ++ '\x7d' :: rest)) =
      '\x7b' :: c :: (others ++ '\x7d' :: rest) := skipBlanks_cons (by decide) _
  simp [readValue, open_brace, first, brace, read]

theorem readItems_single {first rest : List Char} {v : Value} {fuel : Nat}
    (read : readValue fuel (first ++ ']' :: rest) = some (v, ']' :: rest)) :
    readItems (fuel + 1) (first ++ ']' :: rest) = some ([v], rest) := by
  have bracket : skipBlanks (']' :: rest) = ']' :: rest := skipBlanks_cons (by decide) _
  simp [readItems, read, bracket]

theorem readItems_cons {first tail rest : List Char} {v : Value} {others : List Value}
    {fuel : Nat} (read : readValue fuel (first ++ ',' :: tail) = some (v, ',' :: tail))
    (later : readItems fuel tail = some (others, rest)) :
    readItems (fuel + 1) (first ++ ',' :: tail) = some (v :: others, rest) := by
  have comma : skipBlanks (',' :: tail) = ',' :: tail := skipBlanks_cons (by decide) _
  simp [readItems, read, comma, later]

theorem readEntries_single {key : String} {first rest : List Char} {v : Value} {fuel : Nat}
    (read : readValue fuel (first ++ '\x7d' :: rest) = some (v, '\x7d' :: rest)) :
    readEntries (fuel + 1) (writeChars key.toList ++ ':' :: (first ++ '\x7d' :: rest)) =
      some ([(key, v)], rest) := by
  have brace : skipBlanks ('\x7d' :: rest) = '\x7d' :: rest := skipBlanks_cons (by decide) _
  simp [readEntries, readKey_writeChars, read, brace]

theorem readEntries_cons {key : String} {first tail rest : List Char} {v : Value}
    {others : List (String × Value)} {fuel : Nat}
    (read : readValue fuel (first ++ ',' :: tail) = some (v, ',' :: tail))
    (later : readEntries fuel tail = some (others, rest)) :
    readEntries (fuel + 1) (writeChars key.toList ++ ':' :: (first ++ ',' :: tail)) =
      some ((key, v) :: others, rest) := by
  have comma : skipBlanks (',' :: tail) = ',' :: tail := skipBlanks_cons (by decide) _
  simp [readEntries, readKey_writeChars, read, comma, later]

theorem Opens.length_pos {cs : List Char} (opens : Opens cs) : 0 < cs.length := by
  obtain ⟨c, others, rfl, _⟩ := opens
  exact Nat.succ_pos others.length

mutual

/-- A written value reads back as what its text shows, with any text after it that does not go on
with a word. -/
theorem readValue_written : ∀ (v : Value) {levels fuel : Nat} {cs rest : List Char},
    writeWithin levels v = .ok cs → Ends rest → cs.length ≤ fuel →
      readValue fuel (cs ++ rest) = some (shown v, rest)
  | .null, _, _, _, _, written, ends, enough => by
    cases written
    exact spells_null.readValue ends enough
  | .bool b, _, _, _, _, written, ends, enough => by
    cases written
    exact (spells_flag b).readValue ends enough
  | .int n, _, _, _, _, written, ends, enough => (spells_int written).readValue ends enough
  | .float x, _, _, _, _, written, ends, enough => by
    cases written
    exact (spells_number x).readValue ends enough
  | .text t, _, fuel, _, rest, written, _, enough => by
    obtain ⟨chars, rfl, rfl⟩ := writeWithin_text written
    have long := (opens_writeChars chars).length_pos
    obtain ⟨less, rfl⟩ := Nat.exists_eq_succ_of_ne_zero (n := fuel) (by omega)
    exact readValue_writeChars chars rest less
  | .list items, _, fuel, _, rest, written, _, enough => by
    obtain ⟨below, inner, _, ok, rfl⟩ := writeWithin_list written
    simp only [List.length_cons, List.length_append, List.length_nil] at enough
    obtain ⟨less, rfl⟩ := Nat.exists_eq_succ_of_ne_zero (n := fuel) (by omega)
    cases items with
    | nil =>
      cases ok
      exact readValue_emptyList rest less
    | cons v others =>
      have ⟨opens, read⟩ := readItems_written (v :: others) (by simp) less rest ok (by omega)
      simpa [shown] using readValue_list opens read
  | .dict entries, _, fuel, _, rest, written, _, enough => by
    obtain ⟨below, inner, _, ok, rfl⟩ := writeWithin_dict written
    simp only [List.length_cons, List.length_append, List.length_nil] at enough
    obtain ⟨less, rfl⟩ := Nat.exists_eq_succ_of_ne_zero (n := fuel) (by omega)
    cases entries with
    | nil =>
      cases ok
      exact readValue_emptyDict rest less
    | cons entry others =>
      have ⟨opens, read⟩ :=
        readEntries_written (entry :: others) (by simp) less rest ok (by omega)
      simpa [shown] using readValue_dict opens read

theorem readItems_written : ∀ (items : List Value), items ≠ [] → ∀ (fuel : Nat)
    (rest : List Char) {levels : Nat} {cs : List Char}, writeItems levels items = .ok cs →
      cs.length + 1 ≤ fuel →
      Opens cs ∧ readItems fuel (cs ++ ']' :: rest) = some (shownItems items, rest)
  | [v], _, fuel, rest, levels, cs, written, enough => by
    obtain ⟨less, rfl⟩ := Nat.exists_eq_succ_of_ne_zero (n := fuel) (by omega)
    have first : writeWithin levels v = .ok cs := written
    have read : readValue less (cs ++ ']' :: rest) = some (shown v, ']' :: rest) :=
      readValue_written v first (ends_cons (by decide) rest) (by omega)
    exact ⟨opens_of_written first, readItems_single read⟩
  | v :: second :: others, _, fuel, rest, levels, cs, written, enough => by
    obtain ⟨less, rfl⟩ := Nat.exists_eq_succ_of_ne_zero (n := fuel) (by omega)
    obtain ⟨first, tail, ok, later, rfl⟩ := writeItems_cons written
    simp only [List.length_append, List.length_cons] at enough
    have opens := opens_of_written ok
    have long := opens.length_pos
    have read : readValue less (first ++ ',' :: (tail ++ ']' :: rest)) =
        some (shown v, ',' :: (tail ++ ']' :: rest)) :=
      readValue_written v ok (ends_cons (by decide) _) (by omega)
    have ⟨_, rest_read⟩ :=
      readItems_written (second :: others) (by simp) less rest later (by omega)
    rw [List.append_assoc]
    exact ⟨opens.append _, readItems_cons read rest_read⟩

theorem readEntries_written : ∀ (entries : List (String × Value)), entries ≠ [] → ∀ (fuel : Nat)
    (rest : List Char) {levels : Nat} {cs : List Char}, writeEntries levels entries = .ok cs →
      cs.length + 1 ≤ fuel →
      Opens cs ∧ readEntries fuel (cs ++ '\x7d' :: rest) = some (shownEntries entries, rest)
  | [(key, v)], _, fuel, rest, levels, cs, written, enough => by
    obtain ⟨less, rfl⟩ := Nat.exists_eq_succ_of_ne_zero (n := fuel) (by omega)
    obtain ⟨first, ok, rfl⟩ := writeEntries_single written
    simp only [List.length_append, List.length_cons] at enough
    have read : readValue less (first ++ '\x7d' :: rest) = some (shown v, '\x7d' :: rest) :=
      readValue_written v ok (ends_cons (by decide) rest) (by omega)
    rw [List.append_assoc]
    exact ⟨(opens_writeChars _).append _, readEntries_single read⟩
  | (key, v) :: second :: others, _, fuel, rest, levels, cs, written, enough => by
    obtain ⟨less, rfl⟩ := Nat.exists_eq_succ_of_ne_zero (n := fuel) (by omega)
    obtain ⟨first, tail, ok, later, rfl⟩ := writeEntries_cons written
    simp only [List.length_append, List.length_cons] at enough
    have read : readValue less (first ++ ',' :: (tail ++ '\x7d' :: rest)) =
        some (shown v, ',' :: (tail ++ '\x7d' :: rest)) :=
      readValue_written v ok (ends_cons (by decide) _) (by omega)
    have ⟨_, rest_read⟩ :=
      readEntries_written (second :: others) (by simp) less rest later (by omega)
    rw [List.append_assoc]
    simp only [List.cons_append, List.append_assoc]
    exact ⟨(opens_writeChars _).append _, readEntries_cons read rest_read⟩

end

theorem read_written {v : Value} {levels : Nat} {cs : List Char}
    (written : writeWithin levels v = .ok cs) : read cs = some (shown v) := by
  have found := readValue_written v written ends_nil (Nat.le_refl cs.length)
  rw [List.append_nil] at found
  simp [read, found, skipBlanks]

def Writable (levels : Nat) (v : Value) : Prop := ∃ cs, writeWithin levels v = .ok cs

theorem writable_text {t : Text} (encodable : t.Encodable) (levels : Nat) :
    Writable levels (.text t) := by
  rw [Text.encodable_iff, Option.isSome_iff_exists] at encodable
  obtain ⟨chars, encodes⟩ := encodable
  exact ⟨writeChars chars, by simp [writeWithin, writeText, encodes]⟩

theorem writable_flag (b : Bool) (levels : Nat) : Writable levels (.bool b) := ⟨_, rfl⟩

theorem writable_number (x : Binary64) (levels : Nat) : Writable levels (.float x) := ⟨_, rfl⟩

theorem writable_entries {levels : Nat} : ∀ {entries : List (String × Value)},
    (∀ entry ∈ entries, Writable levels entry.2) → ∃ cs, writeEntries levels entries = .ok cs
  | [], _ => ⟨[], rfl⟩
  | [(key, v)], values => by
    obtain ⟨cs, ok⟩ := values (key, v) (by simp)
    exact ⟨_, bind_eq_ok_iff.mpr ⟨cs, ok, rfl⟩⟩
  | (key, v) :: second :: others, values => by
    obtain ⟨cs, ok⟩ := values (key, v) (by simp)
    obtain ⟨rest, later⟩ :=
      writable_entries fun entry member => values entry (List.mem_cons_of_mem (key, v) member)
    exact ⟨_, bind_eq_ok_iff.mpr ⟨cs, ok, bind_eq_ok_iff.mpr ⟨rest, later, rfl⟩⟩⟩

theorem writable_dict {levels : Nat} {entries : List (String × Value)}
    (values : ∀ entry ∈ entries, Writable levels entry.2) :
    Writable (levels + 1) (.dict entries) := by
  obtain ⟨inner, ok⟩ := writable_entries values
  exact ⟨_, bind_eq_ok_iff.mpr ⟨inner, ok, rfl⟩⟩

end MarketSnapshot.Json
