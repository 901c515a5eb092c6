import MarketSnapshot.Proofs.JsonReader
import MarketSnapshot.Proofs.Rounding

namespace MarketSnapshot

open Text.Numeral (isDigit ofDigits splitMinus readExponent)

def AllDigits (cs : List Char) : Prop := ∀ c ∈ cs, isDigit c = true

theorem isDigit_eq (c : Char) : isDigit c = c.isDigit := by
  rw [Bool.eq_iff_iff]
  simp [isDigit, Char.isDigit, Char.le_def, UInt32.le_iff_toNat_le]

theorem ofDigits_eq (cs : List Char) : ofDigits cs = Nat.ofDigitChars 10 cs 0 := rfl

theorem AllDigits.append {left right : List Char} (hl : AllDigits left) (hr : AllDigits right) :
    AllDigits (left ++ right) := by
  intro c member
  rcases List.mem_append.mp member with member | member
  · exact hl c member
  · exact hr c member

theorem allDigits_replicate (n : Nat) : AllDigits (List.replicate n '0') := by
  intro c member
  rw [List.eq_of_mem_replicate member]
  decide

theorem allDigits_toDigits (n : Nat) : AllDigits (Nat.toDigits 10 n) := by
  intro c member
  rw [isDigit_eq]
  exact Nat.isDigit_of_mem_toDigits (by decide) (by decide) member

theorem ofDigits_toDigits (n : Nat) : ofDigits (Nat.toDigits 10 n) = n :=
  Nat.ofDigitChars_ten_toDigits

theorem ofDigits_replicate_append (n : Nat) (cs : List Char) :
    ofDigits (List.replicate n '0' ++ cs) = ofDigits cs := by
  simp [ofDigits_eq, Nat.ofDigitChars_append, Nat.ofDigitChars_replicate_zero]

theorem ofDigits_append_replicate (cs : List Char) (n : Nat) :
    ofDigits (cs ++ List.replicate n '0') = ofDigits cs * 10 ^ n := by
  simp [ofDigits_eq, Nat.ofDigitChars_append, Nat.ofDigitChars_replicate_zero, Nat.mul_comm]

theorem head?_toDigits {n : Nat} (positive : 0 < n) :
    (Nat.toDigits 10 n).head? ≠ some '0' := by
  induction n using Nat.strongRecOn with
  | ind n ih =>
    rw [Nat.toDigits_eq_if (by decide)]
    split
    · simp only [List.head?_cons, ne_eq, Option.some.injEq, Nat.digitChar_eq_zero]
      omega
    · rename_i large
      obtain ⟨first, others, split⟩ :=
        List.exists_cons_of_ne_nil (Nat.toDigits_ne_nil (n := n / 10) (b := 10))
      have shorter := ih (n / 10) (by omega) (by omega)
      rw [split] at shorter ⊢
      simpa using shorter

theorem takeWhile_digits {digits rest : List Char} (all : AllDigits digits)
    (stop : ∀ c, rest.head? = some c → isDigit c = false) :
    (digits ++ rest).takeWhile isDigit = digits ∧ (digits ++ rest).dropWhile isDigit = rest := by
  have none_taken : rest.takeWhile isDigit = [] ∧ rest.dropWhile isDigit = rest := by
    cases rest with
    | nil => exact ⟨rfl, rfl⟩
    | cons c rest => simp [stop c rfl]
  rw [List.takeWhile_append_of_pos all, List.dropWhile_append_of_pos all, none_taken.1,
    none_taken.2, List.append_nil]
  exact ⟨rfl, rfl⟩

def signed (negative : Bool) (body : List Char) : List Char :=
  if negative then '-' :: body else body

def Stops (rest : List Char) : Prop := ∀ c, rest.head? = some c → isDigit c = false

theorem stops_nil : Stops [] := by intro c first; cases first

theorem stops_cons (c : Char) (other : isDigit c = false) (rest : List Char) :
    Stops (c :: rest) := by
  intro d first
  cases first
  exact other

theorem splitMinus_signed (negative : Bool) {body : List Char}
    (first : body.head? ≠ some '-') : splitMinus (signed negative body) = (negative, body) := by
  cases negative with
  | true => rfl
  | false =>
    unfold signed splitMinus
    split <;> simp_all

structure Whole (digits : List Char) : Prop where
  all : AllDigits digits
  nonempty : digits ≠ []
  plain : digits.head? ≠ some '0' ∨ digits = ['0']

theorem Whole.isWhole {digits : List Char} (whole : Whole digits) :
    Json.isWhole digits = true := by
  have nonempty := whole.nonempty
  rcases whole.plain with plain | zero
  · simp [Json.isWhole, nonempty, plain]
  · subst zero
    rfl

theorem Whole.head_ne_minus {digits : List Char} (whole : Whole digits) (rest : List Char) :
    (digits ++ rest).head? ≠ some '-' := by
  obtain ⟨first, others, rfl⟩ := List.exists_cons_of_ne_nil whole.nonempty
  have digit := whole.all first (by simp)
  intro same
  cases same
  simp [isDigit] at digit

theorem whole_toDigits (n : Nat) : Whole (Nat.toDigits 10 n) where
  all := allDigits_toDigits n
  nonempty := Nat.toDigits_ne_nil
  plain := by
    by_cases zero : n = 0
    · subst zero
      exact .inr rfl
    · exact .inl (head?_toDigits (by omega))

theorem readNumber_int (negative : Bool) {digits : List Char} (whole : Whole digits) :
    Json.readNumber (signed negative digits) =
      some (.int (if negative then -(ofDigits digits : Int) else ofDigits digits)) := by
  have split := splitMinus_signed negative (by simpa using whole.head_ne_minus [])
  have parts := takeWhile_digits whole.all stops_nil
  simp only [List.append_nil] at parts
  simp [Json.readNumber, split, parts, whole.isWhole]

theorem readNumber_fraction (negative : Bool) {digits fraction tail : List Char} {e : Int}
    (whole : Whole digits) (all : AllDigits fraction) (nonempty : fraction ≠ [])
    (stop : Stops tail) (exponent : readExponent tail = some e) :
    Json.readNumber (signed negative (digits ++ '.' :: (fraction ++ tail))) =
      some (.float (Binary64.ofDecimal negative
        ⟨ofDigits (digits ++ fraction), e - fraction.length⟩)) := by
  have split := splitMinus_signed negative (whole.head_ne_minus ('.' :: (fraction ++ tail)))
  have parts := takeWhile_digits whole.all (stops_cons '.' (by decide) (fraction ++ tail))
  have later := takeWhile_digits all stop
  simp [Json.readNumber, split, parts, later, whole.isWhole, nonempty, exponent]

theorem readNumber_exponent (negative : Bool) {digits tail : List Char} {e : Int}
    (whole : Whole digits) (exponent : readExponent ('e' :: tail) = some e) :
    Json.readNumber (signed negative (digits ++ 'e' :: tail)) =
      some (.float (Binary64.ofDecimal negative ⟨ofDigits digits, e⟩)) := by
  have split := splitMinus_signed negative (whole.head_ne_minus ('e' :: tail))
  have parts := takeWhile_digits whole.all (stops_cons 'e' (by decide) tail)
  simp [Json.readNumber, split, parts, whole.isWhole, exponent]

theorem readExponent_written (width : Nat) (e : Int) :
    readExponent ('e' :: (if e < 0 then '-' else '+') :: Binary64.paddedNat width e.natAbs) =
      some e := by
  have all : AllDigits (Binary64.paddedNat width e.natAbs) :=
    (allDigits_replicate _).append (allDigits_toDigits _)
  have nonempty : Binary64.paddedNat width e.natAbs ≠ [] := by
    simp [Binary64.paddedNat, Binary64.padded, Nat.toDigits_ne_nil]
  have number : ofDigits (Binary64.paddedNat width e.natAbs) = e.natAbs := by
    rw [Binary64.paddedNat, Binary64.padded, ofDigits_replicate_append, ofDigits_toDigits]
  have every : (Binary64.paddedNat width e.natAbs).all isDigit = true := List.all_eq_true.mpr all
  by_cases below : e < 0
  · have value : -(e.natAbs : Int) = e := by omega
    simp only [readExponent, Text.Numeral.splitSign, below, if_true, number, value]
    simp [nonempty, every]
  · have value : (e.natAbs : Int) = e := by omega
    simp only [readExponent, Text.Numeral.splitSign, below, if_false, number, value]
    simp [nonempty, every]

namespace Binary64

theorem trailing_zeros (cs : List Char) :
    ∃ n, cs = (cs.reverse.dropWhile (· == '0')).reverse ++ List.replicate n '0' := by
  have zeros : ∀ c ∈ (cs.reverse.takeWhile (· == '0')).reverse, c = '0' := by
    intro c member
    rw [List.mem_reverse] at member
    simpa using List.mem_takeWhile_imp member
  have split : cs = (cs.reverse.dropWhile (· == '0')).reverse ++
      (cs.reverse.takeWhile (· == '0')).reverse := by
    rw [← List.reverse_append, List.takeWhile_append_dropWhile, List.reverse_reverse]
  exact ⟨_, by rw [← List.eq_replicate_of_mem zeros]; exact split⟩

structure Denotes (s : Scientific) (x : Finite) : Prop where
  whole : Whole s.digits
  zero : s.digits = ['0'] → s.exponent = 0
  reads : ofDecimal x.negative ⟨ofDigits s.digits, s.exponent + 1 - s.digits.length⟩ = .finite x

theorem denotes_ofDecimal {d : Decimal} {x : Finite} (positive : 0 < d.digits)
    (reads : ofDecimal x.negative d = .finite x) : Denotes (Scientific.ofDecimal d) x := by
  have leading := head?_toDigits positive
  have number := ofDigits_toDigits d.digits
  have digits := allDigits_toDigits d.digits
  obtain ⟨n, split⟩ := trailing_zeros (Nat.toDigits 10 d.digits)
  unfold Scientific.ofDecimal
  dsimp only
  generalize ((Nat.toDigits 10 d.digits).reverse.dropWhile (· == '0')).reverse = stripped at *
  rw [split] at leading number digits
  rw [split]
  have nonempty : stripped ≠ [] := by
    rintro rfl
    cases n with
    | zero => exact absurd split Nat.toDigits_ne_nil
    | succ n => simp [List.replicate_succ] at leading
  obtain ⟨first, others, rfl⟩ := List.exists_cons_of_ne_nil nonempty
  simp only [List.cons_append, List.head?_cons, ne_eq, Option.some.injEq] at leading
  rw [ofDigits_append_replicate] at number
  have plain : (first :: others).isEmpty = false := rfl
  simp only [plain, Bool.false_eq_true, if_false]
  refine ⟨⟨fun c member => digits c (List.mem_append_left _ member), nonempty, ?_⟩, ?_, ?_⟩
  · exact .inl (by simpa using leading)
  · intro same
    cases same
    exact absurd rfl leading
  · have exponent : d.exponent + ((first :: others) ++ List.replicate n '0').length - 1 + 1 -
        (first :: others).length = d.exponent + n := by
      simp only [List.length_append, List.length_replicate]
      omega
    rw [exponent, ← ofDecimal_shift, number]
    exact reads

theorem pack_of_mantissa_zero {x : Finite} (zero : x.mantissa = 0) :
    pack x.negative 0 0 = .finite x := by
  obtain ⟨negative, mantissa, shift, canonical⟩ := x
  simp only at zero
  subst zero
  have least : shift = 0 := canonical.2.2.resolve_right (by decide)
  subst least
  exact pack_of_canonical negative canonical

theorem denotes_scientific (x : Finite) : Denotes (scientific x) x := by
  unfold scientific
  by_cases zero : x.mantissa = 0
  · rw [if_pos zero]
    refine ⟨whole_toDigits 0, fun _ => rfl, ?_⟩
    change ofDecimal x.negative ⟨0, 0⟩ = .finite x
    rw [ofDecimal_zero, pack_of_mantissa_zero zero]
  · rw [if_neg zero]
    have reads := ofDecimal_shortest x
    apply denotes_ofDecimal _ reads
    apply Nat.pos_of_ne_zero
    intro none
    have nothing : shortest x = ⟨0, (shortest x).exponent⟩ := by rw [← none]
    rw [nothing, ofDecimal_zero, pack_of_canonical x.negative (by decide)] at reads
    exact zero (congrArg Finite.mantissa (Binary64.finite.inj reads)).symm

theorem Denotes.leading {s : Scientific} {x : Finite} (denotes : Denotes s x)
    (several : 1 < s.digits.length) : s.digits.head? ≠ some '0' := by
  rcases denotes.whole.plain with plain | zero
  · exact plain
  · rw [zero] at several
    exact absurd several (by decide)

theorem Denotes.whole_padded {s : Scientific} {x : Finite} (denotes : Denotes s x) {n : Nat}
    (fits : s.exponent = 0 → n = 0) : Whole (s.digits ++ List.replicate n '0') := by
  obtain ⟨first, others, split⟩ := List.exists_cons_of_ne_nil denotes.whole.nonempty
  refine ⟨denotes.whole.all.append (allDigits_replicate n), by simp [split], ?_⟩
  rcases denotes.whole.plain with plain | zero
  · rw [split] at plain ⊢
    exact .inl (by simpa using plain)
  · rw [fits (denotes.zero zero), zero]
    exact .inr rfl

theorem Denotes.whole_take {s : Scientific} {x : Finite} (denotes : Denotes s x) (n : Nat)
    (several : 1 < s.digits.length) : Whole (s.digits.take (n + 1)) := by
  have leading := denotes.leading several
  obtain ⟨first, others, split⟩ := List.exists_cons_of_ne_nil denotes.whole.nonempty
  refine ⟨fun c member => denotes.whole.all c (List.mem_of_mem_take member), by simp [split], ?_⟩
  rw [split] at leading ⊢
  exact .inl (by simpa using leading)

theorem readNumber_positional {s : Scientific} {x : Finite} (denotes : Denotes s x) :
    Json.readNumber (signed x.negative (positional s)) = some (.float (.finite x)) := by
  rw [← denotes.reads]
  have whole := denotes.whole
  have long : 0 < s.digits.length := List.length_pos_iff.mpr whole.nonempty
  unfold positional
  by_cases below : s.exponent < 0
  · have zeros := allDigits_replicate (s.exponent.natAbs - 1)
    have read := readNumber_fraction x.negative (whole_toDigits 0)
      (zeros.append whole.all) (by simp [whole.nonempty]) stops_nil rfl
    have number : ofDigits (Nat.toDigits 10 0 ++
        (List.replicate (s.exponent.natAbs - 1) '0' ++ s.digits)) = ofDigits s.digits := by
      rw [← List.append_assoc]
      exact ofDigits_replicate_append (s.exponent.natAbs - 1 + 1) s.digits
    have exponent : (0 : Int) - (List.replicate (s.exponent.natAbs - 1) '0' ++ s.digits).length =
        s.exponent + 1 - s.digits.length := by
      simp only [List.length_append, List.length_replicate]
      omega
    rw [number, exponent] at read
    rw [if_pos below]
    simpa using read
  · rw [if_neg below]
    dsimp only
    by_cases short : s.digits.length ≤ s.exponent.natAbs + 1
    · have padding := denotes.whole_padded (n := s.exponent.natAbs + 1 - s.digits.length) (by omega)
      have read := readNumber_fraction x.negative padding (whole_toDigits 0).all
        (by simp) stops_nil rfl
      have number : ofDigits
          (s.digits ++ List.replicate (s.exponent.natAbs + 1 - s.digits.length) '0' ++
            Nat.toDigits 10 0) =
          ofDigits s.digits * 10 ^ (s.exponent.natAbs + 1 - s.digits.length + 1) := by
        rw [← ofDigits_append_replicate, List.replicate_succ', List.append_assoc]
        rfl
      have exponent : (0 : Int) - (Nat.toDigits 10 0).length +
          (s.exponent.natAbs + 1 - s.digits.length + 1 : Nat) =
            s.exponent + 1 - s.digits.length := by
        simp only [Nat.toDigits_zero, List.length_singleton]
        omega
      rw [number, ofDecimal_shift, exponent] at read
      simpa [List.take_of_length_le short, List.drop_of_length_le short] using read
    · have start := denotes.whole_take s.exponent.natAbs (by omega)
      have fraction : AllDigits (s.digits.drop (s.exponent.natAbs + 1)) :=
        fun c member => whole.all c (List.mem_of_mem_drop member)
      have nonempty : s.digits.drop (s.exponent.natAbs + 1) ≠ [] := by
        rw [ne_eq, List.drop_eq_nil_iff]
        omega
      have read := readNumber_fraction x.negative start fraction nonempty stops_nil rfl
      have exponent : (0 : Int) - (s.digits.drop (s.exponent.natAbs + 1)).length =
          s.exponent + 1 - s.digits.length := by
        rw [List.length_drop]
        omega
      have padding : s.exponent.natAbs + 1 - s.digits.length = 0 := by omega
      rw [List.take_append_drop, exponent] at read
      simpa [padding, nonempty] using read

theorem readNumber_exponential (width : Nat) {s : Scientific} {x : Finite}
    (denotes : Denotes s x) :
    Json.readNumber (signed x.negative (exponential width s)) = some (.float (.finite x)) := by
  rw [← denotes.reads]
  have whole := denotes.whole
  have exponent := readExponent_written width s.exponent
  unfold exponential
  cases digits : s.digits with
  | nil => exact absurd digits whole.nonempty
  | cons first others =>
    rw [digits] at whole
    cases others with
    | nil =>
      have read := readNumber_exponent x.negative whole exponent
      have places : s.exponent = s.exponent + 1 - [first].length := by
        simp only [List.length_singleton]
        omega
      rw [← places]
      exact read
    | cons second rest =>
      have start := denotes.whole_take 0 (by simp [digits])
      have fraction : AllDigits (second :: rest) :=
        fun c member => whole.all c (List.mem_cons_of_mem _ member)
      have read := readNumber_fraction x.negative start fraction (by simp)
        (stops_cons 'e' (by decide) _) exponent
      have places : s.exponent - (second :: rest).length =
          s.exponent + 1 - (first :: second :: rest).length := by
        simp only [List.length_cons]
        omega
      rw [digits, places] at read
      simpa using read

/-- A number reads back from its text in every layout. -/
theorem readNumber_write (layout : Layout) (x : Finite) :
    Json.readNumber (layout.write x) = some (.float (.finite x)) := by
  have denotes := denotes_scientific x
  unfold Layout.write
  change Json.readNumber (signed x.negative _) = _
  split
  · exact readNumber_positional denotes
  · exact readNumber_exponential layout.exponentWidth denotes

end Binary64

structure Json.Word (cs : List Char) : Prop where
  nonempty : cs ≠ []
  all : ∀ c ∈ cs, Json.isWordChar c = true

theorem isWordChar_of_isDigit {c : Char} (digit : isDigit c = true) :
    Json.isWordChar c = true := by
  rw [isDigit_eq] at digit
  simp [Json.isWordChar, Char.isAlphanum, digit]

theorem AllDigits.wordChars {cs : List Char} (all : AllDigits cs) :
    ∀ c ∈ cs, Json.isWordChar c = true :=
  fun c member => isWordChar_of_isDigit (all c member)

theorem word_signed (negative : Bool) {body : List Char} (word : Json.Word body) :
    Json.Word (signed negative body) := by
  cases negative with
  | true =>
    refine ⟨by simp [signed], fun c member => ?_⟩
    rcases List.mem_cons.mp member with rfl | member
    · decide
    · exact word.all c member
  | false => exact word

theorem Whole.word {digits : List Char} (whole : Whole digits) : Json.Word digits :=
  ⟨whole.nonempty, whole.all.wordChars⟩

theorem toList_toString_int (n : Int) :
    (toString n).toList = signed (decide (n < 0)) (Nat.toDigits 10 n.natAbs) := by
  cases n with
  | ofNat m =>
    have positive : ¬ (Int.ofNat m < 0) := by simp
    simp only [positive, decide_false, signed]
    exact Nat.toList_repr
  | negSucc m =>
    simp only [Int.negSucc_lt_zero, decide_true, signed, if_true]
    change ("-" ++ Nat.repr (m + 1)).toList = _
    rw [String.toList_append, Nat.toList_repr]
    rfl

theorem readNumber_toString (n : Int) :
    Json.readNumber (toString n).toList = some (.int n) := by
  rw [toList_toString_int, readNumber_int _ (whole_toDigits n.natAbs), ofDigits_toDigits]
  by_cases below : n < 0
  · simp only [below, decide_true, if_true, Option.some.injEq, Value.int.injEq]
    omega
  · simp only [below, decide_false, Bool.false_eq_true, if_false, Option.some.injEq,
      Value.int.injEq]
    omega

theorem word_toString (n : Int) : Json.Word (toString n).toList := by
  rw [toList_toString_int]
  exact word_signed _ (whole_toDigits n.natAbs).word

namespace Binary64

theorem word_positional {s : Scientific} (whole : Whole s.digits) :
    Json.Word (positional s) := by
  have zeros := fun n => (allDigits_replicate n).wordChars
  have digits := whole.all.wordChars
  unfold positional
  refine ⟨by split <;> simp, fun c member => ?_⟩
  split at member
  · simp only [List.mem_append, List.mem_cons] at member
    rcases member with (rfl | rfl | member) | member
    · decide
    · decide
    · exact zeros _ c member
    · exact digits c member
  · simp only [List.mem_append, List.mem_cons] at member
    rcases member with (member | member) | rfl | member
    · exact digits c (List.mem_of_mem_take member)
    · exact zeros _ c member
    · decide
    · split at member
      · exact zeros 1 c member
      · exact digits c (List.mem_of_mem_drop member)

theorem word_exponential (width : Nat) {s : Scientific} (whole : Whole s.digits) :
    Json.Word (exponential width s) := by
  have exponent : ∀ c ∈ 'e' :: (if s.exponent < 0 then '-' else '+') ::
      paddedNat width s.exponent.natAbs, Json.isWordChar c = true := by
    intro c member
    simp only [List.mem_cons] at member
    rcases member with rfl | rfl | member
    · decide
    · split <;> decide
    · exact ((allDigits_replicate _).append (allDigits_toDigits _)).wordChars c member
  have digits := whole.all.wordChars
  unfold exponential
  dsimp only
  split
  · rename_i first second rest split
    rw [split] at digits
    refine ⟨by simp, fun c member => ?_⟩
    rcases List.mem_append.mp member with member | member
    · simp only [List.mem_cons] at member digits
      rcases member with rfl | rfl | rfl | member
      · exact digits _ (.inl rfl)
      · decide
      · exact digits _ (.inr (.inl rfl))
      · exact digits c (.inr (.inr member))
    · exact exponent c member
  · refine ⟨by simp, fun c member => ?_⟩
    rcases List.mem_append.mp member with member | member
    · exact digits c member
    · exact exponent c member

theorem word_write (layout : Layout) (x : Finite) : Json.Word (layout.write x) := by
  have whole := (denotes_scientific x).whole
  unfold Layout.write
  change Json.Word (signed x.negative _)
  split
  · exact word_signed _ (word_positional whole)
  · exact word_signed _ (word_exponential _ whole)

end Binary64

end MarketSnapshot
