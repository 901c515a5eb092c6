import MarketSnapshot.Proofs.FieldRules

namespace MarketSnapshot

open MarketSnapshot.Field

namespace InstrumentState

def rules : List Rule :=
  [.required "symbol" .text, .integer "con_id", .integer "ticker_id", .number "bid_price",
    .number "ask_price", .integer "bid_size", .integer "ask_size", .integer "quote_timestamp",
    .flag "has_quote", .number "last_price", .integer "last_size", .integer "trade_timestamp",
    .flag "has_trade", .text "exchange", .flag "past_limit"]

theorem checkedBy_symbol (given : Entries) :
    CheckedBy (.required "symbol" .text) given .text
      (Field.required given "symbol" readEncodableText) :=
  checkedBy_required (.required "symbol" .text) (fun _ => rfl) rfl given

theorem issues_check (given : Entries) :
    (check given).issues =
      rules.filterMap (·.issue? given) ++ unexpected given (rules.map Rule.name) := by
  have names : rules.map Rule.name = fieldNames := rfl
  -- Both sides join the issues of the fields in one order, so it is enough to compare them in turn.
  have integer := fun name => (checkedBy_integer given name).issues
  have number := fun name => (checkedBy_number given name).issues
  have flag := fun name => (checkedBy_flag given name).issues
  have symbol := (checkedBy_symbol given).issues
  have exchange := (checkedBy_text given "exchange").issues
  rw [names, List.filterMap_eq_flatMap_toList]
  simp only [check, Checked.issues_also, Checked.issues_apply, integer, number, flag, symbol,
    exchange, rules, List.flatMap_cons, List.flatMap_nil, Checked.issues_valid, List.nil_append,
    List.append_nil, List.append_assoc]

theorem values_check (given : Entries) :
    (check given).Holds fun s => List.Forall₂ (Rule.Makes given) rules s.entries := by
  have integer := fun name => (checkedBy_integer given name).outcome
  have number := fun name => (checkedBy_number given name).outcome
  have flag := fun name => (checkedBy_flag given name).outcome
  have symbol := (checkedBy_symbol given).outcome
  have exchange := (checkedBy_text given "exchange").outcome
  refine Checked.Holds.also (Checked.Holds.valid ?_ |>.apply symbol |>.apply (integer _)
    |>.apply (integer _) |>.apply (number _) |>.apply (number _) |>.apply (integer _)
    |>.apply (integer _) |>.apply (integer _) |>.apply (flag _) |>.apply (number _)
    |>.apply (integer _) |>.apply (integer _) |>.apply (flag _) |>.apply exchange
    |>.apply (flag _)) _
  intro _ symbol _ conId _ tickerId _ bidPrice _ askPrice _ bidSize _ askSize _ quoteTimestamp _
    hasQuote _ lastPrice _ lastSize _ tradeTimestamp _ hasTrade _ exchange _ pastLimit
  simp only [rules, entries, List.forall₂_cons]
  exact ⟨⟨rfl, symbol⟩, ⟨rfl, conId⟩, ⟨rfl, tickerId⟩, ⟨rfl, bidPrice⟩, ⟨rfl, askPrice⟩,
    ⟨rfl, bidSize⟩, ⟨rfl, askSize⟩, ⟨rfl, quoteTimestamp⟩, ⟨rfl, hasQuote⟩, ⟨rfl, lastPrice⟩,
    ⟨rfl, lastSize⟩, ⟨rfl, tradeTimestamp⟩, ⟨rfl, hasTrade⟩, ⟨rfl, exchange⟩, ⟨rfl, pastLimit⟩,
    .nil⟩

theorem readBy : ReadBy subject rules read entries :=
  readBy_of_check (by decide) issues_check values_check

theorem entries_injective : Function.Injective entries := by
  intro s t same
  cases s
  cases t
  simpa [entries] using same

end InstrumentState

namespace TickUpdate

def rules : List Rule :=
  [.required "ticker_id" .integer, .required "type" .side, .integer "timestamp",
    .number "bid_price", .number "ask_price", .integer "bid_size", .integer "ask_size",
    .number "last_price", .integer "last_size", .flag "past_limit", .text "exchange"]

theorem checkedBy_tickerId (given : Entries) :
    CheckedBy (.required "ticker_id" .integer) given .int
      (Field.required given "ticker_id" readInt64) :=
  checkedBy_required (.required "ticker_id" .integer) (fun _ => rfl) rfl given

theorem checkedBy_side (given : Entries) :
    CheckedBy (.required "type" .side) given (fun side => .string side.name)
      (Field.required given "type" Side.read) :=
  checkedBy_required (.required "type" .side) (fun _ => rfl) rfl given

theorem issues_check (given : Entries) :
    (check given).issues =
      rules.filterMap (·.issue? given) ++ unexpected given (rules.map Rule.name) := by
  have names : rules.map Rule.name = fieldNames := rfl
  have integer := fun name => (checkedBy_integer given name).issues
  have number := fun name => (checkedBy_number given name).issues
  have flag := (checkedBy_flag given "past_limit").issues
  have tickerId := (checkedBy_tickerId given).issues
  have side := (checkedBy_side given).issues
  have exchange := (checkedBy_text given "exchange").issues
  rw [names, List.filterMap_eq_flatMap_toList]
  simp only [check, Checked.issues_also, Checked.issues_apply, integer, number, flag, tickerId,
    side, exchange, rules, List.flatMap_cons, List.flatMap_nil, Checked.issues_valid,
    List.nil_append, List.append_nil, List.append_assoc]

theorem values_check (given : Entries) :
    (check given).Holds fun u => List.Forall₂ (Rule.Makes given) rules u.entries := by
  have integer := fun name => (checkedBy_integer given name).outcome
  have number := fun name => (checkedBy_number given name).outcome
  have flag := (checkedBy_flag given "past_limit").outcome
  have tickerId := (checkedBy_tickerId given).outcome
  have side := (checkedBy_side given).outcome
  have exchange := (checkedBy_text given "exchange").outcome
  refine Checked.Holds.also (Checked.Holds.valid ?_ |>.apply tickerId |>.apply side
    |>.apply (integer _) |>.apply (number _) |>.apply (number _) |>.apply (integer _)
    |>.apply (integer _) |>.apply (number _) |>.apply (integer _) |>.apply flag
    |>.apply exchange) _
  intro _ tickerId _ side _ timestamp _ bidPrice _ askPrice _ bidSize _ askSize _ lastPrice _
    lastSize _ pastLimit _ exchange
  simp only [rules, entries, List.forall₂_cons]
  exact ⟨⟨rfl, tickerId⟩, ⟨rfl, side⟩, ⟨rfl, timestamp⟩, ⟨rfl, bidPrice⟩, ⟨rfl, askPrice⟩,
    ⟨rfl, bidSize⟩, ⟨rfl, askSize⟩, ⟨rfl, lastPrice⟩, ⟨rfl, lastSize⟩, ⟨rfl, pastLimit⟩,
    ⟨rfl, exchange⟩, .nil⟩

theorem readBy : ReadBy subject rules read entries :=
  readBy_of_check (by decide) issues_check values_check

theorem entries_injective : Function.Injective entries := by
  have side : ∀ left right : Side, Value.string left.name = .string right.name → left = right := by
    intro left right
    cases left <;> cases right <;> simp [Value.string, Side.name, Text.ofString, Text.ofChars]
  intro u v same
  cases u
  cases v
  simp only [entries, List.cons.injEq, Prod.mk.injEq, Value.int.injEq, Value.float.injEq,
    Value.bool.injEq, Value.text.injEq] at same
  grind

end TickUpdate

namespace Field

/-- Both kinds of record are read field by field, and refused with all that is wrong with them. -/
theorem records_read_by_rules :
    ReadNamedBy "InstrumentState" InstrumentState.rules InstrumentState.readNamed
        InstrumentState.entries ∧
      ReadNamedBy "TickUpdate" TickUpdate.rules TickUpdate.readNamed TickUpdate.entries :=
  ⟨InstrumentState.readBy.readNamedBy, TickUpdate.readBy.readNamedBy⟩

def faultyState : Entries :=
  [("zeta", .null), ("ask_size", .string "9223372036854775808"),
    ("bid_size", .float (Binary64.pack false (3 * Nat.pow 2 51) 1022)),
    ("exchange", .text [.surrogate 0]), ("alpha", .int 1), ("has_quote", .string "on")]

theorem records_read_by_rules_all_faults :
    ∃ rejection, InstrumentState.readNamed (named faultyState) = .error rejection ∧
      rejection.issues = [⟨"symbol", .missing⟩, ⟨"bid_size", .fractional⟩,
        ⟨"ask_size", .aboveMaximum⟩, ⟨"exchange", .notEncodable [.surrogate 0]⟩,
        ⟨"zeta", .unexpected⟩, ⟨"alpha", .unexpected⟩] ∧
      rejection.message = "6 validation errors for InstrumentState" := by
  obtain ⟨⟨ruled, _, _⟩, _⟩ := records_read_by_rules
  cases read : InstrumentState.readNamed (named faultyState) with
  | ok s =>
    have accepted := ((ruled.accepts faultyState).mp ⟨s, read⟩).1
    have given := (accepted (.required "symbol" .text) (List.mem_cons_self ..)).1 rfl
    cases given
  | error rejection =>
    obtain ⟨_, listed, _, _, counted⟩ := ruled.refuses faultyState rejection read
    have issues : rejection.issues = [⟨"symbol", .missing⟩, ⟨"bid_size", .fractional⟩,
        ⟨"ask_size", .aboveMaximum⟩, ⟨"exchange", .notEncodable [.surrogate 0]⟩,
        ⟨"zeta", .unexpected⟩, ⟨"alpha", .unexpected⟩] := by
      rw [listed]
      decide +kernel
    rw [issues] at counted
    exact ⟨rejection, rfl, issues, counted⟩

/-- Neither the symbol that is left out nor the name that no rule knows is reported. -/
theorem cut_name_hides_other_issues :
    ∃ rejection, InstrumentState.readNamed [([.surrogate 128], .int 1)] = .error rejection ∧
      ⟨some "symbol", .missing⟩ ∉ rejection.issues ∧
      (∀ issue ∈ rejection.issues, issue.cause ≠ .unexpected) ∧
      rejection.message = "1 validation error for InstrumentState" :=
  ⟨⟨"InstrumentState", [⟨none, .undecodable⟩]⟩, by rfl, by decide, by decide, by decide⟩

end Field

end MarketSnapshot
