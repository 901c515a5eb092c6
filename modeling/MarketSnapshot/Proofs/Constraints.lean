import MarketSnapshot.Proofs.RecordRules

namespace MarketSnapshot

open MarketSnapshot.Field

structure InstrumentState.Valid (s : InstrumentState) : Prop where
  symbol : s.symbol.Encodable
  conId : ∃ n, s.conId = .int n ∧ IsInt64 n
  tickerId : IsInt64 s.tickerId
  bidSize : IsInt64 s.bidSize
  askSize : IsInt64 s.askSize
  quoteTimestamp : IsInt64 s.quoteTimestamp
  lastSize : IsInt64 s.lastSize
  tradeTimestamp : IsInt64 s.tradeTimestamp
  exchange : s.exchange.Encodable

structure TickUpdate.Valid (u : TickUpdate) : Prop where
  tickerId : IsInt64 u.tickerId
  timestamp : IsInt64 u.timestamp
  bidSize : IsInt64 u.bidSize
  askSize : IsInt64 u.askSize
  lastSize : IsInt64 u.lastSize
  exchange : u.exchange.Encodable

instance (u : TickUpdate) : Decidable u.Valid :=
  decidable_of_iff
    (IsInt64 u.tickerId ∧ IsInt64 u.timestamp ∧ IsInt64 u.bidSize ∧ IsInt64 u.askSize ∧
      IsInt64 u.lastSize ∧ u.exchange.Encodable)
    ⟨fun ⟨tickerId, timestamp, bidSize, askSize, lastSize, exchange⟩ =>
      ⟨tickerId, timestamp, bidSize, askSize, lastSize, exchange⟩,
    fun valid => ⟨valid.tickerId, valid.timestamp, valid.bidSize, valid.askSize, valid.lastSize,
      valid.exchange⟩⟩

namespace InstrumentState

theorem valid_iff_fits (s : InstrumentState) :
    s.Valid ↔ List.Forall₂ Rule.Fits rules s.entries := by
  simp only [rules, entries, List.forall₂_cons, fits_required, Kind.Holds, Value.text.injEq,
    exists_eq_left', fits_integer, Value.int.injEq, fits_number, fits_flag, fits_text,
    List.forall₂_nil_right_iff, and_true, true_and]
  constructor
  · intro valid
    exact ⟨valid.symbol, valid.conId, valid.tickerId, valid.bidSize, valid.askSize,
      valid.quoteTimestamp, valid.lastSize, valid.tradeTimestamp, valid.exchange⟩
  · rintro ⟨symbol, conId, tickerId, bidSize, askSize, quote, lastSize, trade, exchange⟩
    exact ⟨symbol, conId, tickerId, bidSize, askSize, quote, lastSize, trade, exchange⟩

theorem valid_of_read {entries : Entries} {s : InstrumentState} (accepted : read entries = .ok s) :
    s.Valid :=
  (valid_iff_fits s).mpr (readBy.fits entries s accepted)

theorem read_arranged {s : InstrumentState} (valid : s.Valid) {given : Entries}
    (arranged : given.Perm s.entries) : read given = .ok s :=
  readBy.read_arranged entries_injective ((valid_iff_fits s).mp valid) arranged

theorem read_entries {s : InstrumentState} (valid : s.Valid) : read s.entries = .ok s :=
  read_arranged valid (.refl _)

theorem read_entries_iff (s : InstrumentState) : read s.entries = .ok s ↔ s.Valid :=
  ⟨valid_of_read, read_entries⟩

theorem Valid.merge {s : InstrumentState} {u : TickUpdate} (valid : s.Valid) (tick : u.Valid) :
    (s.merge u).Valid := by
  unfold InstrumentState.merge
  cases u.side with
  | bidAsk =>
    exact { valid with
      tickerId := tick.tickerId
      bidSize := tick.bidSize
      askSize := tick.askSize
      quoteTimestamp := tick.timestamp }
  | allLast =>
    have exchange : Text.Encodable (if u.exchange.isEmpty then s.exchange else u.exchange) := by
      split
      · exact valid.exchange
      · exact tick.exchange
    exact { valid with
      tickerId := tick.tickerId
      lastSize := tick.lastSize
      tradeTimestamp := tick.timestamp
      exchange := exchange }

end InstrumentState

namespace TickUpdate

theorem valid_iff_fits (u : TickUpdate) :
    u.Valid ↔ List.Forall₂ Rule.Fits rules u.entries := by
  have side : Value.string u.side.name = .string "bid_ask" ∨
      Value.string u.side.name = .string "all_last" := by
    cases u.side with
    | bidAsk => exact .inl rfl
    | allLast => exact .inr rfl
  simp only [rules, entries, List.forall₂_cons, fits_required, Kind.Holds, Value.int.injEq,
    exists_eq_left', fits_integer, fits_number, fits_flag, fits_text,
    List.forall₂_nil_right_iff, and_true, true_and, side]
  constructor
  · intro valid
    exact ⟨valid.tickerId, valid.timestamp, valid.bidSize, valid.askSize, valid.lastSize,
      valid.exchange⟩
  · rintro ⟨tickerId, timestamp, bidSize, askSize, lastSize, exchange⟩
    exact ⟨tickerId, timestamp, bidSize, askSize, lastSize, exchange⟩

theorem valid_of_read {entries : Entries} {u : TickUpdate} (accepted : read entries = .ok u) :
    u.Valid :=
  (valid_iff_fits u).mpr (readBy.fits entries u accepted)

theorem read_arranged {u : TickUpdate} (valid : u.Valid) {given : Entries}
    (arranged : given.Perm u.entries) : read given = .ok u :=
  readBy.read_arranged entries_injective ((valid_iff_fits u).mp valid) arranged

end TickUpdate

end MarketSnapshot
