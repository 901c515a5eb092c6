import MarketSnapshot.Proofs.Constraints
import MarketSnapshot.Proofs.JsonMarks
import MarketSnapshot.Snapshot.Serializer

namespace MarketSnapshot

namespace Json

mutual

def leaves : Value → List (List String × Value)
  | .dict entries => entryLeaves entries
  | v => [([], v)]

def entryLeaves : List (String × Value) → List (List String × Value)
  | [] => []
  | (key, v) :: rest =>
    (leaves v).map (fun leaf => (key :: leaf.1, leaf.2)) ++ entryLeaves rest

end

theorem shownEntries_append (left right : List (String × Value)) :
    shownEntries (left ++ right) = shownEntries left ++ shownEntries right := by
  induction left with
  | nil => rfl
  | cons entry left ih =>
    simp only [List.cons_append, shownEntries, ih]

theorem entryLeaves_append (left right : List (String × Value)) :
    entryLeaves (left ++ right) = entryLeaves left ++ entryLeaves right := by
  induction left with
  | nil => rfl
  | cons entry left ih => simp only [List.cons_append, entryLeaves, ih, List.append_assoc]

end Json

namespace Snapshot

theorem build_schema (c : Content) : schema.build c =
    [("instrument", .leaf c.symbol), ("conId", .leaf c.conId), ("tickerId", .leaf c.tickerId),
      ("timestamp", .leaf c.timestamp),
      ("price", .node [("bid", .leaf c.bidPrice), ("ask", .leaf c.askPrice),
        ("last", .leaf c.lastPrice)]),
      ("size", .node [("bid", .leaf c.bidSize), ("ask", .leaf c.askSize),
        ("last", .leaf c.lastSize)]),
      ("timestamps", .node [("quote", .leaf c.quoteTimestamp),
        ("trade", .leaf c.tradeTimestamp)]),
      ("hasQuote", .leaf c.hasQuote), ("hasTrade", .leaf c.hasTrade),
      ("exchange", .leaf c.exchange),
      ("tickAttrib", .node [("pastLimit", .leaf c.pastLimit)])] := by
  simp [schema, Schema.build, Branch.put, Branch.below, Table.put, Table.find?]

def layout (number : Binary64 → Value) (s : InstrumentState) : Entries :=
  [("instrument", .text s.symbol), ("conId", s.conId), ("tickerId", .int s.tickerId),
    ("timestamp", .int (max s.quoteTimestamp s.tradeTimestamp)),
    ("price", .dict [("bid", number s.bidPrice), ("ask", number s.askPrice),
      ("last", number s.lastPrice)]),
    ("size", .dict [("bid", .int s.bidSize), ("ask", .int s.askSize), ("last", .int s.lastSize)]),
    ("timestamps", .dict [("quote", .int s.quoteTimestamp), ("trade", .int s.tradeTimestamp)]),
    ("hasQuote", .bool s.hasQuote), ("hasTrade", .bool s.hasTrade), ("exchange", .text s.exchange),
    ("tickAttrib", .dict [("pastLimit", .bool s.pastLimit)])]

def ending (withTime : Bool) (s : InstrumentState) : Entries :=
  if withTime then [("time", Serializer.timeValue s)] else []

theorem toValue_document (withTime : Bool) (s : InstrumentState) :
    (Document.node (Serializer.document ⟨withTime⟩ s)).toValue =
      .dict (layout .float s ++ ending withTime s) := by
  unfold Serializer.document ending
  dsimp only
  rw [build_schema]
  split
  · simp [Branch.put, Table.put, Document.toValue, Document.branchValues, content, layout,
      InstrumentState.latestTimestamp]
  · simp [Document.toValue, Document.branchValues, content, layout,
      InstrumentState.latestTimestamp]

theorem shown_layout {s : InstrumentState} (valid : s.Valid) :
    Json.shownEntries (layout .float s) = layout Json.shownNumber s := by
  obtain ⟨n, integer, _⟩ := valid.conId
  simp [layout, Json.shownEntries, Json.shown, integer]

theorem shown_ending (withTime : Bool) (s : InstrumentState) :
    Json.shownEntries (ending withTime s) = ending withTime s := by
  unfold ending Serializer.timeValue
  split
  · split <;> rfl
  · rfl

theorem leaves_layout {s : InstrumentState} (valid : s.Valid) :
    Json.entryLeaves (layout Json.shownNumber s) =
      schema.map fun entry => (entry.1, Json.shown (entry.2 (content s))) := by
  obtain ⟨n, integer, _⟩ := valid.conId
  have number : ∀ x, Json.leaves (Json.shownNumber x) = [([], Json.shownNumber x)] := by
    intro x
    cases x <;> rfl
  simp [layout, schema, content, Json.entryLeaves, Json.leaves, Json.shown, integer, number,
    InstrumentState.latestTimestamp]

theorem leaves_ending (withTime : Bool) (s : InstrumentState) :
    Json.entryLeaves (ending withTime s) =
      if withTime then [(["time"], Serializer.timeValue s)] else [] := by
  unfold ending Serializer.timeValue
  split
  · split <;> rfl
  · rfl

end Snapshot

namespace Serializer

theorem writable_int64 {n : Int} (range : Field.IsInt64 n) (levels : Nat) :
    Json.Writable levels (.int n) := by
  have within : Json.leastInt ≤ n ∧ n ≤ Json.greatestInt := by
    unfold Field.IsInt64 Field.integerMinimum Field.integerMaximum at range
    unfold Json.leastInt Json.greatestInt
    omega
  exact ⟨_, if_pos within⟩

theorem writable_layout {s : InstrumentState} (valid : s.Valid) (levels : Nat) :
    ∀ entry ∈ Snapshot.layout .float s, Json.Writable (levels + 1) entry.2 := by
  obtain ⟨n, integer, range⟩ := valid.conId
  have newest := Field.isInt64_max valid.quoteTimestamp valid.tradeTimestamp
  have price : Json.Writable (levels + 1) (.dict [("bid", .float s.bidPrice),
      ("ask", .float s.askPrice), ("last", .float s.lastPrice)]) :=
    Json.writable_dict (by simp [Json.writable_number])
  have size : Json.Writable (levels + 1) (.dict [("bid", .int s.bidSize),
      ("ask", .int s.askSize), ("last", .int s.lastSize)]) :=
    Json.writable_dict (by
      simp [writable_int64, valid.bidSize, valid.askSize, valid.lastSize])
  have times : Json.Writable (levels + 1) (.dict [("quote", .int s.quoteTimestamp),
      ("trade", .int s.tradeTimestamp)]) :=
    Json.writable_dict (by
      simp [writable_int64, valid.quoteTimestamp, valid.tradeTimestamp])
  have attributes : Json.Writable (levels + 1) (.dict [("pastLimit", .bool s.pastLimit)]) :=
    Json.writable_dict (by simp [Json.writable_flag])
  simp only [Snapshot.layout, List.forall_mem_cons, integer]
  exact ⟨Json.writable_text valid.symbol _, writable_int64 range _,
    writable_int64 valid.tickerId _, writable_int64 newest _, price, size, times,
    Json.writable_flag _ _, Json.writable_flag _ _, Json.writable_text valid.exchange _,
    attributes, by simp⟩

theorem writable_ending (withTime : Bool) (s : InstrumentState) (levels : Nat) :
    ∀ entry ∈ Snapshot.ending withTime s, Json.Writable levels entry.2 := by
  have encodable : ∀ text : String, (Text.ofString text).Encodable := by
    intro text
    simp [Text.encodable_iff, Text.ofString]
  have text : ∀ text : String, Json.Writable levels (.string text) :=
    fun text => Json.writable_text (encodable text) levels
  have null : Json.Writable levels .null := ⟨_, rfl⟩
  unfold Snapshot.ending timeValue
  split
  · split
    · simpa using text _
    · simpa using null
  · simp

theorem write_valid (serializer : Serializer) {s : InstrumentState} (valid : s.Valid) :
    ∃ text, serializer.write s = .ok text := by
  obtain ⟨withTime⟩ := serializer
  have values : ∀ entry ∈ Snapshot.layout .float s ++ Snapshot.ending withTime s,
      Json.Writable 253 entry.2 := by
    intro entry member
    rcases List.mem_append.mp member with member | member
    · exact writable_layout valid 252 entry member
    · exact writable_ending withTime s 253 entry member
  obtain ⟨cs, ok⟩ := Json.writable_dict values
  refine ⟨String.ofList cs, ?_⟩
  simp only [write, writeBranch, Snapshot.toValue_document]
  change (Json.writeWithin 254 _).map String.ofList = _
  rw [ok]
  rfl

theorem written_text {withTime : Bool} {s : InstrumentState} (valid : s.Valid) {text : String}
    (written : (Serializer.mk withTime).write s = .ok text) :
    (∀ c ∈ Json.outer .outside text.toList, Json.Visible c) ∧
      Json.read text.toList =
        some (.dict (Snapshot.layout Json.shownNumber s ++ Snapshot.ending withTime s)) := by
  simp only [write, writeBranch, Snapshot.toValue_document] at written
  cases outcome : Json.write (.dict (Snapshot.layout .float s ++ Snapshot.ending withTime s)) with
  | error e =>
    rw [outcome] at written
    cases written
  | ok cs =>
    rw [outcome] at written
    cases written
    have read := Json.read_written outcome
    simp only [Json.shown, Json.shownEntries_append, Snapshot.shown_layout valid,
      Snapshot.shown_ending] at read
    rw [String.toList_ofList]
    exact ⟨(Json.tidy_written _ outcome).outer, read⟩

/-- A state that reading accepts has a text, with the time or without it. The text has neither
blanks nor control characters outside its strings, and reads back as the fields of the state at
the paths of the schema, in its order, and the time after them where it is asked for. -/
theorem text_reads_back (settings : SerializerSettings) (withTime : Bool) {entries : Entries}
    {s : InstrumentState} (accepted : InstrumentState.read entries = .ok s) :
    ∃ text found n, (choose settings (.bool withTime)).write s = .ok text ∧
      (∀ c ∈ Json.outer .outside text.toList, Json.Visible c) ∧
      Json.read text.toList = some (.dict found) ∧
      found = Snapshot.layout Json.shownNumber s ++ Snapshot.ending withTime s ∧
      s.conId = .int n ∧
      Json.entryLeaves found =
        (Snapshot.schema.map fun entry => (entry.1, Json.shown (entry.2 (Snapshot.content s)))) ++
          if withTime then [(["time"], timeValue s)] else [] := by
  have valid := InstrumentState.valid_of_read accepted
  obtain ⟨n, integer, _⟩ := valid.conId
  obtain ⟨text, written⟩ := write_valid ⟨withTime⟩ valid
  obtain ⟨visible, read⟩ := written_text valid written
  refine ⟨text, _, n, written, visible, read, rfl, integer, ?_⟩
  rw [Json.entryLeaves_append, Snapshot.leaves_layout valid, Snapshot.leaves_ending]

def extreme : InstrumentState where
  symbol := Text.ofString "A\"B\\C\n😀"
  conId := .int 9223372036854775807
  tickerId := -9223372036854775808
  bidPrice := .nan
  askPrice := .infinite true
  bidSize := 9223372036854775807
  askSize := 0
  quoteTimestamp := -1
  hasQuote := true
  lastPrice := Binary64.zero
  lastSize := -9223372036854775808
  tradeTimestamp := 9223372036854775807
  hasTrade := false
  exchange := Text.ofChars [Char.ofNat 0, Char.ofNat 31, ' ']
  pastLimit := true

theorem text_reads_back_extreme :
    InstrumentState.read extreme.entries = .ok extreme ∧
      ∃ text, (choose ⟨[], false⟩ (.bool true)).write extreme = .ok text ∧
        Json.read text.toList = some (.dict
          [("instrument", .text extreme.symbol), ("conId", .int 9223372036854775807),
            ("tickerId", .int (-9223372036854775808)), ("timestamp", .int 9223372036854775807),
            ("price", .dict [("bid", .null), ("ask", .null), ("last", .float Binary64.zero)]),
            ("size", .dict [("bid", .int 9223372036854775807), ("ask", .int 0),
              ("last", .int (-9223372036854775808))]),
            ("timestamps", .dict [("quote", .int (-1)), ("trade", .int 9223372036854775807)]),
            ("hasQuote", .bool true), ("hasTrade", .bool false),
            ("exchange", .text extreme.exchange), ("tickAttrib", .dict [("pastLimit", .bool true)]),
            ("time", .null)]) := by
  have valid : extreme.Valid :=
    ⟨by decide, ⟨_, rfl, by decide⟩, by decide, by decide, by decide, by decide, by decide,
      by decide, by decide⟩
  have accepted := InstrumentState.read_entries valid
  obtain ⟨text, found, n, written, _, read, same, _, _⟩ :=
    text_reads_back ⟨[], false⟩ true accepted
  refine ⟨accepted, text, written, ?_⟩
  rw [read, same]
  rfl

end Serializer

end MarketSnapshot
