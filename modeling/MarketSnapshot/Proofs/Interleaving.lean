import MarketSnapshot.Proofs.Publishing

namespace MarketSnapshot

open Book (Action Follows routeAfter entriesOf merged routed lastWritten)

namespace Book

def leadsTo (actions : List Action) (symbol : Text) (u : TickUpdate) : Bool :=
  routeAfter actions u.tickerId = some symbol

theorem leadsTo_iff {actions : List Action} {symbol : Text} {u : TickUpdate} :
    leadsTo actions symbol u = true ↔ routeAfter actions u.tickerId = some symbol := by
  simp [leadsTo]

theorem run_append (book : Book) (actions rest : List Action) :
    book.run (actions ++ rest) = (book.run actions).run rest := by
  simp [run, List.foldl_append]

theorem registrations_ticks (actions : List Action) (ticks : List TickUpdate) :
    registrations (actions ++ ticks.map .apply) = registrations actions := by
  simp [registrations, List.filterMap_append, Action.registration?]

theorem routeAfter_ticks (actions : List Action) (ticks : List TickUpdate) (tickerId : Int) :
    routeAfter (actions ++ ticks.map .apply) tickerId = routeAfter actions tickerId := by
  simp only [routeAfter, registrations_ticks]

theorem routed_ticks (symbol : Text) (actions : List Action) (ticks : List TickUpdate) :
    routed symbol (actions ++ ticks.map .apply) =
      routed symbol actions ++ ticks.filter (leadsTo actions symbol) := by
  induction ticks using List.reverseRecOn with
  | nil => simp
  | append_singleton ticks u ih =>
    have shape : actions ++ (ticks ++ [u]).map .apply =
        actions ++ ticks.map .apply ++ [.apply u] := by simp
    unfold routed at ih ⊢
    rw [shape, ticksAfter_apply, ih, routeAfter_ticks, List.filter_append, List.append_assoc]
    congr 2
    by_cases leads : routeAfter actions u.tickerId = some symbol <;> simp [leadsTo, leads]

theorem symbolFor?_apply (book : Book) (u : TickUpdate) (tickerId : Value) :
    (book.apply u).1.symbolFor? tickerId = book.symbolFor? tickerId := by
  rcases apply_cases book u with ⟨kept, _⟩ | ⟨symbol, s, _, _, outcome⟩
  · rw [kept]
  · rw [outcome]
    rfl

theorem state?_apply_foreign {book : Book} {u : TickUpdate} {symbol : Text}
    (foreign : book.symbolFor? (.int u.tickerId) ≠ some (.text symbol)) :
    (book.apply u).1.state? symbol = book.state? symbol := by
  rcases apply_cases book u with ⟨kept, _⟩ | ⟨other, s, route, _, outcome⟩
  · rw [kept]
  · have different : other ≠ symbol := by
      rintro rfl
      exact foreign route
    rw [outcome, state?_setState, if_neg different]

def Labelled (book : Book) : Prop := ∀ symbol s, book.state? symbol = some s → s.symbol = symbol

theorem Follows.labelled {actions : List Action} {book : Book} (follows : Follows actions book) :
    book.Labelled := by
  intro symbol s known
  rw [follows.states symbol] at known
  split at known
  · cases known
  · cases known
    rfl

theorem merge_symbol (s : InstrumentState) (u : TickUpdate) : (s.merge u).symbol = s.symbol := by
  unfold InstrumentState.merge
  cases u.side <;> rfl

theorem Labelled.setState {book : Book} (labelled : book.Labelled) {symbol : Text}
    {s : InstrumentState} (own : s.symbol = symbol) : (book.setState symbol s).Labelled := by
  intro other found stored
  rw [state?_setState] at stored
  split at stored
  · rename_i same
    cases stored
    exact own.trans same
  · exact labelled other found stored

theorem Labelled.apply {book : Book} (labelled : book.Labelled) (u : TickUpdate) :
    (book.apply u).1.Labelled := by
  rcases apply_cases book u with ⟨kept, _⟩ | ⟨symbol, s, _, known, outcome⟩
  · rwa [kept]
  · rw [outcome]
    exact labelled.setState ((merge_symbol s u).trans (labelled symbol s known))

end Book

namespace Pipeline

open Book (leadsTo leadsTo_iff)

def feed (pipeline : Pipeline) (ticks : List TickUpdate) : Pipeline :=
  ticks.foldl (fun current u => (current.process u).pipeline) pipeline

def outcomes (pipeline : Pipeline) :
    List TickUpdate → List (Except Failure (Option SnapshotMessage))
  | [] => []
  | u :: rest => (pipeline.process u).outcome :: (pipeline.process u).pipeline.outcomes rest

def messagesOf (symbol : Text) (told : List (Except Failure (Option SnapshotMessage))) :
    List SnapshotMessage :=
  (told.filterMap fun outcome => outcome.toOption.join).filter (·.symbol = symbol)

theorem messagesOf_cons (symbol : Text) (outcome : Except Failure (Option SnapshotMessage))
    (told : List (Except Failure (Option SnapshotMessage))) :
    messagesOf symbol (outcome :: told) =
      messagesOf symbol [outcome] ++ messagesOf symbol told := by
  unfold messagesOf
  rw [← List.filter_append, ← List.filterMap_append]
  rfl

theorem messagesOf_of_silent {symbol : Text} {outcome : Except Failure (Option SnapshotMessage)}
    (silent : ∀ m, outcome = .ok (some m) → m.symbol ≠ symbol) :
    messagesOf symbol [outcome] = [] := by
  cases outcome with
  | error failure => rfl
  | ok emitted =>
    cases emitted with
    | none => rfl
    | some m => simp [messagesOf, Except.toOption, silent m rfl]

theorem message_symbol {pipeline : Pipeline} {s : InstrumentState} {m : SnapshotMessage}
    (written : pipeline.message s = .ok m) : m.symbol = s.symbol := by
  unfold message at written
  split at written
  · cases written
  · cases written
  · cases written
    rfl

theorem merged_of_message {pipeline : Pipeline} {applied : Book.Applied} {m : SnapshotMessage}
    (told : pipeline.verdict applied = .ok (some m)) :
    ∃ s, applied = .merged s ∧ m.symbol = s.symbol := by
  cases applied with
  | unknownTicker => cases told
  | notKey e => cases told
  | noState symbol => cases told
  | merged s =>
    refine ⟨s, rfl, ?_⟩
    simp only [verdict] at told
    split at told
    · cases written : pipeline.message s with
      | error e =>
        rw [written] at told
        cases told
      | ok sent =>
        rw [written] at told
        cases told
        exact message_symbol written
    · cases told

theorem feed_cons (pipeline : Pipeline) (u : TickUpdate) (ticks : List TickUpdate) :
    pipeline.feed (u :: ticks) = (pipeline.process u).pipeline.feed ticks := rfl

theorem feed_book (pipeline : Pipeline) (ticks : List TickUpdate) :
    (pipeline.feed ticks).book = pipeline.book.run (ticks.map .apply) := by
  induction ticks generalizing pipeline with
  | nil => rfl
  | cons u ticks ih =>
    rw [feed_cons, ih, process_pipeline]
    rfl

theorem symbolFor?_feed (pipeline : Pipeline) (ticks : List TickUpdate) (tickerId : Value) :
    (pipeline.feed ticks).book.symbolFor? tickerId = pipeline.book.symbolFor? tickerId := by
  induction ticks generalizing pipeline with
  | nil => rfl
  | cons u ticks ih =>
    rw [feed_cons, ih, process_pipeline]
    exact Book.symbolFor?_apply pipeline.book u tickerId

/-- Two pipelines that look the same to the subscribers of one symbol. -/
structure AlikeFor (actions : List Action) (symbol : Text) (left right : Pipeline) : Prop where
  left_routes : ∀ tickerId : Int,
    left.book.symbolFor? (.int tickerId) = (routeAfter actions tickerId).map Value.text
  right_routes : ∀ tickerId : Int,
    right.book.symbolFor? (.int tickerId) = (routeAfter actions tickerId).map Value.text
  state : left.book.state? symbol = right.book.state? symbol
  labelled : left.book.Labelled
  serializer : left.serializer = right.serializer
  channelPrefix : left.channelPrefix = right.channelPrefix

namespace AlikeFor

variable {actions : List Action} {symbol : Text} {left right : Pipeline}

theorem refl {pipeline : Pipeline} (follows : Follows actions pipeline.book) :
    AlikeFor actions symbol pipeline pipeline :=
  ⟨follows.routes, follows.routes, rfl, follows.labelled, rfl, rfl⟩

theorem foreign (alike : AlikeFor actions symbol left right) {u : TickUpdate}
    (elsewhere : routeAfter actions u.tickerId ≠ some symbol) :
    AlikeFor actions symbol (left.process u).pipeline right ∧
      ∀ m, (left.process u).outcome = .ok (some m) → m.symbol ≠ symbol := by
  have route : left.book.symbolFor? (.int u.tickerId) ≠ some (.text symbol) := by
    rw [alike.left_routes]
    simpa using elsewhere
  rw [process_pipeline, process_outcome]
  constructor
  · exact {
      left_routes := fun tickerId =>
        (Book.symbolFor?_apply _ u _).trans (alike.left_routes tickerId)
      right_routes := alike.right_routes
      state := (Book.state?_apply_foreign route).trans alike.state
      labelled := alike.labelled.apply u
      serializer := alike.serializer
      channelPrefix := alike.channelPrefix }
  · intro m told
    obtain ⟨s, merged, same⟩ := merged_of_message told
    rcases Book.apply_cases left.book u with ⟨_, lost⟩ | ⟨other, before, leads, known, outcome⟩
    · exact absurd merged (lost s)
    · rw [outcome] at merged
      cases merged
      rw [same, Book.merge_symbol, alike.labelled other before known]
      rintro rfl
      exact route leads

theorem own (alike : AlikeFor actions symbol left right) {u : TickUpdate}
    (leads : routeAfter actions u.tickerId = some symbol) :
    (left.process u).outcome = (right.process u).outcome ∧
      AlikeFor actions symbol (left.process u).pipeline (right.process u).pipeline := by
  have left_route : left.book.symbolFor? (.int u.tickerId) = some (.text symbol) := by
    rw [alike.left_routes, leads]
    rfl
  have right_route : right.book.symbolFor? (.int u.tickerId) = some (.text symbol) := by
    rw [alike.right_routes, leads]
    rfl
  have same : (left.book.apply u).2 = (right.book.apply u).2 ∧
      (left.book.apply u).1.state? symbol = (right.book.apply u).1.state? symbol := by
    have state := alike.state
    cases known : left.book.state? symbol with
    | none =>
      rw [known] at state
      rw [Book.apply_lost left_route known, Book.apply_lost right_route state.symm]
      exact ⟨rfl, alike.state⟩
    | some s =>
      rw [known] at state
      rw [Book.apply_known left_route known, Book.apply_known right_route state.symm]
      simp [Book.state?_setState]
  have verdicts : left.verdict = right.verdict := by
    funext applied
    unfold verdict message
    rw [alike.serializer, alike.channelPrefix]
  rw [process_pipeline, process_pipeline, process_outcome, process_outcome]
  constructor
  · rw [verdicts, same.1]
  · exact {
      left_routes := fun tickerId =>
        (Book.symbolFor?_apply _ u _).trans (alike.left_routes tickerId)
      right_routes := fun tickerId =>
        (Book.symbolFor?_apply _ u _).trans (alike.right_routes tickerId)
      state := same.2
      labelled := alike.labelled.apply u
      serializer := alike.serializer
      channelPrefix := alike.channelPrefix }

theorem feed (alike : AlikeFor actions symbol left right) (ticks : List TickUpdate) :
    messagesOf symbol (left.outcomes ticks) =
        messagesOf symbol (right.outcomes (ticks.filter (leadsTo actions symbol))) ∧
      AlikeFor actions symbol (left.feed ticks)
        (right.feed (ticks.filter (leadsTo actions symbol))) := by
  induction ticks generalizing left right with
  | nil => exact ⟨rfl, alike⟩
  | cons u ticks ih =>
    by_cases leads : routeAfter actions u.tickerId = some symbol
    · obtain ⟨told, next⟩ := alike.own leads
      obtain ⟨same, after⟩ := ih next
      rw [List.filter_cons_of_pos (leadsTo_iff.mpr leads)]
      refine ⟨?_, after⟩
      rw [outcomes, outcomes, messagesOf_cons, told, same, ← messagesOf_cons]
    · obtain ⟨next, silent⟩ := alike.foreign leads
      obtain ⟨same, after⟩ := ih next
      rw [List.filter_cons_of_neg (mt leadsTo_iff.mp leads)]
      refine ⟨?_, after⟩
      rw [outcomes, messagesOf_cons, messagesOf_of_silent silent, List.nil_append, same]

end AlikeFor

theorem process_returns {pipeline : Pipeline} {actions : List Action} {u : TickUpdate}
    {leading : Text} (channel : pipeline.channelPrefix = some leading)
    (follows : Follows actions pipeline.book)
    (accepted : ∀ a ∈ actions ++ [.apply u], a.Accepted) :
    ∃ emitted, (pipeline.process u).outcome = .ok emitted := by
  cases route : routeAfter actions u.tickerId with
  | none =>
    have nowhere : pipeline.book.symbolFor? (.int u.tickerId) = none := by
      rw [follows.routes, route]
      rfl
    rw [process_outcome, Book.apply_unknown nowhere]
    exact ⟨none, rfl⟩
  | some symbol =>
    obtain ⟨_, _, _, _, _, outcome⟩ := process_of_follows follows channel accepted route
    exact ⟨_, outcome⟩

theorem outcomes_return {pipeline : Pipeline} {actions : List Action} {ticks : List TickUpdate}
    {leading : Text} (channel : pipeline.channelPrefix = some leading)
    (follows : Follows actions pipeline.book) (accepted : ∀ a ∈ actions, a.Accepted)
    (valid : ∀ u ∈ ticks, u.Valid) :
    ∀ told ∈ pipeline.outcomes ticks, ∃ emitted, told = .ok emitted := by
  induction ticks generalizing pipeline actions with
  | nil => simp [outcomes]
  | cons u ticks ih =>
    have longer : ∀ a ∈ actions ++ [.apply u], a.Accepted := by
      intro a member
      rcases List.mem_append.mp member with member | member
      · exact accepted a member
      · rw [List.mem_singleton.mp member]
        exact valid u (by simp)
    have next : Follows (actions ++ [.apply u]) (pipeline.process u).pipeline.book := by
      rw [process_pipeline]
      exact follows.apply u
    have kept : (pipeline.process u).pipeline.channelPrefix = some leading := by
      rw [process_pipeline]
      exact channel
    have later := ih kept next longer fun v member => valid v (List.mem_cons_of_mem u member)
    intro told member
    rcases List.mem_cons.mp member with rfl | member
    · exact process_returns channel follows longer
    · exact later told member

/-- Two streams with the same ticks of one symbol give the same messages for it and leave it in the
same state, whatever else they carry. No tick fails if the prefix of the channels has a text. -/
theorem messages_isolated (actions : List Action) (accepted : ∀ a ∈ actions, a.Accepted)
    (pipeline : Pipeline) (reached : pipeline.book = Book.empty.run actions) (symbol : Text)
    (us vs : List TickUpdate) (us_valid : ∀ u ∈ us, u.Valid) (vs_valid : ∀ v ∈ vs, v.Valid)
    (same : us.filter (leadsTo actions symbol) = vs.filter (leadsTo actions symbol)) :
    (pipeline.channelPrefix.isSome = true →
      ∀ told ∈ pipeline.outcomes us ++ pipeline.outcomes vs, ∃ emitted, told = .ok emitted) ∧
    messagesOf symbol (pipeline.outcomes us) = messagesOf symbol (pipeline.outcomes vs) ∧
    (pipeline.feed us).book.state? symbol = (pipeline.feed vs).book.state? symbol := by
  have follows : Follows actions pipeline.book := by
    rw [reached]
    exact Book.run_follows actions
  have alike : AlikeFor actions symbol pipeline pipeline := AlikeFor.refl follows
  obtain ⟨us_messages, us_after⟩ := alike.feed us
  obtain ⟨vs_messages, vs_after⟩ := alike.feed vs
  rw [← same] at vs_messages vs_after
  refine ⟨?_, us_messages.trans vs_messages.symm, us_after.state.trans vs_after.state.symm⟩
  intro prefixed told member
  obtain ⟨leading, channel⟩ := Option.isSome_iff_exists.mp prefixed
  rcases List.mem_append.mp member with member | member
  · exact outcomes_return channel follows accepted us_valid told member
  · exact outcomes_return channel follows accepted vs_valid told member

def twoSymbols : List Action :=
  [.register ⟨1, [.char 'A'], 7⟩, .register ⟨2, [.char 'B'], 0⟩]

def quoteOf (tickerId : Int) : TickUpdate :=
  ⟨tickerId, .bidAsk, 100, Binary64.one, Binary64.one, 3, 4, Binary64.zero, 0, false, []⟩

def tradeOf (tickerId : Int) : TickUpdate :=
  ⟨tickerId, .allLast, 90, Binary64.zero, Binary64.zero, 0, 0, Binary64.one, 5, true, [.char 'N']⟩

theorem messages_isolated_among_others :
    let pipeline : Pipeline := ⟨Book.empty.run twoSymbols, ⟨false⟩, some [.char 'P'], ⟨0, 0, 0⟩⟩
    let alone := [quoteOf 1, tradeOf 1]
    let among := [tradeOf 2, quoteOf 1, tradeOf 9, quoteOf 2, tradeOf 1]
    messagesOf [.char 'A'] (pipeline.outcomes alone) =
        messagesOf [.char 'A'] (pipeline.outcomes among) ∧
      (messagesOf [.char 'A'] (pipeline.outcomes alone)).length = 1 := by
  intro pipeline alone among
  have isolated := messages_isolated twoSymbols (by decide) pipeline rfl [.char 'A'] alone among
    (by decide) (by decide) (by decide)
  exact ⟨isolated.2.1, by decide +kernel⟩

theorem unknown_iff {actions : List Action} {book : Book} (follows : Follows actions book)
    (u : TickUpdate) :
    (book.apply u).2 = .unknownTicker ↔ routeAfter actions u.tickerId = none := by
  have routes := follows.routes u.tickerId
  cases route : routeAfter actions u.tickerId with
  | none =>
    rw [route] at routes
    rw [Book.apply_unknown routes]
    exact ⟨fun _ => rfl, fun _ => rfl⟩
  | some symbol =>
    rw [route] at routes
    refine ⟨fun unknown => ?_, fun absent => by cases absent⟩
    cases known : book.state? symbol with
    | none =>
      rw [Book.apply_lost routes known] at unknown
      cases unknown
    | some s =>
      rw [Book.apply_known routes known] at unknown
      cases unknown

theorem dropped_process {pipeline : Pipeline} {actions : List Action}
    (follows : Follows actions pipeline.book) (u : TickUpdate) :
    (pipeline.process u).pipeline.counters.dropped = pipeline.counters.dropped +
      if routeAfter actions u.tickerId = none then 1 else 0 := by
  rw [process_pipeline]
  by_cases unknown : routeAfter actions u.tickerId = none
  · simp [counted, (unknown_iff follows u).mpr unknown, unknown]
  · have known := mt (unknown_iff follows u).mp unknown
    cases applied : (pipeline.book.apply u).2 with
    | unknownTicker => exact absurd applied known
    | _ => simp [counted, unknown]

theorem feed_counters {pipeline : Pipeline} {actions : List Action}
    (follows : Follows actions pipeline.book) (ticks : List TickUpdate) :
    (pipeline.feed ticks).counters.processed = pipeline.counters.processed + ticks.length ∧
      (pipeline.feed ticks).counters.dropped = pipeline.counters.dropped +
        ticks.countP fun u => routeAfter actions u.tickerId = none := by
  induction ticks generalizing pipeline actions with
  | nil => exact ⟨rfl, rfl⟩
  | cons u ticks ih =>
    have next : Follows (actions ++ [.apply u]) (pipeline.process u).pipeline.book := by
      rw [process_pipeline]
      exact follows.apply u
    have routes : ∀ tickerId, routeAfter (actions ++ [.apply u]) tickerId =
        routeAfter actions tickerId := Book.routeAfter_ticks actions [u]
    obtain ⟨processed, dropped⟩ := ih next
    simp only [routes] at dropped
    constructor
    · rw [feed_cons, processed, process_pipeline, List.length_cons]
      simp only [counted]
      omega
    · rw [feed_cons, dropped, dropped_process follows u, List.countP_cons]
      simp only [decide_eq_true_eq]
      omega

end Pipeline

namespace Book

theorem lastWritten_congr (symbol : Text) (registered : List Registration)
    {ticks others : List TickUpdate}
    (sides : ∀ side, ticks.filter (·.side = side) = others.filter (·.side = side))
    (last : ticks.getLast?.map (·.tickerId) = others.getLast?.map (·.tickerId)) :
    lastWritten symbol registered ticks = lastWritten symbol registered others := by
  have tickerId : ∀ first : Int, ticks.getLast?.elim first (·.tickerId) =
      others.getLast?.elim first (·.tickerId) := by
    intro first
    simpa [Option.elim_map] using congrArg (fun known => known.elim first id) last
  unfold lastWritten
  simp only [sides, tickerId]

theorem getLast?_append_congr {ticks us vs : List TickUpdate}
    (last : us.getLast?.map (·.tickerId) = vs.getLast?.map (·.tickerId)) :
    (ticks ++ us).getLast?.map (·.tickerId) = (ticks ++ vs).getLast?.map (·.tickerId) := by
  rw [List.getLast?_append, List.getLast?_append]
  cases us_last : us.getLast? <;> cases vs_last : vs.getLast? <;> simp_all

theorem snapshots_reordered {actions : List Action} (accepted : ∀ a ∈ actions, a.Accepted)
    {us vs : List TickUpdate}
    (sides : ∀ symbol side, us.filter (fun u => u.side = side ∧ leadsTo actions symbol u) =
      vs.filter fun v => v.side = side ∧ leadsTo actions symbol v)
    (last : ∀ symbol, (us.filter (leadsTo actions symbol)).getLast?.map (·.tickerId) =
      (vs.filter (leadsTo actions symbol)).getLast?.map (·.tickerId)) :
    (empty.run (actions ++ us.map .apply)).snapshots =
      (empty.run (actions ++ vs.map .apply)).snapshots := by
  have registered := registrations_accepted accepted
  have entered_same : ∀ ticks : List TickUpdate,
      entered (actions ++ ticks.map .apply) = entered actions := by
    intro ticks
    simp only [entered, registrations_ticks]
  have entries_same : ∀ symbol, ∀ ticks : List TickUpdate,
      entriesOf symbol (actions ++ ticks.map .apply) = entriesOf symbol actions := by
    intro symbol ticks
    simp only [entriesOf, registrationsOf, registrations_ticks]
  have merged_same : ∀ symbol, ∀ ticks : List TickUpdate,
      merged symbol (actions ++ ticks.map .apply) =
        routed symbol actions ++ ticks.filter (leadsTo actions symbol) := by
    intro symbol ticks
    rw [merged_of_accepted (by rwa [registrations_ticks]), routed_ticks]
  rw [snapshots_run, snapshots_run, entered_same, entered_same]
  apply List.map_congr_left
  intro symbol _
  rw [entries_same, entries_same, merged_same, merged_same]
  apply lastWritten_congr
  · intro side
    have same := sides symbol side
    simp only [Bool.decide_and, Bool.decide_eq_true] at same
    simp only [List.filter_append, List.filter_filter, same]
  · exact getLast?_append_congr (last symbol)

end Book

namespace Pipeline

open Book (leadsTo)

/-- Two orders of the same ticks that keep the order of the quotes and of the trades of each symbol,
and the ticker id of its last tick, leave the same states in the same order, the same routes and the
same numbers of processed and dropped ticks. No tick fails if the prefix of the channels has a
text. -/
theorem feed_reordered (actions : List Action) (accepted : ∀ a ∈ actions, a.Accepted)
    (pipeline : Pipeline) (reached : pipeline.book = Book.empty.run actions)
    (us vs : List TickUpdate) (valid : ∀ u ∈ us, u.Valid) (permuted : us.Perm vs)
    (sides : ∀ symbol side, us.filter (fun u => u.side = side ∧ leadsTo actions symbol u) =
      vs.filter fun v => v.side = side ∧ leadsTo actions symbol v)
    (last : ∀ symbol, (us.filter (leadsTo actions symbol)).getLast?.map (·.tickerId) =
      (vs.filter (leadsTo actions symbol)).getLast?.map (·.tickerId)) :
    (pipeline.channelPrefix.isSome = true →
      ∀ told ∈ pipeline.outcomes us ++ pipeline.outcomes vs, ∃ emitted, told = .ok emitted) ∧
    (pipeline.feed us).book.snapshots = (pipeline.feed vs).book.snapshots ∧
    (∀ tickerId, (pipeline.feed us).book.symbolFor? tickerId =
      (pipeline.feed vs).book.symbolFor? tickerId) ∧
    (pipeline.feed us).counters.processed = (pipeline.feed vs).counters.processed ∧
    (pipeline.feed us).counters.dropped = (pipeline.feed vs).counters.dropped := by
  have follows : Follows actions pipeline.book := by
    rw [reached]
    exact Book.run_follows actions
  obtain ⟨us_processed, us_dropped⟩ := feed_counters follows us
  obtain ⟨vs_processed, vs_dropped⟩ := feed_counters follows vs
  refine ⟨?_, ?_, ?_, ?_, ?_⟩
  · intro prefixed told member
    obtain ⟨leading, channel⟩ := Option.isSome_iff_exists.mp prefixed
    rcases List.mem_append.mp member with member | member
    · exact outcomes_return channel follows accepted valid told member
    · have vs_valid : ∀ v ∈ vs, v.Valid := fun v found => valid v (permuted.mem_iff.mpr found)
      exact outcomes_return channel follows accepted vs_valid told member
  · rw [feed_book, feed_book, reached, ← Book.run_append, ← Book.run_append]
    exact Book.snapshots_reordered accepted sides last
  · intro tickerId
    rw [symbolFor?_feed, symbolFor?_feed]
  · rw [us_processed, vs_processed, permuted.length_eq]
  · rw [us_dropped, vs_dropped, permuted.countP_eq]

theorem feed_reordered_quotes_last :
    let pipeline : Pipeline := ⟨Book.empty.run twoSymbols, ⟨false⟩, some [.char 'P'], ⟨0, 0, 0⟩⟩
    let first := [quoteOf 1, quoteOf 2, tradeOf 1, tradeOf 9]
    let second := [tradeOf 9, tradeOf 1, quoteOf 1, quoteOf 2]
    (pipeline.feed first).book.snapshots = (pipeline.feed second).book.snapshots ∧
      (pipeline.feed second).counters.dropped = 1 := by
  intro pipeline first second
  have one : routeAfter twoSymbols 1 = some [.char 'A'] := by decide
  have two : routeAfter twoSymbols 2 = some [.char 'B'] := by decide
  have nine : routeAfter twoSymbols 9 = none := by decide
  have sides : ∀ symbol side,
      first.filter (fun u => u.side = side ∧ leadsTo twoSymbols symbol u) =
        second.filter fun v => v.side = side ∧ leadsTo twoSymbols symbol v := by
    intro symbol side
    cases side <;>
      simp [first, second, quoteOf, tradeOf, leadsTo, List.filter_cons, one, two, nine]
  have last : ∀ symbol,
      (first.filter (leadsTo twoSymbols symbol)).getLast?.map (·.tickerId) =
        (second.filter (leadsTo twoSymbols symbol)).getLast?.map (·.tickerId) := by
    intro symbol
    by_cases a : symbol = [.char 'A']
    · subst a
      decide
    · by_cases b : symbol = [.char 'B']
      · subst b
        decide
      · have not_a : [.char 'A'] ≠ symbol := Ne.symm a
        have not_b : [.char 'B'] ≠ symbol := Ne.symm b
        simp [first, second, quoteOf, tradeOf, leadsTo, one, two, nine, not_a, not_b]
  have reordered := feed_reordered twoSymbols (by decide) pipeline rfl first second (by decide)
    (by decide) sides last
  exact ⟨reordered.2.1, by decide +kernel⟩

end Pipeline

end MarketSnapshot
