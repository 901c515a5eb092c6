import MarketSnapshot.Pipeline.Basic
import MarketSnapshot.Proofs.SnapshotText
import MarketSnapshot.Proofs.StoredStates

namespace MarketSnapshot.Pipeline

open Book (Action Registration Follows routeAfter QuotedAndTraded)

inductive Call where
  | register (tickerId symbol conId : Value)
  | apply (u : TickUpdate)
  | process (u : TickUpdate)

namespace Call

def action? : Call → Option Action
  | .register (.int tickerId) (.text symbol) (.int conId) =>
    some (.register ⟨tickerId, symbol, conId⟩)
  | .register _ _ _ => none
  | .apply u | .process u => some (.apply u)

def Accepted (call : Call) : Prop := ∃ a, call.action? = some a ∧ a.Accepted

end Call

def perform (pipeline : Pipeline) : Call → Pipeline
  | .register tickerId symbol conId => (pipeline.register tickerId symbol conId).pipeline
  | .apply u => (pipeline.apply u).pipeline
  | .process u => (pipeline.process u).pipeline

def run (pipeline : Pipeline) (calls : List Call) : Pipeline := calls.foldl perform pipeline

def history (calls : List Call) : List Action := calls.filterMap Call.action?

theorem history_append (past rest : List Call) :
    history (past ++ rest) = history past ++ history rest := by
  simp [history, List.filterMap_append]

theorem book_register (pipeline : Pipeline) (tickerId symbol conId : Value) :
    (pipeline.register tickerId symbol conId).pipeline =
      { pipeline with book := (pipeline.book.register tickerId symbol conId).1 } := by
  unfold register
  split
  rename_i book result outcome
  rw [outcome]
  cases result <;> rfl

theorem book_apply (pipeline : Pipeline) (u : TickUpdate) :
    (pipeline.apply u).pipeline = { pipeline with book := (pipeline.book.apply u).1 } := by
  unfold apply
  split
  rename_i book applied outcome
  rw [outcome]
  cases applied <;> rfl

def verdict (pipeline : Pipeline) : Book.Applied → Except Failure (Option SnapshotMessage)
  | .unknownTicker => .ok none
  | .notKey e => .error (.notKey e)
  | .noState symbol => .error (.noState symbol)
  | .merged s =>
    if s.isPublishable then (pipeline.message s).map some else .ok none

def counted (counters : Counters) (applied : Book.Applied)
    (outcome : Except Failure (Option SnapshotMessage)) : Counters where
  processed := counters.processed + 1
  emitted := counters.emitted + match outcome with
    | .ok (some _) => 1
    | _ => 0
  dropped := counters.dropped + match applied with
    | .unknownTicker => 1
    | _ => 0

theorem process_step (pipeline : Pipeline) (u : TickUpdate) :
    (pipeline.process u).outcome = pipeline.verdict (pipeline.book.apply u).2 ∧
      (pipeline.process u).pipeline =
        { pipeline with
          book := (pipeline.book.apply u).1
          counters := counted pipeline.counters (pipeline.book.apply u).2
            (pipeline.process u).outcome } := by
  unfold process apply count
  dsimp only
  obtain ⟨book, applied⟩ := pipeline.book.apply u
  cases applied with
  | unknownTicker => exact ⟨rfl, rfl⟩
  | notKey e => exact ⟨rfl, rfl⟩
  | noState symbol => exact ⟨rfl, rfl⟩
  | merged s =>
    by_cases publishable : s.isPublishable
    · have same : ∀ counters, Pipeline.message ⟨book, pipeline.serializer, pipeline.channelPrefix,
          counters⟩ s = pipeline.message s := fun _ => rfl
      cases written : pipeline.message s with
      | error e => simp [verdict, counted, publishable, same, written, Except.map]
      | ok m => simp [verdict, counted, publishable, same, written, Except.map]
    · simp [verdict, counted, publishable]

theorem process_outcome (pipeline : Pipeline) (u : TickUpdate) :
    (pipeline.process u).outcome = pipeline.verdict (pipeline.book.apply u).2 :=
  (process_step pipeline u).1

theorem process_pipeline (pipeline : Pipeline) (u : TickUpdate) :
    (pipeline.process u).pipeline =
      { pipeline with
        book := (pipeline.book.apply u).1
        counters := counted pipeline.counters (pipeline.book.apply u).2
          (pipeline.process u).outcome } :=
  (process_step pipeline u).2

theorem perform_keeps (pipeline : Pipeline) (call : Call) :
    (pipeline.perform call).serializer = pipeline.serializer ∧
      (pipeline.perform call).channelPrefix = pipeline.channelPrefix := by
  cases call with
  | register tickerId symbol conId =>
    rw [perform, book_register]
    exact ⟨rfl, rfl⟩
  | apply u =>
    rw [perform, book_apply]
    exact ⟨rfl, rfl⟩
  | process u =>
    rw [perform, process_pipeline]
    exact ⟨rfl, rfl⟩

theorem perform_book (pipeline : Pipeline) {call : Call} {a : Action}
    (action : call.action? = some a) : (pipeline.perform call).book = pipeline.book.act a := by
  cases call with
  | register tickerId symbol conId =>
    rw [perform, book_register]
    unfold Call.action? at action
    split at action
    · rename_i same
      cases same
      cases action
      rfl
    · cases action
    · rename_i other
      cases other
    · rename_i other
      cases other
  | apply u =>
    cases action
    rw [perform, book_apply]
    rfl
  | process u =>
    cases action
    rw [perform, process_pipeline]
    rfl

theorem run_keeps (pipeline : Pipeline) (calls : List Call) :
    (pipeline.run calls).serializer = pipeline.serializer ∧
      (pipeline.run calls).channelPrefix = pipeline.channelPrefix := by
  induction calls generalizing pipeline with
  | nil => exact ⟨rfl, rfl⟩
  | cons call calls ih =>
    obtain ⟨serializer, channel⟩ := ih (pipeline.perform call)
    obtain ⟨serializer_now, channel_now⟩ := perform_keeps pipeline call
    exact ⟨serializer.trans serializer_now, channel.trans channel_now⟩

theorem run_book (pipeline : Pipeline) {calls : List Call}
    (typed : ∀ call ∈ calls, call.action?.isSome) :
    (pipeline.run calls).book = pipeline.book.run (history calls) := by
  induction calls generalizing pipeline with
  | nil => rfl
  | cons call calls ih =>
    obtain ⟨a, action⟩ := Option.isSome_iff_exists.mp (typed call (by simp))
    have later := ih (pipeline.perform call) fun next member =>
      typed next (List.mem_cons_of_mem call member)
    have first : history (call :: calls) = a :: history calls := List.filterMap_cons_some action
    rw [first]
    change ((pipeline.perform call).run calls).book = (pipeline.book.act a).run (history calls)
    rw [later, perform_book pipeline action]

theorem process_merged {pipeline : Pipeline} {u : TickUpdate} {book : Book} {s : InstrumentState}
    {text : String} {leading : Text} (merged : pipeline.book.apply u = (book, .merged s))
    (channel : pipeline.channelPrefix = some leading)
    (written : pipeline.serializer.write s = .ok text) :
    (pipeline.process u).outcome = .ok (if s.isPublishable then
      some ⟨leading ++ s.symbol, s.symbol, text⟩ else none) := by
  rw [process_outcome, merged]
  by_cases publishable : s.isPublishable
  · have message : pipeline.message s = .ok ⟨leading ++ s.symbol, s.symbol, text⟩ := by
      unfold Pipeline.message
      rw [channel, written]
      rfl
    simp [verdict, publishable, message, Except.map]
  · simp [verdict, publishable]

/-- A pipeline whose book follows an accepted history merges a routed tick into the state that the
longer history tells, and can always write it. -/
theorem process_of_follows {pipeline : Pipeline} {actions : List Action} {u : TickUpdate}
    {symbol leading : Text} (follows : Follows actions pipeline.book)
    (channel : pipeline.channelPrefix = some leading)
    (accepted : ∀ a ∈ actions ++ [.apply u], a.Accepted)
    (route : routeAfter actions u.tickerId = some symbol) :
    ∃ s text,
      s = Book.lastWritten symbol (Book.entriesOf symbol (actions ++ [.apply u]))
        (Book.merged symbol (actions ++ [.apply u])) ∧
      pipeline.book.apply u = (pipeline.book.setState symbol s, .merged s) ∧
      pipeline.serializer.write s = .ok text ∧
      (pipeline.process u).outcome = .ok (if s.isPublishable then
        some ⟨leading ++ symbol, symbol, text⟩ else none) := by
  have known : Book.entriesOf symbol actions ≠ [] :=
    Book.known_of_route (fun a member => accepted a (List.mem_append_left _ member)) route
  obtain ⟨s, outcome, state⟩ := follows.apply_routed route known
  have valid : s.Valid := by
    rw [state]
    apply Book.valid_of_accepted accepted
    rwa [Book.entriesOf_apply]
  obtain ⟨text, written⟩ := Serializer.write_valid pipeline.serializer valid
  have done := process_merged outcome channel written
  have same : s.symbol = symbol := by
    rw [state]
    rfl
  rw [same] at done
  exact ⟨s, text, state, outcome, written, done⟩

section Accepted

variable {past : List Call} (accepted : ∀ call ∈ past, call.Accepted)

include accepted

theorem history_accepted : ∀ a ∈ history past, a.Accepted := by
  intro a member
  obtain ⟨call, found, action⟩ := List.mem_filterMap.mp member
  obtain ⟨b, same, holds⟩ := accepted call found
  rw [action] at same
  cases same
  exact holds

theorem run_new_follows (settings : SerializerSettings) (withTime channelPrefix : Value) :
    Follows (history past) ((new settings withTime channelPrefix).run past).book := by
  have typed : ∀ call ∈ past, call.action?.isSome := by
    intro call member
    obtain ⟨a, action, _⟩ := accepted call member
    rw [action]
    rfl
  rw [run_book _ typed]
  exact Book.run_follows (history past)

end Accepted

section Process

variable (settings : SerializerSettings) (withTime channelPrefix : Value) {past : List Call}
  {u : TickUpdate}

theorem process_unrouted (accepted : ∀ call ∈ past, call.Accepted)
    (unknown : routeAfter (history past) u.tickerId = none) :
    (((new settings withTime channelPrefix).run past).process u).outcome = .ok none := by
  have follows := run_new_follows accepted settings withTime channelPrefix
  have nowhere : ((new settings withTime channelPrefix).run past).book.symbolFor?
      (.int u.tickerId) = none := by
    rw [follows.routes, unknown]
    rfl
  rw [process_outcome, Book.apply_unknown nowhere]
  rfl

theorem process_routed (accepted : ∀ call ∈ past ++ [Call.process u], call.Accepted) {symbol : Text}
    (route : routeAfter (history past) u.tickerId = some symbol) {leading : Text}
    (channel : Channel.leading settings channelPrefix = some leading) :
    ∃ s text, (((new settings withTime channelPrefix).run past).process u).pipeline.book.state?
        symbol = some s ∧
      s.symbol = symbol ∧
      (s.isPublishable = true ↔ QuotedAndTraded symbol (history (past ++ [Call.process u]))) ∧
      (Serializer.choose settings withTime).write s = .ok text ∧
      (((new settings withTime channelPrefix).run past).process u).outcome =
        .ok (if s.isPublishable then
          some ⟨leading ++ symbol, symbol, text⟩ else none) := by
  have accepted_past : ∀ call ∈ past, call.Accepted :=
    fun call member => accepted call (List.mem_append_left _ member)
  have next : history (past ++ [Call.process u]) = history past ++ [.apply u] :=
    history_append past [.process u]
  have accepted_history : ∀ a ∈ history past ++ [.apply u], a.Accepted := by
    rw [← next]
    exact history_accepted accepted
  have follows := run_new_follows accepted_past settings withTime channelPrefix
  obtain ⟨form, kept⟩ := run_keeps (new settings withTime channelPrefix) past
  generalize (new settings withTime channelPrefix).run past = pipeline at *
  obtain ⟨s, text, state, outcome, written, done⟩ :=
    process_of_follows follows (kept.trans channel) accepted_history route
  rw [form] at written
  refine ⟨s, text, ?_, by rw [state]; rfl, ?_, written, done⟩
  · rw [process_pipeline, outcome]
    simp [Book.state?_setState]
  · have registered := Book.registrations_accepted accepted_history
    rw [state, Book.lastWritten_publishable, Book.merged_of_accepted registered, next]
    exact Iff.rfl

theorem process_emits (accepted : ∀ call ∈ past ++ [Call.process u], call.Accepted) {symbol : Text}
    (route : routeAfter (history past) u.tickerId = some symbol) {leading : Text}
    (channel : Channel.leading settings channelPrefix = some leading)
    (both : QuotedAndTraded symbol (history (past ++ [Call.process u]))) :
    ∃ m, (((new settings withTime channelPrefix).run past).process u).outcome = .ok (some m) ∧
      m.symbol = symbol := by
  obtain ⟨s, text, _, _, publishable, _, outcome⟩ :=
    process_routed settings withTime channelPrefix accepted route channel
  rw [if_pos (publishable.mpr both)] at outcome
  exact ⟨_, outcome, rfl⟩

theorem process_emits_later {between : List Call} {v : TickUpdate} {symbol leading : Text}
    (channel : Channel.leading settings channelPrefix = some leading)
    (accepted : ∀ call ∈ past ++ [Call.process u], call.Accepted)
    (later : ∀ call ∈ between ++ [Call.process v], call.Accepted)
    (both : QuotedAndTraded symbol (history (past ++ [Call.process u])))
    (route : routeAfter (history (past ++ Call.process u :: between)) v.tickerId = some symbol) :
    ∃ m, (((new settings withTime channelPrefix).run (past ++ Call.process u :: between)).process
      v).outcome = .ok (some m) ∧ m.symbol = symbol := by
  have joined : past ++ [Call.process u] ++ (between ++ [Call.process v]) =
      past ++ Call.process u :: between ++ [Call.process v] := by simp
  have both_then := both.append (history (between ++ [Call.process v]))
  rw [← history_append, joined] at both_then
  have all_accepted : ∀ call ∈ past ++ Call.process u :: between ++ [Call.process v],
      call.Accepted := by
    rw [← joined]
    intro call member
    rcases List.mem_append.mp member with member | member
    · exact accepted call member
    · exact later call member
  exact process_emits settings withTime channelPrefix all_accepted route channel both_then

end Process

/-- In a run of accepted calls every processed tick is taken without a failure. It gives a message
exactly if its ticker id stands for a symbol to which the run, this tick included, has routed a
quote and a trade. The message is for the channel of that symbol and holds its state as it stands
after the tick. After a first message every further processed tick of its symbol gives one. -/
theorem process_publishes (settings : SerializerSettings) (withTime : Value)
    (given : Option Text) (past : List Call) (u : TickUpdate)
    (accepted : ∀ call ∈ past ++ [Call.process u], call.Accepted) :
    let start := new settings withTime (given.elim .null .text)
    let step := (start.run past).process u
    ∃ emitted, step.outcome = .ok emitted ∧
      (emitted.isSome = true ↔ ∃ symbol, routeAfter (history past) u.tickerId = some symbol ∧
        QuotedAndTraded symbol (history (past ++ [Call.process u]))) ∧
      (∀ m, emitted = some m → ∃ symbol s text,
        routeAfter (history past) u.tickerId = some symbol ∧
        m.symbol = symbol ∧
        m.channel = given.getD settings.channelPrefix ++ symbol ∧
        step.pipeline.book.state? symbol = some s ∧
        (Serializer.choose settings withTime).write s = .ok text ∧
        m.payload = Text.ofString text) ∧
      ∀ m between v, emitted = some m →
        (∀ call ∈ between ++ [Call.process v], call.Accepted) →
        routeAfter (history (past ++ Call.process u :: between)) v.tickerId = some m.symbol →
        ∃ next, ((start.run (past ++ Call.process u :: between)).process v).outcome =
          .ok (some next) ∧ next.symbol = m.symbol := by
  intro start step
  have channel : Channel.leading settings (given.elim .null .text) =
      some (given.getD settings.channelPrefix) := by
    cases given <;> rfl
  cases route : routeAfter (history past) u.tickerId with
  | none =>
    have outcome := process_unrouted settings withTime (given.elim .null .text)
      (fun call member => accepted call (List.mem_append_left _ member)) route
    exact ⟨none, outcome, by simp, by simp, by simp⟩
  | some symbol =>
    obtain ⟨s, text, stored, same, publishable, written, outcome⟩ :=
      process_routed settings withTime (given.elim .null .text) accepted route channel
    refine ⟨_, outcome, ?_, ?_, ?_⟩
    · simp [publishable]
    · intro m emitted
      split at emitted
      · cases emitted
        exact ⟨symbol, s, text, rfl, rfl, rfl, stored, written, rfl⟩
      · cases emitted
    · intro m between v emitted later next_route
      split at emitted
      · rename_i ready
        cases emitted
        exact process_emits_later settings withTime _ channel accepted later
          (publishable.mp ready) next_route
      · cases emitted

def quotedBehind : List Call :=
  [.register (.int 1) (.text [.char 'A']) (.int 7),
    .apply ⟨1, .bidAsk, 100, Binary64.one, Binary64.one, 3, 4, Binary64.zero, 0, false, []⟩,
    .register (.int 2) (.text [.char 'A']) (.int 0)]

def firstTrade : TickUpdate :=
  ⟨2, .allLast, 90, Binary64.zero, Binary64.zero, 0, 0, Binary64.one, 5, true, [.char 'N']⟩

theorem process_publishes_first_trade :
    (∀ call ∈ quotedBehind ++ [.process firstTrade], call.Accepted) ∧
      ∃ m, (((new ⟨[], false⟩ .null (.text [.char 'P', .char ':'])).run quotedBehind).process
        firstTrade).outcome = .ok (some m) ∧
          m.channel = [.char 'P', .char ':', .char 'A'] := by
  have accepted : ∀ call ∈ quotedBehind ++ [.process firstTrade], call.Accepted := by
    have first : Registration.Accepted ⟨1, [.char 'A'], 7⟩ := by decide
    have second : Registration.Accepted ⟨2, [.char 'A'], 0⟩ := by decide
    simp only [quotedBehind, List.cons_append, List.nil_append, List.forall_mem_cons]
    refine ⟨⟨_, rfl, first⟩, ⟨_, rfl, ?_⟩, ⟨_, rfl, second⟩, ⟨_, rfl, ?_⟩, by simp⟩
    · exact ⟨by decide, by decide, by decide, by decide, by decide, by decide⟩
    · exact ⟨by decide, by decide, by decide, by decide, by decide, by decide⟩
  obtain ⟨emitted, outcome, exactly, content, _⟩ :=
    process_publishes ⟨[], false⟩ .null (some [.char 'P', .char ':']) quotedBehind firstTrade
      accepted
  have both : QuotedAndTraded [.char 'A'] (history (quotedBehind ++ [.process firstTrade])) := by
    unfold QuotedAndTraded
    decide
  have some_emitted := exactly.mpr ⟨[.char 'A'], by decide, both⟩
  obtain ⟨m, rfl⟩ := Option.isSome_iff_exists.mp some_emitted
  obtain ⟨symbol, s, text, route, _, channel, _⟩ := content m rfl
  have named : routeAfter (history quotedBehind) firstTrade.tickerId = some [.char 'A'] := by decide
  rw [named] at route
  cases route
  exact ⟨accepted, m, outcome, channel⟩

end MarketSnapshot.Pipeline
