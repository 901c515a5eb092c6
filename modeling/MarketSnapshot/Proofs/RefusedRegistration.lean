import MarketSnapshot.Proofs.LastWriter

namespace MarketSnapshot.Book

inductive Outcome where
  | registered (result : Except RegisterError Unit)
  | applied (what : Applied)

def outcome (book : Book) : Action → Outcome
  | .register r =>
    .registered (book.register (.int r.tickerId) (.text r.symbol) (.int r.conId)).2
  | .apply u => .applied (book.apply u).2

def trace (book : Book) : List Action → List (Action × Outcome)
  | [] => []
  | a :: rest => (a, book.outcome a) :: (book.act a).trace rest

def Action.isTickOf (tickerId : Int) : Action → Bool
  | .register _ => false
  | .apply u => u.tickerId = tickerId

inductive Ended (book : Book) (r : Registration) : Book × Except RegisterError Unit → Prop where
  | refused (new : book.state? r.symbol = none) (refused : ¬ r.Accepted)
      (rejection : Field.Rejection) :
      Ended book r (book.routedTo r, .error (.rejected rejection))
  | first (new : book.state? r.symbol = none) (accepted : r.Accepted) :
      Ended book r ((book.routedTo r).setState r.symbol
        (InstrumentState.initial r.symbol r.conId r.tickerId), .ok ())
  | again (s : InstrumentState) (known : book.state? r.symbol = some s) :
      Ended book r ((book.routedTo r).setState r.symbol (renew s (.int r.conId)), r.told)

theorem ended (book : Book) (r : Registration) :
    Ended book r (book.register (.int r.tickerId) (.text r.symbol) (.int r.conId)) := by
  cases known : book.state? r.symbol with
  | some s =>
    rw [register_known known]
    exact .again s known
  | none =>
    by_cases accepted : r.Accepted
    · rw [register_new known accepted]
      exact .first known accepted
    · obtain ⟨rejection, outcome⟩ := register_refused accepted
      rw [outcome book known]
      exact .refused known accepted rejection

theorem register_fails_iff (book : Book) (r : Registration) :
    (∃ e, (book.register (.int r.tickerId) (.text r.symbol) (.int r.conId)).2 = .error e) ↔
      book.state? r.symbol = none ∧ ¬ r.Accepted ∨
        (book.state? r.symbol).isSome ∧ ¬ (Value.int r.tickerId).hasText := by
  generalize result : book.register (.int r.tickerId) (.text r.symbol) (.int r.conId) = step
  have how := result ▸ ended book r
  cases how with
  | refused new refused rejection => simp [new, refused]
  | first new accepted => simp [new, accepted]
  | again s known =>
    by_cases text : (Value.int r.tickerId).hasText = true <;>
      simp [Registration.told, known, text]

/-- Two books that may know one ticker id differently, and agree otherwise. -/
structure Beside (tickerId : Int) (left right : Book) : Prop where
  states : left.states = right.states
  others : ∀ other : Int, other ≠ tickerId →
    left.symbolFor? (.int other) = right.symbolFor? (.int other)

namespace Beside

variable {tickerId : Int} {left right : Book}

theorem state_eq (beside : Beside tickerId left right) (t : Text) :
    left.state? t = right.state? t := by
  unfold state?
  rw [beside.states]

theorem setState (beside : Beside tickerId left right) (t : Text) (s : InstrumentState) :
    Beside tickerId (left.setState t s) (right.setState t s) where
  states := by
    unfold Book.setState
    rw [beside.states]
  others := beside.others

theorem routedTo (beside : Beside tickerId left right) (r : Registration) :
    Beside tickerId (left.routedTo r) (right.routedTo r) where
  states := beside.states
  others other different := by
    rw [symbolFor?_routedTo, symbolFor?_routedTo, beside.others other different]

theorem apply (beside : Beside tickerId left right) {u : TickUpdate}
    (foreign : u.tickerId ≠ tickerId) :
    (left.apply u).2 = (right.apply u).2 ∧
      Beside tickerId (left.apply u).1 (right.apply u).1 := by
  have same := beside.others u.tickerId foreign
  unfold Book.apply
  rw [← same]
  split
  · exact ⟨rfl, beside⟩
  · exact ⟨rfl, beside⟩
  · rename_i t _
    rw [← beside.state_eq t]
    cases known : left.state? t with
    | none => exact ⟨rfl, beside⟩
    | some s => exact ⟨rfl, beside.setState t (s.merge u)⟩
  · split <;> exact ⟨rfl, beside⟩

theorem register (beside : Beside tickerId left right) (r : Registration) :
    left.outcome (.register r) = right.outcome (.register r) ∧
      Beside tickerId (left.act (.register r)) (right.act (.register r)) := by
  have routed := beside.routedTo r
  have same := beside.state_eq r.symbol
  unfold act outcome
  dsimp only
  cases known : left.state? r.symbol with
  | some s =>
    rw [known] at same
    rw [register_known known, register_known same.symm]
    exact ⟨rfl, routed.setState r.symbol _⟩
  | none =>
    rw [known] at same
    by_cases accepted : r.Accepted
    · rw [register_new known accepted, register_new same.symm accepted]
      exact ⟨rfl, routed.setState r.symbol _⟩
    · obtain ⟨rejection, outcome⟩ := register_refused accepted
      rw [outcome left known, outcome right same.symm]
      exact ⟨rfl, routed⟩

theorem step (beside : Beside tickerId left right) {a : Action}
    (foreign : a.isTickOf tickerId = false) :
    left.outcome a = right.outcome a ∧ Beside tickerId (left.act a) (right.act a) := by
  cases a with
  | register r => exact beside.register r
  | apply u =>
    obtain ⟨outcome, next⟩ := beside.apply (by simpa [Action.isTickOf] using foreign)
    exact ⟨congrArg Outcome.applied outcome, next⟩

theorem run (beside : Beside tickerId left right) {rest : List Action}
    (foreign : ∀ a ∈ rest, a.isTickOf tickerId = false) :
    left.trace rest = right.trace rest ∧ Beside tickerId (left.run rest) (right.run rest) := by
  induction rest generalizing left right with
  | nil => exact ⟨rfl, beside⟩
  | cons a rest ih =>
    obtain ⟨outcome, next⟩ := beside.step (foreign a List.mem_cons_self)
    obtain ⟨same, after⟩ := ih next fun b member => foreign b (List.mem_cons_of_mem _ member)
    exact ⟨by rw [trace, trace, outcome, same], after⟩

end Beside

theorem beside_routedTo (book : Book) (r : Registration) :
    Beside r.tickerId (book.routedTo r) book where
  states := rfl
  others other different := by rw [symbolFor?_routedTo, if_neg different.symm]

structure Stranded (tickerId : Int) (symbol : Text) (book : Book) : Prop where
  route : book.symbolFor? (.int tickerId) = some (.text symbol)
  new : book.state? symbol = none

namespace Stranded

variable {tickerId : Int} {symbol : Text} {book : Book}

theorem apply_own (stranded : Stranded tickerId symbol book) {u : TickUpdate}
    (own : u.tickerId = tickerId) : book.apply u = (book, .noState (.text symbol)) := by
  subst own
  exact apply_lost stranded.route stranded.new

theorem setState (stranded : Stranded tickerId symbol book) {t : Text} (other : t ≠ symbol)
    (s : InstrumentState) : Stranded tickerId symbol (book.setState t s) where
  route := stranded.route
  new := by
    rw [state?_setState, if_neg other]
    exact stranded.new

theorem apply (stranded : Stranded tickerId symbol book) (u : TickUpdate) :
    Stranded tickerId symbol (book.apply u).1 := by
  rcases apply_cases book u with ⟨kept, _⟩ | ⟨t, s, _, known, result⟩
  · rwa [kept]
  · have other : t ≠ symbol := by
      rintro rfl
      rw [stranded.new] at known
      cases known
    rw [result]
    exact stranded.setState other (s.merge u)

theorem register (stranded : Stranded tickerId symbol book) {r : Registration}
    (other_id : r.tickerId ≠ tickerId) (other_symbol : r.symbol ≠ symbol) :
    Stranded tickerId symbol (book.act (.register r)) := by
  have routed : Stranded tickerId symbol (book.routedTo r) := by
    refine ⟨?_, stranded.new⟩
    rw [symbolFor?_routedTo, if_neg other_id]
    exact stranded.route
  unfold act
  dsimp only
  generalize result : book.register (.int r.tickerId) (.text r.symbol) (.int r.conId) = step
  have how := result ▸ ended book r
  cases how with
  | refused => exact routed
  | first => exact routed.setState other_symbol _
  | again s => exact routed.setState other_symbol _

theorem run {left right : Book} (stranded : Stranded tickerId symbol left)
    (beside : Beside tickerId left right) {rest : List Action}
    (untouched : ∀ r ∈ registrations rest, r.tickerId ≠ tickerId ∧ r.symbol ≠ symbol) :
    (∀ step ∈ left.trace rest, step.1.isTickOf tickerId = true →
      step.2 = .applied (.noState (.text symbol))) ∧
    (left.trace rest).filter (fun step => !step.1.isTickOf tickerId) =
      right.trace (rest.filter fun a => !a.isTickOf tickerId) ∧
    Beside tickerId (left.run rest) (right.run (rest.filter fun a => !a.isTickOf tickerId)) := by
  induction rest generalizing left right with
  | nil => exact ⟨by simp [trace], rfl, beside⟩
  | cons a rest ih =>
    have later : ∀ r ∈ registrations rest, r.tickerId ≠ tickerId ∧ r.symbol ≠ symbol := by
      intro r member
      exact untouched r (by cases a <;> simp_all [registrations, Action.registration?])
    by_cases own : a.isTickOf tickerId = true
    · cases a with
      | register r => simp [Action.isTickOf] at own
      | apply u =>
        have same_id : u.tickerId = tickerId := by simpa [Action.isTickOf] using own
        have fails := stranded.apply_own same_id
        have kept : left.act (.apply u) = left := congrArg Prod.fst fails
        have lost : left.outcome (.apply u) = .applied (.noState (.text symbol)) :=
          congrArg (fun result : Book × Applied => Outcome.applied result.2) fails
        obtain ⟨failures, same, after⟩ := ih stranded beside later
        simp only [trace, Book.run, List.foldl_cons, kept, lost, List.filter_cons, own,
          Bool.not_true, Bool.false_eq_true, if_false, List.forall_mem_cons]
        exact ⟨⟨fun _ => trivial, failures⟩, same, after⟩
    · have foreign : a.isTickOf tickerId = false := by simpa using own
      have still : Stranded tickerId symbol (left.act a) := by
        cases a with
        | register r =>
          obtain ⟨other_id, other_symbol⟩ :=
            untouched r (by simp [registrations, Action.registration?])
          exact stranded.register other_id other_symbol
        | apply u => exact stranded.apply u
      obtain ⟨outcome, next⟩ := beside.step foreign
      obtain ⟨failures, same, after⟩ := ih still next later
      simp only [trace, Book.run, List.foldl_cons, outcome, List.filter_cons, foreign,
        Bool.not_false, if_true, same, List.forall_mem_cons, Bool.false_eq_true, false_implies,
        true_and]
      exact ⟨failures, after⟩

end Stranded

def routesAfter (book : Book) (r : Registration) (tickerId : Int) : Option Value :=
  if tickerId = r.tickerId then some (.text r.symbol) else book.symbolFor? (.int tickerId)

/-- A new symbol got no state. Until the ticker id or the symbol is registered again, every tick of
the id fails, and all else goes as without the registration and without these ticks. -/
structure Strands (book : Book) (r : Registration) (after : Book) : Prop where
  routes : ∀ tickerId : Int, after.symbolFor? (.int tickerId) = book.routesAfter r tickerId
  states : after.states = book.states
  ticks : ∀ rest,
    (∀ later ∈ registrations rest, later.tickerId ≠ r.tickerId ∧ later.symbol ≠ r.symbol) →
      (∀ taken ∈ after.trace rest, taken.1.isTickOf r.tickerId = true →
        taken.2 = .applied (.noState (.text r.symbol))) ∧
      (after.trace rest).filter (fun taken => !taken.1.isTickOf r.tickerId) =
        book.trace (rest.filter fun a => !a.isTickOf r.tickerId) ∧
      (after.run rest).states = (book.run (rest.filter fun a => !a.isTickOf r.tickerId)).states

/-- A known symbol has the contract id that was given with it, and all that follows goes as if it
had always had it. -/
structure Renews (book : Book) (r : Registration) (s : InstrumentState) (after : Book) : Prop where
  routes : ∀ tickerId : Int, after.symbolFor? (.int tickerId) = book.routesAfter r tickerId
  states : after.states = (book.setState r.symbol (renew s (.int r.conId))).states
  ticks : ∀ rest, (∀ u, .apply u ∈ rest → u.Valid) →
    after.trace rest = (book.setState r.symbol (renew s (.int r.conId))).trace rest ∧
    (after.run rest).states = ((book.setState r.symbol (renew s (.int r.conId))).run rest).states

inductive LeftBehind (book : Book) (r : Registration) :
    Book × Except RegisterError Unit → Prop where
  | refused {after : Book} (new : book.state? r.symbol = none) (rejection : Field.Rejection)
      (strands : Strands book r after) : LeftBehind book r (after, .error (.rejected rejection))
  | untold {after : Book} (s : InstrumentState) (known : book.state? r.symbol = some s)
      (renews : Renews book r s after) : LeftBehind book r (after, .error .noText)

theorem strands_of_new {book : Book} {r : Registration} (new : book.state? r.symbol = none) :
    Strands book r (book.routedTo r) where
  routes tickerId := by simp only [routesAfter, symbolFor?_routedTo, eq_comm]
  states := rfl
  ticks rest untouched := by
    have stranded : Stranded r.tickerId r.symbol (book.routedTo r) :=
      ⟨by rw [symbolFor?_routedTo, if_pos rfl], new⟩
    obtain ⟨failures, same, last⟩ := stranded.run (beside_routedTo book r) untouched
    exact ⟨failures, same, last.states⟩

theorem renews_of_untold {book : Book} {r : Registration} (s : InstrumentState)
    (untold : ¬ (Value.int r.tickerId).hasText = true) :
    Renews book r s ((book.routedTo r).setState r.symbol (renew s (.int r.conId))) where
  routes tickerId := by
    rw [symbolFor?_setState]
    simp only [routesAfter, symbolFor?_routedTo, eq_comm]
  states := rfl
  ticks rest valid := by
    have foreign : ∀ a ∈ rest, a.isTickOf r.tickerId = false := by
      intro a member
      cases a with
      | register _ => rfl
      | apply u =>
        -- A tick has an id of 64 bits, which always has a text.
        have other : u.tickerId ≠ r.tickerId := fun same_id =>
          untold (same_id ▸ hasText_of_isInt64 (valid u member).tickerId)
        simpa [Action.isTickOf] using other
    have beside := (beside_routedTo book r).setState r.symbol (renew s (.int r.conId))
    obtain ⟨same, last⟩ := beside.run foreign
    exact ⟨same, last.states⟩

/-- A registration fails exactly if its symbol has no state and it is not accepted, or if its
symbol has one and its ticker id has no text. -/
theorem refused_registration_strands_ticker (actions : List Action) (r : Registration) :
    let book := empty.run actions
    let step := book.register (.int r.tickerId) (.text r.symbol) (.int r.conId)
    ((∃ e, step.2 = .error e) ↔
      book.state? r.symbol = none ∧ ¬ r.Accepted ∨
        (book.state? r.symbol).isSome ∧ ¬ (Value.int r.tickerId).hasText) ∧
    ((∃ e, step.2 = .error e) → LeftBehind book r step) := by
  intro book step
  refine ⟨register_fails_iff book r, ?_⟩
  have how : Ended book r step := ended book r
  generalize step = result at how ⊢
  rintro ⟨e, failed⟩
  cases how with
  | refused new _ rejection => exact .refused new rejection (strands_of_new new)
  | first => cases failed
  | again s known =>
    dsimp only at failed
    by_cases text : (Value.int r.tickerId).hasText = true
    · simp [Registration.told, text] at failed
    · have untold : r.told = .error .noText := by simp [Registration.told, text]
      rw [untold]
      exact .untold s known (renews_of_untold s text)

def oneTicker : List Action := [.register ⟨1, [.char 'A'], 7⟩]

def outOfRange : Registration := ⟨1, [.char 'B'], 9223372036854775808⟩

def someQuote : TickUpdate :=
  ⟨1, .bidAsk, 100, Binary64.one, Binary64.one, 3, 4, Binary64.zero, 0, false, []⟩

theorem refused_registration_strands_moved_ticker :
    let step := (empty.run oneTicker).register (.int outOfRange.tickerId)
      (.text outOfRange.symbol) (.int outOfRange.conId)
    (∃ e, step.2 = .error e) ∧
      ∀ taken ∈ step.1.trace [.apply someQuote],
        taken.2 = .applied (.noState (.text [.char 'B'])) := by
  intro step
  obtain ⟨fails, left⟩ := refused_registration_strands_ticker oneTicker outOfRange
  have failed : ∃ e, step.2 = .error e := fails.mpr (.inl ⟨rfl, by decide⟩)
  have behind : LeftBehind (empty.run oneTicker) outOfRange step := left failed
  refine ⟨failed, ?_⟩
  generalize step = result at behind ⊢
  cases behind with
  | refused _ _ strands =>
    obtain ⟨failures, _⟩ := strands.ticks [.apply someQuote]
      (by simp [registrations, Action.registration?])
    intro taken member
    refine failures taken member ?_
    rw [List.mem_singleton.mp member]
    rfl
  | untold _ known => cases known

/-- A refused registration makes an unknown ticker id known, and a tick of it is then a failure and
no longer dropped. -/
theorem refused_ticker_not_dropped :
    let step := empty.register (.int 1) (.text [.char 'A']) (.int 9223372036854775808)
    (∃ e, step.2 = .error e) ∧
      empty.symbolFor? (.int 1) = none ∧ (empty.apply someQuote).2 = .unknownTicker ∧
      step.1.symbolFor? (.int 1) = some (.text [.char 'A']) ∧
      (step.1.apply someQuote).2 = .noState (.text [.char 'A']) :=
  ⟨⟨_, rfl⟩, rfl, rfl, rfl, rfl⟩

end MarketSnapshot.Book
