import MarketSnapshot.Proofs.HandleCalls

namespace MarketSnapshot

namespace LogRequest

def filled (request : LogRequest) (settings : LoggingSettings) : LogRequest :=
  { request with
    level := request.effectiveLevel settings
    toFile := request.effectiveToFile settings
    dir := request.effectiveDir settings }

/-- Settings that are the same in what a request leaves to them. A level or a directory is left to
them if it does not count as true, be it given or not. -/
structure Agrees (request : LogRequest) (s t : LoggingSettings) : Prop where
  level : request.level.isTrue = true ∨ s.level.upper = t.level.upper
  toFile : request.toFile ≠ .null ∨ s.toFile = t.toFile
  dir : request.dir.isTrue = true ∨ s.dir = t.dir

theorem orElse_eq_iff (v : Value) (left right : Text) :
    v.orElse (.text left) = v.orElse (.text right) ↔ v.isTrue = true ∨ left = right := by
  unfold Value.orElse
  cases v.isTrue <;> simp

theorem effectiveToFile_eq_iff (request : LogRequest) (s t : LoggingSettings) :
    request.effectiveToFile s = request.effectiveToFile t ↔
      request.toFile ≠ .null ∨ s.toFile = t.toFile := by
  unfold effectiveToFile
  cases request.toFile <;> simp

theorem filled_eq_iff (request : LogRequest) (s t : LoggingSettings) :
    request.filled s = request.filled t ↔ request.Agrees s t := by
  have level := orElse_eq_iff request.level s.level.upper t.level.upper
  have toFile := effectiveToFile_eq_iff request s t
  have dir := orElse_eq_iff request.dir s.dir t.dir
  constructor
  · intro same
    exact ⟨level.mp (congrArg LogRequest.level same), toFile.mp (congrArg LogRequest.toFile same),
      dir.mp (congrArg LogRequest.dir same)⟩
  · rintro ⟨agree_level, agree_toFile, agree_dir⟩
    unfold filled effectiveLevel effectiveDir
    rw [level.mpr agree_level, toFile.mpr agree_toFile, dir.mpr agree_dir]

theorem agrees_all_iff (request : LogRequest) :
    (∀ s t : LoggingSettings, request.Agrees s t) ↔
      request.level.isTrue = true ∧ request.toFile ≠ .null ∧ request.dir.isTrue = true := by
  constructor
  · intro all
    obtain ⟨level, toFile, dir⟩ := all ⟨"", false, ""⟩ ⟨"A", true, "A"⟩
    exact ⟨level.resolve_right (by decide), toFile.resolve_right (by decide),
      dir.resolve_right (by decide)⟩
  · rintro ⟨level, toFile, dir⟩ s t
    exact ⟨.inl level, .inl toFile, .inl dir⟩

theorem orElse_of_false {v : Value} (unset : v.isTrue = false) (fallback : Value) :
    v.orElse fallback = Value.null.orElse fallback := by
  unfold Value.orElse
  rw [unset]
  rfl

theorem filled_level_null {request : LogRequest} (unset : request.level.isTrue = false)
    (settings : LoggingSettings) :
    request.filled settings = { request with level := .null }.filled settings := by
  unfold filled effectiveLevel
  rw [orElse_of_false unset]
  rfl

theorem filled_dir_null {request : LogRequest} (unset : request.dir.isTrue = false)
    (settings : LoggingSettings) :
    request.filled settings = { request with dir := .null }.filled settings := by
  unfold filled effectiveDir
  rw [orElse_of_false unset]
  rfl

end LogRequest

namespace Registry

theorem level_setSink (registry : Registry) (id : LoggerId) (sink : Option Nat)
    (other : LoggerId) : (registry.setSink id sink).level other = registry.level other := by
  cases id with
  | root => cases other <;> rfl
  | named name =>
    cases found : Table.find? registry.nodes name with
    | none => simp [setSink, update, found]
    | some node =>
      refine (congrArg Prod.fst (facts_update found _ other)).trans ?_
      split
      · rename_i same
        rw [← same]
        exact (congrArg Prod.fst (facts_of_node found)).symm
      · rfl

theorem exists_node_enrol (registry : Registry) (name : Text) :
    ∃ node, Table.find? (registry.enrol (.named name)).nodes name = some node := by
  unfold enrol
  dsimp only
  split
  · rename_i known
    exact Option.isSome_iff_exists.mp known
  · exact ⟨_, Table.find?_put_self _ _ _⟩

theorem level_opened (registry : Registry) (id : LoggerId) (level : Int) :
    (registry.opened id level).level id = level := by
  unfold opened
  rw [level_setSink]
  cases id with
  | root => rfl
  | named name =>
    obtain ⟨node, found⟩ := exists_node_enrol registry name
    have facts := facts_update found (fun node => { node with level := level }) (.named name)
    rw [if_pos rfl] at facts
    exact congrArg Prod.fst facts

end Registry

namespace Journal

section Request

variable {request other : LogRequest} {s t : LoggingSettings}

theorem carryOut_of_filled (same : request.filled s = other.filled t) (journal : Journal)
    (today : Date) : journal.carryOut request s today = journal.carryOut other t today := by
  obtain ⟨name, component, level, toFile, toConsole, dir, rotation⟩ := request
  obtain ⟨name', component', level', toFile', toConsole', dir', rotation'⟩ := other
  -- The given choices may differ, but no definition looks at them without the settings.
  simp only [LogRequest.filled, LogRequest.mk.injEq] at same
  obtain ⟨rfl, rfl, level, toFile, rfl, dir, rfl⟩ := same
  unfold carryOut openLog LogRequest.handle LogRequest.filename LogRequest.logger
    LogRequest.loggerName
  simp only [level, toFile, dir]

theorem carryOut_of_agrees (agrees : request.Agrees s t) (journal : Journal) (today : Date) :
    journal.carryOut request s today = journal.carryOut request t today :=
  carryOut_of_filled ((request.filled_eq_iff s t).mpr agrees) journal today

theorem carryOut_made {journal : Journal} {today : Date} {handle : LogHandle}
    (made : (journal.carryOut request s today).2 = .ok handle) :
    (handle.level = request.effectiveLevel s ∧ handle.toFile = request.effectiveToFile s ∧
      handle.dir = request.effectiveDir s ∧ handle.filename = request.filename s today) ∧
    Level.read handle.level =
      .ok ((journal.carryOut request s today).1.registry.level handle.logger) := by
  have carried := carried journal request s today
  generalize journal.carryOut request s today = done at *
  obtain ⟨next, result⟩ := done
  cases carried with
  | nameRefused => cases made
  | levelRefused => cases made
  | fileRefused => cases made
  | made id named level accepted file wanted tree =>
    cases made
    refine ⟨⟨rfl, rfl, rfl, rfl⟩, accepted.trans (congrArg Except.ok ?_)⟩
    exact ((Registry.level_setSink _ _ _ _).trans (Registry.level_opened _ _ _)).symm

theorem carryOut_eq_iff {journal : Journal} {today : Date} {handle : LogHandle}
    (made : (journal.carryOut request s today).2 = .ok handle) :
    (journal.carryOut request t today).2 = .ok handle ↔ request.Agrees s t := by
  constructor
  · intro made_too
    obtain ⟨⟨level, toFile, dir, _⟩, _⟩ := carryOut_made made
    obtain ⟨⟨level', toFile', dir', _⟩, _⟩ := carryOut_made made_too
    refine (request.filled_eq_iff s t).mp ?_
    unfold LogRequest.filled
    rw [← level, ← toFile, ← dir, level', toFile', dir']
  · intro agrees
    rw [← carryOut_of_agrees agrees]
    exact made

end Request

def Step.Decided (s t : LoggingSettings) : Step → Prop
  | .request _ arguments => ∀ request, LogRequest.read arguments = .ok request → request.Agrees s t
  | _ => True

theorem Step.decided_of_call {step : Step} (call : step.isCall = true) (s t : LoggingSettings) :
    step.Decided s t := by
  cases step with
  | request => cases call
  | _ => trivial

section Runs

variable {s t : LoggingSettings}

theorem perform_of_decided {step : Step} (decided : step.Decided s t) (journal : Journal) :
    perform s journal step = perform t journal step := by
  cases step with
  | request today arguments =>
    unfold perform Journal.request
    dsimp only
    cases read : LogRequest.read arguments with
    | error e => rfl
    | ok request =>
      have agrees := decided request read
      exact congrArg Prod.fst (carryOut_of_agrees agrees journal today)
  | _ => rfl

theorem resume_of_decided {steps : List Step} (decided : ∀ step ∈ steps, step.Decided s t)
    (journal : Journal) :
    resume s journal steps = resume t journal steps ∧
      outcomes s journal steps = outcomes t journal steps := by
  induction steps generalizing journal with
  | nil => exact ⟨rfl, rfl⟩
  | cons step rest ih =>
    obtain ⟨first, decided⟩ := List.forall_mem_cons.mp decided
    have next := perform_of_decided first journal
    obtain ⟨resumed, told⟩ := ih decided (perform s journal step)
    constructor
    · exact resumed.trans (congrArg (resume t · rest) next)
    · exact congrArg (journal.outcome step :: ·) (told.trans (congrArg (outcomes t · rest) next))

end Runs

/-- A request is carried out alike under two settings that agree on what it leaves to them, and so
is all that follows, as long as later requests leave them nothing else. If it is fulfilled, its
handle tells the choices and the level of its logger, and it is the same under two settings exactly
if they agree. A level or a directory that does not count as true is as good as none, so only a
request that gives all three choices, and no such level or directory, is beyond all settings. -/
theorem given_choices_decide (journal : Journal) (today : Date) {arguments : Entries}
    {request : LogRequest} (read : LogRequest.read arguments = .ok request)
    (s t : LoggingSettings) :
    let left := journal.request s today arguments
    let right := journal.request t today arguments
    (request.Agrees s t → left = right ∧
      ∀ later : List Step, (∀ step ∈ later, step.Decided s t) →
        resume s left.1 later = resume t right.1 later ∧
          outcomes s left.1 later = outcomes t right.1 later) ∧
    (∀ handle, left.2 = .ok handle →
      handle.level = (if request.level.isTrue then request.level else .text s.level.upper) ∧
      (request.toFile = .null → handle.toFile = .bool s.toFile) ∧
      (request.toFile ≠ .null → handle.toFile = request.toFile) ∧
      handle.dir = (if request.dir.isTrue then request.dir else .text s.dir) ∧
      Level.read handle.level = .ok (left.1.registry.level handle.logger) ∧
      (right.2 = .ok handle ↔ request.Agrees s t)) ∧
    (request.level.isTrue = false →
      left = journal.carryOut { request with level := .null } s today) ∧
    (request.dir.isTrue = false →
      left = journal.carryOut { request with dir := .null } s today) ∧
    ((∀ u v : LoggingSettings, request.Agrees u v) ↔
      request.level.isTrue = true ∧ request.toFile ≠ .null ∧ request.dir.isTrue = true) := by
  have carried (settings : LoggingSettings) :
      journal.request settings today arguments = journal.carryOut request settings today := by
    unfold Journal.request
    rw [read]
  intro left right
  refine ⟨?alike, ?made, ?level, ?dir, request.agrees_all_iff⟩
  case alike =>
    intro agrees
    have same : left = right := by
      simp only [left, right, carried]
      exact carryOut_of_agrees agrees journal today
    exact ⟨same, fun later decided => same ▸ resume_of_decided decided left.1⟩
  case made =>
    intro handle made
    simp only [left, right, carried] at made ⊢
    obtain ⟨⟨level, toFile, dir, _⟩, threshold⟩ := carryOut_made made
    have chosen : (request.toFile = .null → handle.toFile = .bool s.toFile) ∧
        (request.toFile ≠ .null → handle.toFile = request.toFile) := by
      rw [toFile]
      unfold LogRequest.effectiveToFile
      cases request.toFile <;> simp
    exact ⟨level, chosen.1, chosen.2, dir, threshold, carryOut_eq_iff made⟩
  case level =>
    intro unset
    have same := LogRequest.filled_level_null unset s
    exact (carried s).trans (carryOut_of_filled same journal today)
  case dir =>
    intro unset
    have same := LogRequest.filled_dir_null unset s
    exact (carried s).trans (carryOut_of_filled same journal today)

def settingsOf (name value : String) : Except Field.Rejection LoggingSettings :=
  (Settings.load (Sources.of [(Text.ofString name, Text.ofString value)] "")).map Settings.logging

def askWith (level : Int) (dir : String) : Entries :=
  [("name", .string "n"), ("level", .int level), ("log_to_file", .bool false),
    ("log_dir", .string dir)]

theorem given_choices_decide_plain :
    let quiet : LoggingSettings := ⟨"ERROR", false, "logs"⟩
    let moved : LoggingSettings := ⟨"INFO", false, "elsewhere"⟩
    let later : List Step :=
      [.log 0 .warning (.string "hi") [] calm, .log 0 .debug (.string "ho") [] calm]
    settingsOf "LOG_LEVEL" "ERROR" = .ok quiet ∧ settingsOf "LOG_DIR" "elsewhere" = .ok moved ∧
      (initial .bare).request quiet ⟨2024, 1, 2⟩ (askWith 10 "d") =
        (initial .bare).request moved ⟨2024, 1, 2⟩ (askWith 10 "d") ∧
      resume quiet ((initial .bare).request quiet ⟨2024, 1, 2⟩ (askWith 10 "d")).1 later =
        resume moved ((initial .bare).request moved ⟨2024, 1, 2⟩ (askWith 10 "d")).1 later := by
  intro quiet moved later
  obtain ⟨request, read⟩ : ∃ request, LogRequest.read (askWith 10 "d") = .ok request := ⟨_, rfl⟩
  have agrees : request.Agrees quiet moved := by
    cases read
    exact ⟨.inl rfl, .inl nofun, .inl rfl⟩
  obtain ⟨alike, _⟩ := given_choices_decide (initial .bare) ⟨2024, 1, 2⟩ read quiet moved
  obtain ⟨same, resumed⟩ := alike agrees
  have calls : ∀ step ∈ later, step.isCall = true := by simp [later, Step.isCall]
  exact ⟨rfl, rfl, same,
    (resumed later fun step member => Step.decided_of_call (calls step member) quiet moved).1⟩

/-- A level of zero is given and still decided by the settings: under the one a warning stands on
the console, under the other it does not. With a directory of no characters they decide the name of
the file. -/
theorem zero_level_decided_by_settings :
    let quiet : LoggingSettings := ⟨"ERROR", false, "logs"⟩
    let moved : LoggingSettings := ⟨"INFO", false, "elsewhere"⟩
    let steps : List Step :=
      [.request ⟨2024, 1, 2⟩ (askWith 0 "d"), .log 0 .warning (.string "hi") [] calm]
    let filename (settings : LoggingSettings) : Option Text :=
      ((initial .bare).request settings ⟨2024, 1, 2⟩ (askWith 20 "")).2.toOption.bind
        LogHandle.filename
    settingsOf "LOG_LEVEL" "ERROR" = .ok quiet ∧ settingsOf "LOG_DIR" "elsewhere" = .ok moved ∧
      (run quiet .bare steps).console 0 = [] ∧
      (run moved .bare steps).console 0 = Text.ofString "WARNING n [main] hi\n" ∧
      filename quiet = some "logs/n_2024-01-02.log" ∧
      filename moved = some "elsewhere/n_2024-01-02.log" :=
  ⟨rfl, rfl, rfl, rfl, rfl, rfl⟩

end Journal

end MarketSnapshot
