import CodeReview.Logger
import CodeReview.Proofs.Text.Capitals

/-!
What calls that set up a logger leave of it. A name is looked up in capitals among all that the
logging library keeps under a name. Nothing with a small letter in its name can come up there, so
what comes up is a level, nothing, or one of two things that are no level. Only the last makes a
call fail, and then the logger is as it was; the last call that succeeds decides.
-/

namespace CodeReview

namespace NotLevel

theorem mem_all (kept : NotLevel) : kept ∈ all := by
  cases kept <;> decide

theorem name_injective {a b : NotLevel} (h : a.name = b.name) : a = b := by
  revert h
  cases a <;> cases b <;> decide

end NotLevel

namespace Logger

/-- The names with a small letter under which the logging library keeps something: its classes and
functions, what it imports, the parts of it that are loaded on demand, and what any library has. -/
def smallNames : List String :=
  ["BufferingFormatter", "FileHandler", "Filter", "Filterer", "Formatter", "GenericAlias",
    "Handler", "LogRecord", "Logger", "LoggerAdapter", "Manager", "NullHandler", "PercentStyle",
    "PlaceHolder", "RootLogger", "StrFormatStyle", "StreamHandler", "StringTemplateStyle",
    "Template", "_StderrHandler", "__all__", "__annotations__", "__author__", "__builtins__",
    "__cached__", "__class__", "__date__", "__delattr__", "__dict__", "__dir__", "__doc__",
    "__eq__", "__file__", "__format__", "__ge__", "__getattribute__", "__getstate__", "__gt__",
    "__hash__", "__init__", "__init_subclass__", "__le__", "__loader__", "__lt__", "__name__",
    "__ne__", "__new__", "__package__", "__path__", "__reduce__", "__reduce_ex__", "__repr__",
    "__setattr__", "__sizeof__", "__spec__", "__status__", "__str__", "__subclasshook__",
    "__version__", "_acquireLock", "_addHandlerRef", "_after_at_fork_child_reinit_locks",
    "_at_fork_reinit_lock_weakset", "_checkLevel", "_defaultFormatter", "_defaultLastResort",
    "_handlerList", "_handlers", "_is_internal_frame", "_levelToName", "_lock", "_logRecordFactory",
    "_loggerClass", "_nameToLevel", "_register_at_fork_reinit_lock", "_releaseLock",
    "_removeHandlerRef", "_showwarning", "_srcfile", "_startTime", "_str_formatter",
    "_warnings_showwarning", "addLevelName", "atexit", "basicConfig", "captureWarnings",
    "collections", "config", "critical", "currentframe", "debug", "disable", "error", "exception",
    "fatal", "getLevelName", "getLevelNamesMapping", "getLogRecordFactory", "getLogger",
    "getLoggerClass", "handlers", "info", "io", "lastResort", "log", "logMultiprocessing",
    "logProcesses", "logThreads", "makeLogRecord", "os", "raiseExceptions", "re", "root",
    "setLogRecordFactory", "setLoggerClass", "shutdown", "sys", "threading", "time", "traceback",
    "warn", "warning", "warnings", "weakref"]

def keptNames : List String :=
  levels.map (·.1) ++ NotLevel.all.map NotLevel.name ++ smallNames

/-- In capitals, the name is that of something that is no level. -/
def NamesNoLevel (name : String) : Prop :=
  ∃ kept : NotLevel, kept.name = Text.toUpper name

theorem namesNoLevel_iff {name : String} :
    NamesNoLevel name ↔ Text.toUpper name ∈ NotLevel.all.map NotLevel.name := by
  rw [List.mem_map]
  constructor
  · rintro ⟨kept, hkept⟩
    exact ⟨kept, kept.mem_all, hkept⟩
  · rintro ⟨kept, -, hkept⟩
    exact ⟨kept, hkept⟩

instance (name : String) : Decidable (NamesNoLevel name) :=
  decidable_of_iff _ namesNoLevel_iff.symm

theorem exists_small_of_mem {name : String} (h : name ∈ smallNames) :
    ∃ d ∈ name.toList, d.isLower = true := by
  have hall : (smallNames.all fun name => name.toList.any Char.isLower) = true := by
    decide +kernel
  exact List.any_eq_true.1 (List.all_eq_true.1 hall name h)

theorem mem_keptNames_iff (name : String) :
    Text.toUpper name ∈ keptNames ↔
      (∃ n, (Text.toUpper name, n) ∈ levels) ∨ NamesNoLevel name := by
  have hsmall : Text.toUpper name ∉ smallNames := fun h =>
    Text.toUpper_ne_of_small (exists_small_of_mem h) name rfl
  rw [keptNames, List.mem_append, or_iff_left hsmall, List.mem_append, namesNoLevel_iff]
  simp only [List.mem_map, Prod.exists, exists_and_right, exists_eq_right]

theorem level_unique {name : String} {m n : Nat} (hm : (name, m) ∈ levels)
    (hn : (name, n) ∈ levels) : m = n := by
  have hnames : (levels.map (·.1)).Nodup := by decide
  exact (Prod.mk.inj (List.inj_on_of_nodup_map hnames hm hn rfl)).2

theorem levelOf_eq_error_iff {name : String} {kept : NotLevel} :
    levelOf name = .error kept ↔ kept.name = Text.toUpper name := by
  rw [levelOf]
  constructor
  · intro h
    split at h
    · next hfind =>
      cases h
      simpa using List.find?_some hfind
    · split at h <;> cases h
  · intro h
    split
    · next other hfind =>
      have hother : other.name = Text.toUpper name := by simpa using List.find?_some hfind
      rw [NotLevel.name_injective (hother.trans h.symm)]
    · next hfind =>
      exact absurd (beq_iff_eq.2 h) (List.find?_eq_none.1 hfind kept kept.mem_all)

theorem level_of_levelOf {name : String} {n : Nat} (h : levelOf name = .ok n) :
    (Text.toUpper name, n) ∈ levels ∨ (∀ m, (Text.toUpper name, m) ∉ levels) ∧ n = 30 := by
  rw [levelOf] at h
  split at h
  · cases h
  · split at h
    · next key m hfind =>
      cases h
      obtain rfl : key = Text.toUpper name := by simpa using List.find?_some hfind
      exact .inl (List.mem_of_find?_eq_some hfind)
    · next hfind =>
      cases h
      refine .inr ⟨fun m hm => ?_, rfl⟩
      exact List.find?_eq_none.1 hfind _ hm (beq_iff_eq.2 rfl)

theorem isOk_configure (l : Logger) (name : String) :
    (l.configure name).isOk = (levelOf name).isOk := by
  rw [configure]
  cases levelOf name <;> rfl

theorem exists_of_isOk {l : Logger} {name : String}
    (h : (l.configure name).isOk = true) : ∃ l', l.configure name = .ok l' := by
  cases hl : l.configure name with
  | error kept =>
    rw [hl] at h
    cases h
  | ok l' => exact ⟨l', rfl⟩

theorem configure_eq_error_iff {l : Logger} {name : String} {kept : NotLevel} :
    l.configure name = .error kept ↔ levelOf name = .error kept := by
  rw [configure]
  cases levelOf name <;> simp [Except.map]

/-- The logger is as a call with the name sets it up: it has one handler and hands nothing on, and
its level is the one that is named, or else that of warnings. -/
structure SetUpBy (name : String) (l : Logger) : Prop where
  handler : l.handlers = ["RichHandler"]
  silent : l.propagates = false
  named : ∀ n, (Text.toUpper name, n) ∈ levels → l.level = n
  unnamed : (∀ n, (Text.toUpper name, n) ∉ levels) → l.level = 30

structure Answers (name : String) (outcome : Except NotLevel Logger) : Prop where
  fails : ∀ kept, outcome = .error kept ↔ kept.name = Text.toUpper name
  setsUp : ∀ l, outcome = .ok l → SetUpBy name l

theorem setUpBy_of_configure {l l' : Logger} {name : String} (h : l.configure name = .ok l') :
    SetUpBy name l' := by
  rw [configure] at h
  cases hlevel : levelOf name with
  | error kept =>
    rw [hlevel] at h
    cases h
  | ok n =>
    rw [hlevel] at h
    cases h
    refine ⟨rfl, rfl, fun m hm => ?_, fun hnone => ?_⟩
    · obtain hn | ⟨hnone, -⟩ := level_of_levelOf hlevel
      · exact level_unique hn hm
      · exact absurd hm (hnone m)
    · obtain hn | ⟨-, rfl⟩ := level_of_levelOf hlevel
      · exact absurd hn (hnone n)
      · rfl

theorem answers_configure (l : Logger) (name : String) : Answers name (l.configure name) where
  fails _ := configure_eq_error_iff.trans levelOf_eq_error_iff
  setsUp _ := setUpBy_of_configure

theorem Answers.isOk_iff {name : String} {outcome : Except NotLevel Logger}
    (h : Answers name outcome) : outcome.isOk = true ↔ ¬NamesNoLevel name := by
  cases outcome with
  | error kept => exact iff_of_false (by rintro ⟨⟩) (not_not_intro ⟨kept, (h.fails kept).1 rfl⟩)
  | ok l =>
    refine iff_of_true rfl ?_
    rintro ⟨kept, hkept⟩
    cases (h.fails kept).2 hkept

def after (l : Logger) (name : String) : Logger :=
  match l.configure name with
  | .error _ => l
  | .ok l' => l'

def run (l : Logger) : List String → List (Except NotLevel Logger) × Logger
  | [] => ([], l)
  | name :: names =>
    (l.configure name :: ((l.after name).run names).1, ((l.after name).run names).2)

theorem after_of_no_level (l : Logger) {name : String} (h : NamesNoLevel name) :
    l.after name = l := by
  obtain ⟨kept, hkept⟩ := h
  rw [after, ((answers_configure l name).fails kept).2 hkept]

theorem setUpBy_after (l : Logger) {name : String} (h : ¬NamesNoLevel name) :
    SetUpBy name (l.after name) := by
  have hanswers := answers_configure l name
  rw [after]
  cases hcall : l.configure name with
  | error kept => exact absurd ⟨kept, (hanswers.fails kept).1 hcall⟩ h
  | ok l' => exact hanswers.setsUp l' hcall

theorem run_of_no_level (l : Logger) {names : List String} (h : ∀ name ∈ names, NamesNoLevel name) :
    (l.run names).2 = l := by
  induction names with
  | nil => rfl
  | cons name names ih =>
    rw [List.forall_mem_cons] at h
    rw [run, after_of_no_level l h.1]
    exact ih h.2

theorem setUpBy_run (l : Logger) (before : List String) {last : String} {names : List String}
    (hlast : ¬NamesNoLevel last) (h : ∀ name ∈ names, NamesNoLevel name) :
    SetUpBy last (l.run (before ++ last :: names)).2 := by
  induction before generalizing l with
  | nil =>
    rw [List.nil_append, run, run_of_no_level (l.after last) h]
    exact setUpBy_after l hlast
  | cons name before ih => exact ih (l.after name)

theorem answers_run (l : Logger) (names : List String) :
    List.Forall₂ Answers names (l.run names).1 := by
  induction names generalizing l with
  | nil => exact .nil
  | cons name names ih => exact .cons (answers_configure l name) (ih (l.after name))

theorem all_isOk_iff {names : List String} {outcomes : List (Except NotLevel Logger)}
    (h : List.Forall₂ Answers names outcomes) :
    (∀ r ∈ outcomes, r.isOk = true) ↔ ∀ name ∈ names, ¬NamesNoLevel name := by
  induction h with
  | nil => exact iff_of_true (List.forall_mem_nil _) (List.forall_mem_nil _)
  | cons hanswers _ ih =>
    rw [List.forall_mem_cons, List.forall_mem_cons, hanswers.isOk_iff, ih]

/-- Any texts may be given as levels one after another, but for those that name no level in
capitals: all calls succeed exactly where none of these is among them. The last of the others sets
the logger up, whatever it was, with one handler, and without one the logger is as it was. -/
theorem set_up_by_last_name (l : Logger) (names : List String) :
    (∀ name ∈ names, Text.toUpper name ∈ keptNames ↔
      (∃ n, (Text.toUpper name, n) ∈ levels) ∨ NamesNoLevel name) ∧
    List.Forall₂ Answers names (l.run names).1 ∧
    ((∀ r ∈ (l.run names).1, r.isOk = true) ↔ ∀ name ∈ names, ¬NamesNoLevel name) ∧
    (∀ before last rest, names = before ++ last :: rest → ¬NamesNoLevel last →
      (∀ name ∈ rest, NamesNoLevel name) → SetUpBy last (l.run names).2) ∧
    ((∀ name ∈ names, NamesNoLevel name) → (l.run names).2 = l) := by
  refine ⟨fun name _ => mem_keptNames_iff name, answers_run l names,
    all_isOk_iff (answers_run l names), ?_, run_of_no_level l⟩
  rintro before last rest rfl hlast hrest
  exact setUpBy_run l before hlast hrest

def taken : Logger where
  level := 50
  handlers := ["FileHandler", "StreamHandler"]

/-- In capitals, the dotless i and the ligature are plain letters: the second name is that of a
level, and the third that of the styles. -/
def oddNames : List String := ["debug", "\u0131nfo", "_\uFB06yle\u017F"]

theorem set_up_by_dotless_info :
    ¬NamesNoLevel "\u0131nfo" ∧ NamesNoLevel "_\uFB06yle\u017F" ∧
    (taken.run oddNames).1.map (·.isOk) = [true, true, false] ∧
    (taken.run oddNames).2.handlers = ["RichHandler"] ∧
    (taken.run oddNames).2.propagates = false ∧ (taken.run oddNames).2.level = 20 := by
  have hinfo : ¬NamesNoLevel "\u0131nfo" := by decide +kernel
  have hstyles : NamesNoLevel "_\uFB06yle\u017F" := by decide +kernel
  obtain ⟨-, -, -, hset, -⟩ := set_up_by_last_name taken oddNames
  obtain ⟨hhandler, hsilent, hnamed, -⟩ := hset ["debug"] "\u0131nfo" _ rfl hinfo
    (List.forall_mem_singleton.2 hstyles)
  exact ⟨hinfo, hstyles, by decide +kernel, hhandler, hsilent, hnamed 20 (by decide +kernel)⟩

/-- The name of the format of a record is given as the level: the call fails, and the logger is not
set up. -/
theorem not_set_up_by_name_of_format :
    (run {} ["BASIC_FORMAT"]).1 = [.error .format] ∧
    ¬SetUpBy "BASIC_FORMAT" (run {} ["BASIC_FORMAT"]).2 := by
  have hrun : run {} ["BASIC_FORMAT"] = ([.error .format], {}) := by decide +kernel
  rw [hrun]
  refine ⟨rfl, fun h => ?_⟩
  cases h.handler

end Logger

end CodeReview
