import SearchClause.Command.Run
import SearchClause.Proofs.Precedence

/-!
# Settings without warnings

The warnings and the command that compiles a query answer the same questions apart from each other:
the warnings go through all dialects, the command looks one up by its name. Here the two are brought
together.

* **refusals** — the words of a `Refusal` do not give it away, since a name may hold any characters.
  So the theorems are about refusals and not about words, and about `Run.attempt`, what a query
  comes to before anything is said; `Run.compile_of_attempt` says that the command ends as the
  attempt does.
* **warnings** — `Settings.anonymousColumns_mem_warnings` and `Settings.unknownDefault_mem_warnings`
  say what a warning means for looking up a name. Names occur once among dialects, so the dialect
  that is warned about is the one that is found.
-/

namespace SearchClause

/-! ## Dialects by name -/

namespace Dialects

variable {name : Text} {template : Template}

theorem mem_of_find?_eq_some {entries : List (Text × Template)}
    (h : find? name entries = some template) : (name, template) ∈ entries := by
  induction entries with
  | nil => cases h
  | cons e rest ih =>
    obtain ⟨n, t⟩ := e
    by_cases hn : n = name
    · subst hn
      rw [find?_self] at h
      cases h
      exact List.mem_cons_self
    · rw [find?_of_ne hn] at h
      exact List.mem_cons_of_mem _ (ih h)

/-- In the order of names, an entry is the one that its name finds. -/
theorem find?_eq_some_of_mem {entries : List (Text × Template)}
    (hsorted : entries.Pairwise fun a b => Text.precedes a.1 b.1)
    (h : (name, template) ∈ entries) : find? name entries = some template := by
  induction entries with
  | nil => cases h
  | cons e rest ih =>
    obtain ⟨hfirst, hrest⟩ := List.pairwise_cons.1 hsorted
    rcases List.mem_cons.1 h with rfl | h
    · exact find?_self rest
    · have hne : e.1 ≠ name := by
        intro heq
        have hself := hfirst _ h
        rw [heq, Text.precedes_irrefl] at hself
        cases hself
      exact (find?_of_ne hne rest).trans (ih hrest h)

theorem get?_eq_some_iff {d : Dialects} :
    d.get? name = some template ↔ (name, template) ∈ d.entries :=
  ⟨mem_of_find?_eq_some, find?_eq_some_of_mem d.sorted⟩

theorem mem_names_iff {d : Dialects} : name ∈ d.names ↔ ∃ t, d.get? name = some t := by
  simp [names, get?_eq_some_iff]

theorem get?_eq_none_iff {d : Dialects} : d.get? name = none ↔ name ∉ d.names := by
  rw [mem_names_iff, Option.eq_none_iff_forall_ne_some, not_exists]

end Dialects

/-! ## What the warnings say -/

namespace Settings

variable {s : Settings} {name : Text}

theorem anonymousColumns_mem_warnings :
    .anonymousColumns name ∈ s.warnings ↔
      ∃ t, s.dialects.get? name = some t ∧ t.misaligned = true := by
  simp only [warnings, Dialects.get?_eq_some_iff]
  constructor
  · intro h
    rcases List.mem_append.1 h with h | h
    · obtain ⟨⟨n, t⟩, hentry, h⟩ := List.mem_flatMap.1 h
      have hown : t.misaligned = true ∧ name = n := by
        simpa [Template.warnings] using h
      exact ⟨t, hown.2 ▸ hentry, hown.1⟩
    · simp at h
  · rintro ⟨t, hentry, hanonymous⟩
    refine List.mem_append_left _ (List.mem_flatMap.2 ⟨_, hentry, ?_⟩)
    simp [Template.warnings, hanonymous]

theorem unknownDefault_mem_warnings :
    .unknownDefault name ∈ s.warnings ↔ name = s.query.dialect ∧ name ∉ s.dialects.names := by
  have hdialects : .unknownDefault name ∉ s.dialects.entries.flatMap fun e => e.2.warnings e.1 := by
    simp [Template.warnings]
  simp only [warnings, List.mem_append, hdialects, false_or, List.mem_ite_nil_right,
    List.mem_singleton, ConfigWarning.unknownDefault.injEq, Option.isNone_iff_eq_none,
    Dialects.get?_eq_none_iff]
  constructor
  · rintro ⟨hnone, rfl⟩
    exact ⟨rfl, hnone⟩
  · rintro ⟨rfl, hnone⟩
    exact ⟨hnone, rfl⟩

/-- Without warnings, a template that is found can be matched with its values. -/
theorem misaligned_eq_false_of_clean (h : s.warnings = []) {t : Template}
    (hget : s.dialects.get? name = some t) : t.misaligned = false := by
  by_contra hmisaligned
  have hwarned : .anonymousColumns name ∈ s.warnings :=
    anonymousColumns_mem_warnings.2 ⟨t, hget, by simpa using hmisaligned⟩
  simp [h] at hwarned

/-- Without warnings, the dialect used when none is asked for is there. -/
theorem getD_mem_names_of_clean (h : s.warnings = []) {asked : Option Text}
    (hasked : ∀ name ∈ asked, name ∈ s.dialects.names) :
    asked.getD s.query.dialect ∈ s.dialects.names := by
  cases asked with
  | some name => exact hasked name rfl
  | none =>
    by_contra hunknown
    have hwarned : .unknownDefault s.query.dialect ∈ s.warnings :=
      unknownDefault_mem_warnings.2 ⟨rfl, hunknown⟩
    simp [h] at hwarned

end Settings

/-! ## Refusals -/

namespace Run

/-- Before a query is read, only the log is written to. -/
theorem exists_events_prepared (s : Settings) (raw : Bool) (query : Text) :
    ∃ events : List Log.Event, (prepared s raw query).2 = events.map .log := by
  delta prepared
  dsimp only
  split
  · exact ⟨[], rfl⟩
  · split
    · exact ⟨[], rfl⟩
    · exact ⟨[_], rfl⟩

/-- The command ends as the attempt does: a refusal is its one complaint, and what has been compiled
is reported. Apart from that there are only events for the log. -/
theorem compile_of_attempt (s : Settings) (query : Text) (asked : Option Text)
    (json raw flat : Bool) :
    ∃ events : List Log.Event,
      (∀ r, attempt s query asked raw flat = .error r →
        compile s query asked json raw flat = (1, events.map .log ++ [complaint r.report])) ∧
      (∀ c, attempt s query asked raw flat = .ok c →
        ∃ style, compile s query asked json raw flat =
          (0, events.map .log ++
            compiledReport (asked.getD s.query.dialect) style json c)) := by
  rw [compile, attempt]
  cases dialectFor s asked flat with
  | error refusal => exact ⟨[], by rintro _ ⟨⟩; rfl, by rintro _ ⟨⟩⟩
  | ok template =>
    obtain ⟨said, hsaid⟩ := exists_events_prepared s raw query
    generalize prepared s raw query = input at hsaid ⊢
    obtain ⟨input, events⟩ := input
    obtain rfl : events = said.map .log := hsaid
    obtain ⟨read, hread⟩ : ∃ e, normalizedEvent input = .log e := ⟨_, rfl⟩
    dsimp only [bind, Except.bind]
    cases compileIn s template flat input with
    | error refusal =>
      refine ⟨if flat then said else said ++ [read], ?_, by rintro _ ⟨⟩⟩
      rintro _ ⟨⟩
      cases flat with
      | true => rfl
      | false => simp [hread]
    | ok c =>
      obtain ⟨built, hbuilt⟩ : ∃ e, compiledEvent c = .log e := ⟨_, rfl⟩
      refine ⟨if flat then said else said ++ [read, built], by rintro _ ⟨⟩, ?_⟩
      rintro _ ⟨⟩
      refine ⟨if flat then .numbered else template.param, ?_⟩
      cases flat with
      | true => rfl
      | false => simp [hread, hbuilt]

section

variable {s : Settings} {query : Text} {asked : Option Text} {raw flat : Bool}

theorem attempt_of_unknown (h : asked.getD s.query.dialect ∉ s.dialects.names) :
    attempt s query asked raw flat =
      .error (.unknownDialect ⟨asked.getD s.query.dialect, s.dialects.names⟩) := by
  rw [attempt, dialectFor, Settings.dialect, Dialects.get?_eq_none_iff.2 h]
  rfl

theorem attempt_of_known {template : Template}
    (h : s.dialects.get? (asked.getD s.query.dialect) = some template) :
    attempt s query asked raw flat =
      if !flat && template.misaligned then
        .error (.anonymousParameters (asked.getD s.query.dialect) template.columns.length)
      else compileIn s template flat (prepared s raw query).1 := by
  rw [attempt, dialectFor, Settings.dialect, h]
  dsimp only
  split
  · rfl
  · rfl

/-- All there is to refuse: a name that is not there, else a template that cannot be matched, else a
query that cannot be read. For the flat form only the name matters. -/
theorem attempt_eq_error_iff {r : Refusal} :
    attempt s query asked raw flat = .error r ↔
      asked.getD s.query.dialect ∉ s.dialects.names ∧
          r = .unknownDialect ⟨asked.getD s.query.dialect, s.dialects.names⟩ ∨
        flat = false ∧ ∃ template, s.dialects.get? (asked.getD s.query.dialect) = some template ∧
          (template.misaligned = true ∧
              r = .anonymousParameters (asked.getD s.query.dialect) template.columns.length ∨
            template.misaligned = false ∧ ∃ e, r = .query e ∧
              buildTree s.depthLimit (prepared s raw query).1 = .error e) := by
  cases hget : s.dialects.get? (asked.getD s.query.dialect) with
  | none =>
    have hunknown := Dialects.get?_eq_none_iff.1 hget
    simp [attempt_of_unknown hunknown, hunknown, @eq_comm _ r]
  | some template =>
    have hknown : asked.getD s.query.dialect ∈ s.dialects.names :=
      Dialects.mem_names_iff.2 ⟨template, hget⟩
    simp only [attempt_of_known hget, hknown, not_true_eq_false, false_and, false_or,
      Option.some.injEq, exists_eq_left']
    cases flat with
    | true => simp [compileIn]
    | false =>
      cases template.misaligned with
      | true => simp [@eq_comm _ r]
      | false =>
        rw [compileIn, Settings.buildQuery]
        cases buildTree s.depthLimit (prepared s raw query).1 <;>
          simp [Except.map, Except.mapError, @eq_comm _ r]

/-- The command that looks for mistakes succeeds exactly if there are no warnings. -/
theorem check_succeeds_iff {files : List Text} : (check files s).1 = 0 ↔ s.warnings = [] := by
  delta check
  dsimp only
  cases s.warnings with
  | nil => exact ⟨fun _ => rfl, fun _ => rfl⟩
  | cons w rest => exact ⟨by rintro ⟨⟩, by rintro ⟨⟩⟩

/-- **Settings without warnings compile every query that can be read**, in any dialect they have, and
the flat form of every query. If no dialect is asked for, the default one is missing exactly if there
is a warning that it is; and a dialect is refused for its placeholders exactly if there is a warning
about that dialect. The first part ties the attempt, of which the others speak, to the exit code of
the command and to all it says. -/
theorem compile_refuses_as_warned (s : Settings) (query : Text) (asked : Option Text)
    (json raw flat : Bool) :
    (∃ events : List Log.Event,
      (∀ r, attempt s query asked raw flat = .error r →
        compile s query asked json raw flat = (1, events.map .log ++ [complaint r.report])) ∧
      (∀ c, attempt s query asked raw flat = .ok c →
        ∃ style, compile s query asked json raw flat =
          (0, events.map .log ++
            compiledReport (asked.getD s.query.dialect) style json c))) ∧
    (∀ files, (check files s).1 = 0 ↔ s.warnings = []) ∧
    (s.warnings = [] → (∀ name ∈ asked, name ∈ s.dialects.names) →
      ∀ r, attempt s query asked raw flat = .error r ↔
        flat = false ∧ ∃ e, r = .query e ∧
          buildTree s.depthLimit (prepared s raw query).1 = .error e) ∧
    (asked = none → ∀ name,
      (∃ names, attempt s query asked raw flat = .error (.unknownDialect ⟨name, names⟩)) ↔
        .unknownDefault name ∈ s.warnings) ∧
    (∀ name,
      (∃ columns, attempt s query asked raw flat = .error (.anonymousParameters name columns)) ↔
        flat = false ∧ name = asked.getD s.query.dialect ∧
          .anonymousColumns name ∈ s.warnings) := by
  refine ⟨compile_of_attempt s query asked json raw flat, fun _ => check_succeeds_iff, ?_, ?_, ?_⟩
  · intro hclean hasked r
    have hknown := Settings.getD_mem_names_of_clean hclean hasked
    obtain ⟨template, hget⟩ := Dialects.mem_names_iff.1 hknown
    have haligned := Settings.misaligned_eq_false_of_clean hclean hget
    simp [attempt_eq_error_iff, hknown, hget, haligned]
  · rintro rfl name
    simp only [attempt_eq_error_iff, Settings.unknownDefault_mem_warnings]
    constructor
    · rintro ⟨names, ⟨hunknown, ⟨⟩⟩ | ⟨-, template, -, ⟨-, ⟨⟩⟩ | ⟨-, e, ⟨⟩, -⟩⟩⟩
      exact ⟨rfl, hunknown⟩
    · rintro ⟨rfl, hunknown⟩
      exact ⟨_, .inl ⟨hunknown, rfl⟩⟩
  · intro name
    simp only [attempt_eq_error_iff, Settings.anonymousColumns_mem_warnings]
    constructor
    · rintro ⟨columns, ⟨-, ⟨⟩⟩ | ⟨hflat, template, hget, ⟨hmisaligned, ⟨⟩⟩ | ⟨-, e, ⟨⟩, -⟩⟩⟩
      exact ⟨hflat, rfl, template, hget, hmisaligned⟩
    · rintro ⟨hflat, rfl, template, hget, hmisaligned⟩
      exact ⟨_, .inr ⟨hflat, template, hget, .inl ⟨hmisaligned, rfl⟩⟩⟩

/-- Two dialects, the built-in one and one with anonymous placeholders, and room for one group. -/
def withRows (columns : List Text) : Settings where
  query := ⟨true, 1, "rows"⟩
  dialects := Settings.builtinDialects.insert "rows" ⟨columns, "=", .anonymous⟩
  root := none

/-- With one column there is no warning: a query that is nested too deep is refused for that, and
its flat form is compiled. With two columns there is a warning, and the dialect is refused. -/
theorem compile_refuses_as_warned_rows :
    (withRows ["a"]).warnings = [] ∧ "default".toList ∈ (withRows ["a"]).dialects.names ∧
      attempt (withRows ["a"]) "x ((y))#" (some "default") false false =
        .error (.query ⟨.nestingTooDeep, 3, "x+((y))"⟩) ∧
      (∀ r, attempt (withRows ["a"]) "x ((y))#" none false true ≠ .error r) ∧
      .anonymousColumns "rows" ∈ (withRows ["a", "b"]).warnings ∧
      ∃ columns, attempt (withRows ["a", "b"]) "x" none false false =
        .error (.anonymousParameters "rows" columns) := by
  have hclean : (withRows ["a"]).warnings = [] := by decide
  have hnames : ∀ name ∈ some "default".toList, name ∈ (withRows ["a"]).dialects.names := by
    decide
  have hdeep : buildTree (withRows ["a"]).depthLimit
      (prepared (withRows ["a"]) false "x ((y))#").1 = .error ⟨.nestingTooDeep, 3, "x+((y))"⟩ := by
    decide +kernel
  have hwarned : .anonymousColumns "rows" ∈ (withRows ["a", "b"]).warnings := by decide
  obtain ⟨-, -, hrefused, -⟩ :=
    compile_refuses_as_warned (withRows ["a"]) "x ((y))#" (some "default") false false false
  obtain ⟨-, -, hflat, -⟩ :=
    compile_refuses_as_warned (withRows ["a"]) "x ((y))#" none false false true
  obtain ⟨-, -, -, -, hwide⟩ :=
    compile_refuses_as_warned (withRows ["a", "b"]) "x" none false false false
  refine ⟨hclean, hnames _ rfl, (hrefused hclean hnames _).2 ⟨rfl, _, rfl, hdeep⟩, ?_, hwarned,
    (hwide "rows").2 ⟨rfl, rfl, hwarned⟩⟩
  intro r hr
  cases ((hflat hclean (by rintro _ ⟨⟩) r).1 hr).1

end

end Run

end SearchClause
