import EmacsBatch.Proofs.Diagnosis

/-!
# The two forms of a report

The doctor prints its report as text or as JSON. As text it can print every report; bytes of a
path that are no text are shown by a stand-in. JSON has no stand-in for them: a report that
shows such a path has no such form, and the doctor then prints nothing and complains, even if
hooks can run. For all other reports the form makes no difference to the exit status, which is
zero exactly if the interpreter and the helper library are there.
-/

namespace EmacsBatch

namespace Doctor

/-- The paths that a report shows. -/
def Report.paths (report : Report) : List Bytes :=
  report.emacsPath.toList ++ report.library.toList ++ report.loadPath

/-- Whether all paths of a report are text. -/
def Report.IsText (report : Report) : Prop := ∀ path ∈ report.paths, Utf8.isValid path = true

/-- A path has a JSON form exactly if it is text. -/
theorem isSome_pathJson?_iff (path : Bytes) :
    (Config.pathJson? path).isSome ↔ Utf8.isValid path = true := by
  rw [Config.pathJson?, Option.isSome_map, Utf8.isValid]

/-- A path that may be missing has a JSON form exactly if it is text or missing. -/
theorem isSome_optionalPathJson?_iff (path : Option Bytes) :
    (Doctor.pathJson? path).isSome ↔ ∀ given ∈ path.toList, Utf8.isValid given = true := by
  cases path with
  | none => simp [Doctor.pathJson?]
  | some given =>
    rw [Doctor.pathJson?, isSome_pathJson?_iff]
    simp

/-- A row of paths has a JSON form exactly if all of them are text. -/
theorem isSome_mapM_pathJson?_iff (paths : List Bytes) :
    (paths.mapM Config.pathJson?).isSome ↔ ∀ path ∈ paths, Utf8.isValid path = true := by
  induction paths with
  | nil => simp
  | cons path paths ih =>
    rw [List.forall_mem_cons, ← ih, ← isSome_pathJson?_iff, List.mapM_cons]
    cases Config.pathJson? path <;> cases paths.mapM Config.pathJson? <;> simp

/-- A report has a JSON form exactly if all its paths are text. -/
theorem Report.isSome_toJson?_iff (report : Report) :
    report.toJson?.isSome ↔ report.IsText := by
  have hall : report.IsText ↔ (Doctor.pathJson? report.emacsPath).isSome ∧
      (Doctor.pathJson? report.library).isSome ∧
      (report.loadPath.mapM Config.pathJson?).isSome := by
    rw [isSome_optionalPathJson?_iff, isSome_optionalPathJson?_iff, isSome_mapM_pathJson?_iff,
      IsText, paths, List.forall_mem_append, List.forall_mem_append, and_assoc]
  rw [hall, toJson?]
  cases Doctor.pathJson? report.emacsPath <;> cases Doctor.pathJson? report.library <;>
    cases report.loadPath.mapM Config.pathJson? <;> simp

/-- There is at most one report. -/
theorem Reports.unique {settings : Settings} {fallback : Bytes} {world : World}
    {report other : Report} (h : Reports settings fallback world report)
    (hother : Reports settings fallback world other) : report = other := by
  obtain ⟨here, loads⟩ := h
  obtain ⟨here', loads'⟩ := hother
  cases here.symm.trans here'
  cases loads.symm.trans loads'
  rfl

/-- Without a report the form makes no difference: the doctor only complains. -/
theorem run_of_noReport {settings : Settings} {fallback : Bytes} {world : World}
    (h : ∀ report, ¬ Reports settings fallback world report) :
    ∃ complaint, ∀ json, run settings json fallback world = pure (.error complaint) := by
  cases here : world.currentDirectory with
  | error cause => exact ⟨.noDirectory cause, fun json => by rw [run, here]⟩
  | ok directory =>
    cases loads : settings.loadConfig world directory with
    | error failure => exact ⟨.noConfig failure, fun json => by simp only [run, here, loads]⟩
    | ok config => exact absurd (.intro here loads) (h _)

/-- The doctor is content with a report in a form exactly if it has this form and is healthy. -/
theorem present_eq_ok_iff (report : Report) (json : Bool) :
    (present report json).value = .ok () ↔
      report.healthy = true ∧ (json = true → report.IsText) := by
  rw [← report.isSome_toJson?_iff, present, Report.written?]
  cases json with
  | false =>
    change (if report.healthy then _ else _) = _ ↔ _
    cases report.healthy <;> simp
  | true =>
    cases report.toJson? with
    | none => simp
    | some value =>
      change (if report.healthy then _ else _) = _ ↔ _
      cases report.healthy <;> simp

/-- As text, every report is printed. -/
theorem stdoutOf_present_text (report : Report) :
    stdoutOf (present report false).trace = Utf8.encode report.text :=
  List.append_nil _

/-- As JSON, a report whose paths are text is printed. -/
theorem stdoutOf_present_json {report : Report} (h : report.IsText) :
    ∃ value, report.toJson? = some value ∧
      stdoutOf (present report true).trace = Utf8.encode (value.pretty ++ "\n") := by
  obtain ⟨value, hvalue⟩ := Option.isSome_iff_exists.1 (report.isSome_toJson?_iff.2 h)
  refine ⟨value, hvalue, ?_⟩
  rw [present, Report.written?, hvalue]
  exact List.append_nil _

/-- As JSON, nothing is printed of a report with a path that is no text. -/
theorem stdoutOf_present_of_not_isText {report : Report} (h : ¬ report.IsText) :
    stdoutOf (present report true).trace = [] := by
  rw [← report.isSome_toJson?_iff, Option.not_isSome_iff_eq_none] at h
  rw [present, Report.written?, h]
  rfl

/-- The exit status is zero if the doctor is content, and one if it complains. -/
theorem execute_value_eq (settings : Settings) (json : Bool) (fallback : Bytes) (world : World) :
    (execute settings json fallback world).value =
      match (run settings json fallback world).value with
      | .ok () => 0
      | .error _ => 1 := by
  rw [execute, Traced.value_bind]
  cases (run settings json fallback world).value with
  | ok done => rfl
  | error complaint => rfl

/-- Two exit statuses are the same exactly if they are zero together. -/
theorem execute_value_eq_iff {settings : Settings} {json json' : Bool} {fallback : Bytes}
    {world : World} :
    (execute settings json fallback world).value = (execute settings json' fallback world).value ↔
      ((execute settings json fallback world).value = 0 ↔
        (execute settings json' fallback world).value = 0) := by
  rw [execute_value_eq, execute_value_eq]
  cases (run settings json fallback world).value <;>
    cases (run settings json' fallback world).value <;> simp

/-- What goes to the standard output is the report in its form. A complaint does not go
there. -/
theorem Reports.stdoutOf_execute {settings : Settings} {fallback : Bytes} {world : World}
    {report : Report} (h : Reports settings fallback world report) (json : Bool) :
    stdoutOf (execute settings json fallback world).trace =
      stdoutOf (present report json).trace := by
  obtain ⟨-, before, hbefore, htrace⟩ := h.run_eq_present json
  have hrun : stdoutOf (Doctor.run settings json fallback world).trace =
      stdoutOf (present report json).trace := by
    rw [htrace, stdoutOf_append, hbefore, List.nil_append]
  rw [execute, Traced.trace_bind, stdoutOf_append, hrun]
  cases (Doctor.run settings json fallback world).value with
  | ok done => exact List.append_nil _
  | error complaint => exact List.append_nil _

/-- The exit status is zero exactly if there is a healthy report that has the wanted form. -/
theorem execute_value_eq_zero_iff (settings : Settings) (json : Bool) (fallback : Bytes)
    (world : World) :
    (execute settings json fallback world).value = 0 ↔
      ∃ report, Reports settings fallback world report ∧ report.healthy = true ∧
        (json = true → report.IsText) := by
  have hstatus : (execute settings json fallback world).value = 0 ↔
      (run settings json fallback world).value = .ok () := by
    rw [execute_value_eq]
    cases (run settings json fallback world).value <;> simp
  rw [hstatus]
  by_cases hreport : ∃ report, Reports settings fallback world report
  · obtain ⟨report, h⟩ := hreport
    rw [(h.run_eq_present json).1, present_eq_ok_iff]
    constructor
    · exact fun hcontent => ⟨report, h, hcontent⟩
    · rintro ⟨other, hother, hcontent⟩
      rwa [h.unique hother]
  · obtain ⟨complaint, hrun⟩ := run_of_noReport (not_exists.1 hreport)
    rw [hrun json]
    refine iff_of_false nofun ?_
    rintro ⟨report, h, -⟩
    exact hreport ⟨report, h⟩

/-- As text, the doctor ends with status zero exactly if it comes to a report and this is
healthy; as JSON, all paths of the report must be text besides. The two statuses are the same
exactly if a healthy report has only such paths. Whenever there is a report it is printed as
text; as JSON it is printed if its paths are text, and nothing is printed otherwise. Without a
report the form makes no difference at all. -/
theorem execute_in_two_formats (settings : Settings) (fallback : Bytes) (world : World) :
    ((execute settings false fallback world).value = 0 ↔
      ∃ report, Reports settings fallback world report ∧ report.healthy = true) ∧
    ((execute settings true fallback world).value = 0 ↔
      ∃ report, Reports settings fallback world report ∧ report.healthy = true ∧
        ∀ path ∈ report.paths, Utf8.isValid path = true) ∧
    ((execute settings true fallback world).value = (execute settings false fallback world).value ↔
      ∀ report, Reports settings fallback world report → report.healthy = true →
        ∀ path ∈ report.paths, Utf8.isValid path = true) ∧
    (∀ report, Reports settings fallback world report →
      stdoutOf (execute settings false fallback world).trace = Utf8.encode report.text ∧
      ((∀ path ∈ report.paths, Utf8.isValid path = true) →
        ∃ value, report.toJson? = some value ∧
          stdoutOf (execute settings true fallback world).trace =
            Utf8.encode (value.pretty ++ "\n")) ∧
      (∀ path ∈ report.paths, Utf8.isValid path = false →
        stdoutOf (execute settings true fallback world).trace = [])) ∧
    ((∀ report, ¬ Reports settings fallback world report) →
      execute settings true fallback world = execute settings false fallback world) := by
  have htext := execute_value_eq_zero_iff settings false fallback world
  have hjson := execute_value_eq_zero_iff settings true fallback world
  simp only [Bool.false_eq_true, false_implies, and_true] at htext
  simp only [true_implies] at hjson
  refine ⟨htext, hjson, ?_, ?_, ?_⟩
  · rw [execute_value_eq_iff]
    constructor
    · intro hsame report h hhealthy
      obtain ⟨other, hother, -, hvalid⟩ := hjson.1 (hsame.2 (htext.2 ⟨report, h, hhealthy⟩))
      rwa [h.unique hother]
    · intro hvalid
      rw [htext, hjson]
      constructor
      · exact fun ⟨report, h, hhealthy, _⟩ => ⟨report, h, hhealthy⟩
      · exact fun ⟨report, h, hhealthy⟩ => ⟨report, h, hhealthy, hvalid report h hhealthy⟩
  · intro report h
    rw [h.stdoutOf_execute, h.stdoutOf_execute]
    refine ⟨stdoutOf_present_text report, stdoutOf_present_json, ?_⟩
    intro path hpath hinvalid
    refine stdoutOf_present_of_not_isText fun hvalid => ?_
    exact Bool.false_ne_true (hinvalid.symm.trans (hvalid path hpath))
  · intro h
    obtain ⟨complaint, hrun⟩ := run_of_noReport h
    rw [execute, execute, hrun true, hrun false]

/-- A directory whose name is no text: the doctor is content with its report as text, and prints
nothing and complains if the report should be JSON. -/
theorem execute_of_directory_without_text :
    (execute { emacs := some "/emacs", loadPath := [[0xFF]] } false (Utf8.encode "/lib.el")
      smallWorld).value = 0 ∧
    (execute { emacs := some "/emacs", loadPath := [[0xFF]] } true (Utf8.encode "/lib.el")
      smallWorld).value = 1 ∧
    stdoutOf (execute { emacs := some "/emacs", loadPath := [[0xFF]] } false
      (Utf8.encode "/lib.el") smallWorld).trace ≠ [] ∧
    stdoutOf (execute { emacs := some "/emacs", loadPath := [[0xFF]] } true
      (Utf8.encode "/lib.el") smallWorld).trace = [] := by
  decide +kernel

end Doctor

end EmacsBatch
