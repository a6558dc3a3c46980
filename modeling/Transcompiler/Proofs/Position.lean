/-
# From a report of the Java compiler to the text that the user sees

The Java compiler reports an error by a line number, a quoted line and a caret. On
its way to the user the report is read, the number is looked up in the lines of the
Java text, and the line is quoted again with a caret below it. The main statement,
`allPrinted_ofFile_of_error`, puts the parts together: for a unit that is rejected
with one error, exactly one text about it is printed. It names the file, the line,
the column and the message of the report, and quotes the line of the Java text,
which is the line of the source if no edit starts on it.

Two things are asked of the machine: the time that the compiler took can be told, and
there is room for the caret.
-/

import Transcompiler.Proofs.Agreement
import Transcompiler.Proofs.JavaCompiler
import Transcompiler.Proofs.Lines
import Transcompiler.Proofs.Printing

namespace Transcompiler

/-! ## The report -/

namespace Report

/-- The report of one error: its heading, the quoted line and the caret. -/
def Place.errorLines (place : Place) (message : Text) : List Text :=
  (place.label ++ "error: ".toList ++ message) :: place.quotation

/-- The report of one error is read as that error, with or without a line feed at the
end. -/
theorem parse_errorLines {place : Place} {message report : Text} (h : Text.Unbroken message)
    (hreport : report = Text.unlines (place.errorLines message) ∨
      report = (place.errorLines message).flatMap (· ++ ['\n'])) :
    parse report = .ok [⟨.error, place.line, place.column, message⟩] := by
  have hlines : printed [Record.errorAt place message h] [] = place.errorLines message := by
    rw [printed_cons]
    rfl
  have hunbroken : ∀ line ∈ place.errorLines message, Text.Unbroken line :=
    hlines ▸ fun line hmem => unbroken_of_mem_printed _ _ hmem
  have hlast : ∀ line ∈ (place.errorLines message).getLast?, line ≠ [] :=
    hlines ▸ ne_nil_of_getLast?_printed _ _
  have hread : Text.reportLines report = printed [Record.errorAt place message h] [] := by
    rw [hlines]
    rcases hreport with rfl | rfl
    · exact Text.reportLines_unlines hunbroken hlast
    · exact Text.reportLines_flatMap_newline hunbroken
  rw [parse_of_reportLines _ _ hread]
  simp [Record.diagnostic, Record.errorAt, Record.kind, Severity.kindOf, Text.unlines]

end Report

/-! ## The text about an error -/

/-- The text about an error in a file: the place, the message, and a line with a caret
below it. -/
def errorText (file : String) (line column : Nat) (message quoted : Text) : String :=
  "Error: " ++ file ++ ".\nLine " ++ toString line ++ " At " ++ toString column ++ ": error: " ++
    String.ofList message ++ "\n" ++ String.ofList quoted ++ "\n" ++
    String.ofList (List.replicate (column - 1) ' ') ++ "^\n"

theorem Diagnostic.lineAt?_natCast (lines : List Text) {line : Nat} (h : 1 ≤ line) :
    lineAt? lines line = lines[line - 1]? := by
  rw [lineAt?, if_pos (by omega)]
  congr 1
  omega

theorem Diagnostic.indent_natCast (column : Nat) : indent column = column - 1 := by
  rw [indent]
  omega

theorem Diagnostic.headline_eq_message {diagnostic : Diagnostic}
    (h : '\n' ∉ diagnostic.message) : diagnostic.headline = diagnostic.message := by
  rw [headline, ← List.append_nil diagnostic.message, List.takeWhile_append_of_pos]
  · rfl
  · intro c hmem
    exact decide_eq_true fun hc => h (hc ▸ hmem)

theorem Diagnostic.ofList_quotation {lines : List Text} {line column : Nat} {quoted : Text}
    (hpositive : 1 ≤ line) (hline : lines[line - 1]? = some quoted) :
    String.ofList (quotation lines line column) = String.ofList quoted ++ "\n" ++
      String.ofList (List.replicate (column - 1) ' ') ++ "^" := by
  have hquotation : quotation lines line column =
      quoted ++ ['\n'] ++ List.replicate (column - 1) ' ' ++ ['^'] := by
    simp only [quotation, lineAt?_natCast lines hpositive, hline, indent_natCast,
      List.append_assoc, List.cons_append, List.nil_append]
  rw [hquotation, String.ofList_append, String.ofList_append, String.ofList_append]

/-- The text of an error whose line is there. -/
theorem Diagnostic.shownText_of_error {file : String} {lines : List Text} {line column : Nat}
    {message quoted : Text} (hpositive : 1 ≤ line) (hline : lines[line - 1]? = some quoted)
    (hmessage : '\n' ∉ message) :
    shownText file lines ⟨.error, line, column, message⟩ =
      errorText file line column message quoted := by
  have hheadline : headline ⟨.error, line, column, message⟩ = message :=
    headline_eq_message hmessage
  have hnumber (n : Nat) : toString (n : Int) = toString n := rfl
  have hplace : ".\nLine " = "." ++ ("\n" ++ "Line ") := by decide
  have hkind : ": error: " = ": " ++ ("error" ++ ": ") := by decide
  have hcaret : "^\n" = "^" ++ "\n" := by decide
  have hshown : shownText file lines ⟨.error, line, column, message⟩ =
      "\n".intercalate
        [ "Error: " ++ file ++ ".",
          "Line " ++ toString (line : Int) ++ " At " ++ toString (column : Int) ++ ": " ++
            "error" ++ ": " ++ String.ofList (headline ⟨.error, line, column, message⟩),
          String.ofList (quotation lines line column),
          "" ] := rfl
  refine hshown.trans ?_
  unfold errorText
  simp only [hplace, hkind, hcaret, hnumber, hheadline, ofList_quotation hpositive hline,
    String.intercalate_cons_cons, String.intercalate_singleton, String.append_assoc,
    String.append_empty]

/-- A column that the memory has room for is a short number. -/
theorem Memory.column_lt {memory : Memory} {column : Nat} (h : column ≤ memory.blanks + 1) :
    column < 10 ^ Text.digitLimit := by
  have hlimit := memory.blanks_le
  have hsmall : column < 10 ^ 19 := by
    rw [countLimit] at hlimit
    omega
  calc column < 10 ^ 19 := hsmall
    _ ≤ 10 ^ Text.digitLimit := Nat.pow_le_pow_right (by decide) (by decide)

/-- An error can be shown if its line number can be written and there is room for its
caret. -/
theorem Diagnostic.showable_of_error {memory : Memory} {line column : Nat}
    (hline : line < 10 ^ Text.digitLimit) (hcolumn : column ≤ memory.blanks + 1)
    (lines : List Text) (message : Text) (breakdown : Breakdown) :
    ¬Unshowable memory lines ⟨.error, line, column, message⟩ breakdown := by
  intro hbroken
  have hlimit := memory.blanks_le
  cases hbroken with
  | number _ hlong =>
    rcases hlong with hlong | hlong
    · exact absurd hline (Nat.not_lt.mpr hlong)
    · exact absurd (Memory.column_lt hcolumn) (Nat.not_lt.mpr hlong)
  | count _ _ _ _ hfar =>
    simp only at hfar
    omega
  | room _ _ _ _ hfar _ =>
    simp only at hfar
    omega

/-! ## The line -/

/-- Each line of the Java text is the line of the source with the same number, with
the edits that start on it made at once. -/
theorem JavaUnit.lines_ofOutline {text : Text} {outline : Outline}
    (h : Outline.ofText text = .ok outline) :
    (ofOutline text outline).lines = (Text.lines text).mapIdx fun n line =>
      Edit.simultaneous line (Edit.onLine (Text.lineStart text n) line outline.edits) := by
  obtain ⟨layout, rfl⟩ := Outline.exists_layout_of_ofText h
  exact Edit.lines_applyAll layout.spaced_edits layout.not_mem_span layout.not_mem_replacement

theorem JavaUnit.exists_line {text : Text} {outline : Outline}
    (h : Outline.ofText text = .ok outline) {n : Nat}
    (hn : n < (ofOutline text outline).lines.length) :
    ∃ quoted original, (ofOutline text outline).lines[n]? = some quoted ∧
      (Text.lines text)[n]? = some original ∧
      ((∀ edit ∈ outline.edits, edit.start < Text.lineStart text n ∨
        Text.lineStart text n + original.length < edit.start) → quoted = original) := by
  rw [lines_ofOutline h, List.length_mapIdx] at hn
  have horiginal : (Text.lines text)[n]? = some (Text.lines text)[n] := List.getElem?_eq_getElem hn
  rw [lines_ofOutline h, List.getElem?_mapIdx, horiginal]
  refine ⟨_, _, rfl, rfl, fun helsewhere => ?_⟩
  beta_reduce
  rw [Edit.onLine_eq_nil helsewhere, Edit.simultaneous_nil]

/-! ## The way of an error -/

namespace Javac

/-- A process ended with a code other than zero and reported one error. -/
structure Completed.Reports (completed : Completed) (place : Report.Place) (message : Text) :
    Prop where
  code_ne : completed.code ≠ 0
  message_unbroken : Text.Unbroken message
  report_eq : completed.report = Text.unlines (place.errorLines message) ∨
    completed.report = (place.errorLines message).flatMap (· ++ ['\n'])

section Job

variable {setup : Setup} {job : Job} {executable : String} {path : Path} {state : State}

/-- A process is recorded, and its output passed on, but nothing is printed. -/
theorem allPrinted_run (launch : Launch) (state : State) :
    Event.allPrinted (run launch state).events = [] := by
  simp only [run, State.launch]
  cases (state.executions.headD {}).ending with
  | error failure => rfl
  | ok completed =>
    cases Clock.milliseconds state.clock (state.clock + (state.executions.headD {}).seconds) with
    | error breakdown => rfl
    | ok elapsed =>
      simp only [completedEvents]
      split_ifs <;> rfl

theorem allPrinted_compile (hstarts : Starts setup job executable path) (state : State) :
    Event.allPrinted (compile setup job state).events = [] := by
  rw [compile_of_starts hstarts, allPrinted_run]

theorem result_compile_of_reports {completed : Completed} {place : Report.Place} {message : Text}
    {elapsed : Int} (hstarts : Starts setup job executable path)
    (hprocess : (state.executions.headD {}).ending = .ok completed)
    (herror : completed.Reports place message)
    (hclock : Clock.milliseconds state.clock
      (state.clock + (state.executions.headD {}).seconds) = .ok elapsed) :
    (compile setup job state).result =
      .ok ⟨false, [⟨.error, place.line, place.column, message⟩], elapsed⟩ := by
  have hreport := Report.parse_errorLines herror.message_unbroken herror.report_eq
  rw [result_compile_of_completed hstarts hprocess hreport hclock, decide_eq_false herror.code_ne]

end Job

end Javac

namespace Run

variable {configuration : Configuration} {unit : JavaUnit}

section Listing

variable (hverbosity : configuration.verbosity = .full ∨ configuration.verbosity = .hush)

include hverbosity

theorem tallyTexts_of_listing (tally : Tally) : tallyTexts configuration tally = [] := by
  have hbrief : configuration.verbosity ≠ .brief := by
    rcases hverbosity with h | h <;> simp [h]
  exact if_neg hbrief

/-- An error is shown in every verbosity that lists diagnostics. -/
theorem answerTexts_of_error {line column : Nat} {message quoted : Text} (hpositive : 1 ≤ line)
    (hline : unit.lines[line - 1]? = some quoted) (hmessage : Text.Unbroken message)
    (file : String) (elapsed : Int) :
    answerTexts configuration file unit
        (.ok ⟨false, [⟨.error, line, column, message⟩], elapsed⟩) =
      [errorText file line column message quoted] := by
  have hshown : configuration.verbosity.shows .error = true := by
    rcases hverbosity with h | h <;> simp [h, Verbosity.shows]
  have hfeed : '\n' ∉ message := fun hmem => absurd (hmessage '\n' hmem) (by decide)
  rw [← Diagnostic.shownText_of_error hpositive hline hfeed]
  simp [answerTexts, Diagnostic.fragments, hshown]

end Listing

/-- The source file holds an encoded text without carriage returns, and the process that
compiles its unit ends with a code other than zero and reports one error, on a line that
the Java text has. In a verbosity that lists diagnostics, the unit is rejected and
exactly one text is printed between the options and the closing lines. It has the line
number, the column and the message of the report, and quotes that line of the Java text.
If no edit starts on the line, it is the line of the source. The machine can tell the
time that the process took, and has room for the caret. -/
theorem allPrinted_ofFile_of_error {machine : Machine} {file : String} {text : Text}
    (hfile : machine.files.entry (Path.ofString file) = .file (Utf8.encode text))
    (hreturn : '\r' ∉ text) (hunit : JavaUnit.ofText text = .ok unit)
    (hverbosity : configuration.verbosity = .full ∨ configuration.verbosity = .hush)
    {setup : Javac.Setup} {executable : String} {path : Path}
    (hstarts : Javac.Starts setup (Job.ofUnit configuration unit) executable path)
    {state : Javac.State} {completed : Javac.Completed}
    (hprocess : (state.executions.headD {}).ending = .ok completed)
    {place : Report.Place} {message : Text} (herror : completed.Reports place message)
    (hline : place.line ≤ unit.lines.length) {elapsed : Int}
    (htime : Clock.milliseconds state.clock
      (state.clock + (state.executions.headD {}).seconds) = .ok elapsed)
    (hroom : place.column ≤ machine.memory.blanks + 1) :
    let run := ofFile configuration machine (Javac.service setup) file state
    ∃ result outline quoted original,
      run.ending = .ok result ∧ result.accepted = false ∧
      Event.allPrinted run.events = headerTexts configuration ++
        [errorText file place.line place.column message quoted] ++
          footerTexts configuration result ∧
      Outline.ofText text = .ok outline ∧ unit.lines[place.line - 1]? = some quoted ∧
      (Text.lines text)[place.line - 1]? = some original ∧
      ((∀ edit ∈ outline.edits, edit.start < Text.lineStart text (place.line - 1) ∨
        Text.lineStart text (place.line - 1) + original.length < edit.start) →
          quoted = original) := by
  intro run
  have hunitIn : unitIn machine.files file = .ok unit := by
    rw [unitIn_of_encode hfile hreturn, hunit]
    rfl
  generalize hreply : (Javac.service setup).compile (Job.ofUnit configuration unit) state = reply
  -- The service and the run look at the same two clock readings.
  have hclock : Clock.milliseconds ((Javac.service setup).clock state)
      ((Javac.service setup).clock reply.state) = .ok elapsed := by
    have hstop : (Javac.service setup).clock reply.state =
        state.clock + (state.executions.headD {}).seconds := by
      subst hreply
      exact Javac.clock_compile hstarts state
    rw [hstop]
    exact htime
  have hresult : reply.result =
      .ok ⟨false, [⟨.error, place.line, place.column, message⟩], elapsed⟩ := by
    subst hreply
    exact Javac.result_compile_of_reports hstarts hprocess herror htime
  have hreport : ∀ breakdown,
      ¬Unreportable configuration machine.memory unit reply.result breakdown := by
    rintro breakdown ⟨outcome, houtcome, hbroken⟩
    rw [hresult] at houtcome
    cases houtcome
    obtain ⟨diagnostic, hmem, -, hunshowable⟩ := hbroken.exists_mem
    rw [List.mem_singleton.mp hmem] at hunshowable
    have hwritten := Text.length_toString_le_iff.mp place.line_readable
    exact Diagnostic.showable_of_error hwritten hroom _ _ _ hunshowable
  have hpositive := place.line_pos
  have hinside : place.line - 1 < unit.lines.length := by omega
  obtain ⟨outline, houtline, rfl⟩ := JavaUnit.ofText_eq_ok_iff.mp hunit
  obtain ⟨quoted, original, hquoted, horiginal, hsame⟩ := JavaUnit.exists_line houtline hinside
  obtain ⟨events, hrun⟩ := ofFile_of_finished hunitIn hreply hclock hreport
  have hprinted := allPrinted_ofFile_of_finished hunitIn hreply hclock hreport
  have hservice : Event.allPrinted reply.events = [] := by
    subst hreply
    exact Javac.allPrinted_compile hstarts state
  rw [hresult] at hrun hprinted
  rw [hservice, answerTexts_of_error hverbosity hpositive hquoted herror.message_unbroken,
    tallyTexts_of_listing hverbosity, List.append_nil, List.append_nil] at hprinted
  exact ⟨_, outline, quoted, original, congrArg Run.ending hrun, rfl, hprinted, houtline,
    hquoted, horiginal, hsame⟩

/-- A unit on five lines, the second of which is not edited. -/
def fiveLines : Text := "prog A\x7b\nint x;\nbegin\n\x7b\x7d\n\x7d".toList

/-- Where the parts of the unit are. -/
def fiveLinesOutline : Outline := ⟨0, 6, 15, 24, ['A'], none, [6], []⟩

/-- A machine that holds the five lines wherever one looks, and has room for lines of
a thousand columns. -/
def fiveLineMachine : Machine where
  files := ⟨fun _ => .file (Utf8.encode fiveLines)⟩
  memory := smallMemory

/-- A Java compiler that is named explicitly. -/
def namedSetup : Javac.Setup where
  executable := some "javac"
  files := fiveLineMachine.files
  workingDirectory := ⟨.slash, []⟩
  scratchDirectory := ⟨.slash, []⟩

/-- The fifth column of the second line. -/
def fifthColumn : Report.Place where
  path := "A.java".toList
  line := 2
  column := 5
  source := "int x;".toList
  path_ne_nil := by decide
  path_unbroken := Text.unbroken_of_all rfl
  colon_not_mem := by decide
  line_pos := by decide
  line_readable := by decide
  column_pos := by decide
  source_unbroken := Text.unbroken_of_all rfl
  source_plain := by decide

/-- The process finds an error in the fifth column of the second line. -/
def failedProcess : Javac.Completed where
  code := 1
  report := "A.java:2: error: m\nint x;\n    ^\n".toList

/-- That process is the next one. -/
def failedState : Javac.State where
  executions := [{ ending := .ok failedProcess }]

/-- An error on a line that is not edited is shown with the line of the source. -/
theorem allPrinted_ofFile_of_error_on_second_line :
    Event.allPrinted
        (ofFile {} fiveLineMachine (Javac.service namedSetup) "a.zep" failedState).events =
      ["Error: a.zep.\nLine 2 At 5: error: m\nint x;\n    ^\n"] := by
  have hfile : fiveLineMachine.files.entry (Path.ofString "a.zep") =
      .file (Utf8.encode fiveLines) := rfl
  have hreturn : '\r' ∉ fiveLines := by decide +kernel
  have houtline : Outline.ofText fiveLines = .ok fiveLinesOutline := by decide +kernel
  have hunit := JavaUnit.ofText_eq_ok_iff.mpr ⟨_, houtline, rfl⟩
  have hstarts : Javac.Starts namedSetup
      (Job.ofUnit {} (JavaUnit.ofOutline fiveLines fiveLinesOutline)) "javac"
      ⟨.slash, ["A.java".toList]⟩ :=
    ⟨by decide +kernel, by decide +kernel, by decide +kernel⟩
  have hprocess : (failedState.executions.headD {}).ending = .ok failedProcess := rfl
  have herror : failedProcess.Reports fifthColumn ['m'] :=
    ⟨by decide, Text.unbroken_of_all rfl, .inr (by decide +kernel)⟩
  have hlength : fifthColumn.line ≤
      (JavaUnit.ofOutline fiveLines fiveLinesOutline).lines.length := by
    rw [JavaUnit.lines_ofOutline houtline, List.length_mapIdx]
    decide +kernel
  have htime : Clock.milliseconds 0 (0 + 0) = .ok 0 := by rw [zero_add_zero, milliseconds_zero]
  have hroom : fifthColumn.column ≤ fiveLineMachine.memory.blanks + 1 := by decide
  obtain ⟨result, outline, quoted, original, -, -, hprinted, hsource, -, horiginal, hsame⟩ :=
    allPrinted_ofFile_of_error hfile hreturn hunit (.inl rfl) hstarts hprocess herror hlength
      htime hroom
  rw [houtline] at hsource
  cases hsource
  have hsecond : (Text.lines fiveLines)[1]? = some "int x;".toList := by decide +kernel
  cases hsecond.symm.trans horiginal
  have hshown : errorText "a.zep" 2 5 ['m'] "int x;".toList =
      "Error: a.zep.\nLine 2 At 5: error: m\nint x;\n    ^\n" := by decide +kernel
  rw [hprinted, hsame (by decide +kernel)]
  exact congrArg (fun shown => [shown]) hshown

end Run

end Transcompiler
