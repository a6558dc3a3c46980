/-
# Compiling a file and compiling its text

A unit can be compiled from a file, by the run of an invocation, and in memory. The
two ways count, select and join the diagnostics each on their own. This module
proves that they agree if the file holds the text: the service gets the same job,
the verdict is the same, and what the run prints about the diagnostics is the report
of the compilation in memory, cut into the texts that are printed one by one.

The jobs of a compilation in memory cannot be seen in its result, so they are read
off a service that writes them down. A report over a diagnostic that cannot be shown
breaks off in both ways, but at different times: in memory only when the report is
asked for, and during the run at once, with the verdict lost. The main statement is
`agrees_ofFile`.
-/

import Transcompiler.InMemory
import Transcompiler.Proofs.Encoding
import Transcompiler.Proofs.Reporting

namespace Transcompiler

variable {σ : Type}

/-- A service that writes down its jobs. -/
def Service.recorded (service : Service σ) : Service (σ × List Job) where
  compile job state :=
    let reply := service.compile job state.1
    ⟨reply.result, reply.events, reply.state, state.2 ++ [job]⟩
  clock state := service.clock state.1

namespace Diagnostic

section Fragments

variable {verbosity : Verbosity} {memory : Memory} {lines : List Text}

/-- Diagnostics that can be shown give their texts, followed by what comes of the rest. -/
theorem mapM_fragment_append {front : List Diagnostic}
    (h : AllShowable verbosity memory lines front) (file : String) (rest : List Diagnostic) :
    ((front ++ rest).filter (verbosity.shows ·.kind)).mapM (fragment memory file lines) =
      ((rest.filter (verbosity.shows ·.kind)).mapM (fragment memory file lines)).map
        (fragments verbosity file lines front ++ ·) := by
  induction front with
  | nil =>
    cases hrest : (rest.filter (verbosity.shows ·.kind)).mapM (fragment memory file lines) <;>
      simp [hrest, fragments, Except.map]
  | cons diagnostic front ih =>
    obtain ⟨hfirst, hfront⟩ := allShowable_cons.mp h
    cases hshows : verbosity.shows diagnostic.kind with
    | false => simpa [hshows, fragments] using ih hfront
    | true =>
      simp only [List.cons_append, List.filter_cons, hshows, if_true, List.mapM_cons,
        fragment_of_showable (hfirst hshows), ih hfront]
      cases (rest.filter (verbosity.shows ·.kind)).mapM (fragment memory file lines) <;>
        simp [fragments, hshows, Except.map, Except.bind, bind, pure, Except.pure]

theorem mapM_fragment_of_allShowable {diagnostics : List Diagnostic}
    (h : AllShowable verbosity memory lines diagnostics) (file : String) :
    (diagnostics.filter (verbosity.shows ·.kind)).mapM (fragment memory file lines) =
      .ok (fragments verbosity file lines diagnostics) := by
  have happend := mapM_fragment_append h file []
  rw [List.append_nil] at happend
  rw [happend, List.filter_nil, List.mapM_nil]
  simp [Except.map, pure, Except.pure]

theorem mapM_fragment_of_breaksOff {diagnostics : List Diagnostic} {breakdown : Breakdown}
    (h : BreaksOff verbosity memory lines diagnostics breakdown) (file : String) :
    (diagnostics.filter (verbosity.shows ·.kind)).mapM (fragment memory file lines) =
      .error breakdown := by
  cases h with
  | intro hfront hshows hbroken =>
    simp only [mapM_fragment_append hfront, List.filter_cons, hshows, if_true, List.mapM_cons,
      hbroken.fragment_eq file]
    rfl

end Fragments

end Diagnostic

namespace InMemory

section Compile

variable {configuration : Configuration} {service : Service σ} {file : String} {text : Text}
  {state : σ} {unit : JavaUnit}

/-- The jobs that compiling a text gives to the service. -/
def jobs (configuration : Configuration) (service : Service σ) (file : String) (text : Text)
    (state : σ) : List Job :=
  (compile configuration service.recorded file text (state, [])).2.2

theorem compile_of_malformed {defect : Defect} (h : JavaUnit.ofText text = .error defect) :
    compile configuration service file text state = (.error (.malformed file defect), state) := by
  simp only [compile, h]

theorem compile_of_failure {failure : Failure} (h : JavaUnit.ofText text = .ok unit)
    (hresult : (service.compile (Job.ofUnit configuration unit) state).result = .error failure) :
    compile configuration service file text state =
      (.error (.failed failure),
        (service.compile (Job.ofUnit configuration unit) state).state) := by
  simp only [compile, h, hresult]

theorem compile_of_outcome {outcome : Outcome} (h : JavaUnit.ofText text = .ok unit)
    (hresult : (service.compile (Job.ofUnit configuration unit) state).result = .ok outcome) :
    compile configuration service file text state =
      (.ok ⟨file, unit, outcome, Tally.ofDiagnostics outcome.diagnostics⟩,
        (service.compile (Job.ofUnit configuration unit) state).state) := by
  simp only [compile, h, hresult]

theorem jobs_of_malformed {defect : Defect} (h : JavaUnit.ofText text = .error defect) :
    jobs configuration service file text state = [] := by
  rw [jobs, compile_of_malformed h]

theorem jobs_of_unit (h : JavaUnit.ofText text = .ok unit) :
    jobs configuration service file text state = [Job.ofUnit configuration unit] := by
  cases hresult : (service.recorded.compile (Job.ofUnit configuration unit) (state, [])).result with
  | error failure =>
    rw [jobs, compile_of_failure h hresult]
    rfl
  | ok outcome =>
    rw [jobs, compile_of_outcome h hresult]
    rfl

theorem state_compile (h : JavaUnit.ofText text = .ok unit) :
    (compile configuration service file text state).2 =
      (service.compile (Job.ofUnit configuration unit) state).state := by
  cases hresult : (service.compile (Job.ofUnit configuration unit) state).result with
  | error failure => rw [compile_of_failure h hresult]
  | ok outcome => rw [compile_of_outcome h hresult]

theorem compile_ne_malformed (h : JavaUnit.ofText text = .ok unit) (name : String)
    (defect : Defect) :
    (compile configuration service file text state).1 ≠ .error (.malformed name defect) := by
  cases hresult : (service.compile (Job.ofUnit configuration unit) state).result with
  | error failure => simp [compile_of_failure h hresult]
  | ok outcome => simp [compile_of_outcome h hresult]

end Compile

/-! ## Reports and what is printed -/

/-- What a run prints about the diagnostics of a unit, against the report on them. The
tally is the whole of a brief report. Diagnostics that are listed are the parts of the
report, and are printed only if the unit is rejected. -/
structure Reported (verbosity : Verbosity) (accepted : Bool) (report : String)
    (shown tally : List String) : Prop where
  of_brief : verbosity = .brief → shown = [] ∧ tally = [report]
  of_mute : verbosity = .mute → shown = [] ∧ tally = [] ∧ report = ""
  of_listing : verbosity = .full ∨ verbosity = .hush →
    tally = [] ∧ if accepted then shown = [] else report = "\n".intercalate shown

section Report

variable {configuration : Configuration} {memory : Memory} {compilation : Compilation}
  {report : String}

/-- A report that does not break off is made, and says what it should. -/
theorem report_of_allShowable {verbosity : Verbosity}
    (h : Diagnostic.AllShowable verbosity memory compilation.unit.lines
      compilation.outcome.diagnostics) :
    compilation.report memory verbosity = .ok (if verbosity = .brief then compilation.tally.render
      else "\n".intercalate (Diagnostic.fragments verbosity compilation.file compilation.unit.lines
        compilation.outcome.diagnostics)) := by
  simp only [Compilation.report, Diagnostic.mapM_fragment_of_allShowable h]
  split_ifs <;> rfl

theorem report_of_breaksOff {verbosity : Verbosity} {breakdown : Breakdown}
    (h : Diagnostic.BreaksOff verbosity memory compilation.unit.lines
      compilation.outcome.diagnostics breakdown) :
    compilation.report memory verbosity = .error breakdown := by
  have hbrief : verbosity ≠ .brief := by
    rintro rfl
    exact h.not_allShowable (Diagnostic.allShowable_of_silent (fun _ => rfl) _)
  simp only [Compilation.report, if_neg hbrief, Diagnostic.mapM_fragment_of_breaksOff h]
  rfl

/-- What is printed about an outcome is the report on it. -/
theorem reported_texts
    (h : Diagnostic.AllShowable configuration.verbosity memory compilation.unit.lines
      compilation.outcome.diagnostics)
    (hreport : compilation.report memory configuration.verbosity = .ok report)
    (htally : compilation.tally = Tally.ofDiagnostics compilation.outcome.diagnostics) :
    Reported configuration.verbosity compilation.accepted report
      (Run.answerTexts configuration compilation.file compilation.unit (.ok compilation.outcome))
      (Run.tallyTexts configuration
        (Run.answerTally configuration (.ok compilation.outcome))) := by
  rw [report_of_allShowable h, Except.ok.injEq] at hreport
  refine ⟨fun hbrief => ?_, fun hmute => ?_, fun hlisting => ?_⟩
  · rw [if_pos hbrief, htally] at hreport
    rw [Run.tallyTexts, if_pos hbrief, Run.answerTally, if_neg (by simp [hbrief]), hreport]
    exact ⟨Run.answerTexts_eq_nil (.inl hbrief) _ _ _, rfl⟩
  · rw [if_neg (by simp [hmute]), Run.fragments_eq_nil (.inr hmute)] at hreport
    exact ⟨Run.answerTexts_eq_nil (.inr hmute) _ _ _, if_neg (by simp [hmute]), hreport.symm⟩
  · have hbrief : configuration.verbosity ≠ .brief := by
      rcases hlisting with h | h <;> simp [h]
    rw [if_neg hbrief] at hreport
    refine ⟨if_neg hbrief, ?_⟩
    simp only [Run.answerTexts, Compilation.accepted]
    split_ifs
    · rfl
    · exact hreport.symm

end Report

end InMemory

namespace Run

open InMemory

theorem unitIn_of_encode {files : FileSystem} {path : String} {text : Text}
    (h : files.entry (Path.ofString path) = .file (Utf8.encode text)) (hreturn : '\r' ∉ text) :
    unitIn files path = (JavaUnit.ofText text).mapError (.malformed path) := by
  rw [unitIn, SourceFile.read_of_encode_of_not_mem h hreturn]

/-- How the run of a file goes along with what came of its text in memory. -/
inductive Agrees (configuration : Configuration) (memory : Memory) (service : Service σ)
    (state : σ) (run : Run σ UnitResult) : Except Trouble Compilation → Prop where
  /-- Both ways find the same defect. -/
  | malformed {name : String} {defect : Defect} :
      run.ending = .error (.malformed name defect) →
      Agrees configuration memory service state run (.error (.malformed name defect))
  /-- The time of the job cannot be told, which only the run tries. -/
  | timeless {compiled : Except Trouble Compilation} {breakdown : Breakdown} :
      (∀ name defect, compiled ≠ .error (.malformed name defect)) →
      Clock.milliseconds (service.clock state) (service.clock run.state) = .error breakdown →
      run.ending = .error (.breakdown breakdown) →
      Agrees configuration memory service state run compiled
  /-- The service failed, and the run rejects the unit. -/
  | failed {failure : Failure} {result : UnitResult} :
      run.ending = .ok result → result.accepted = false →
      Agrees configuration memory service state run (.error (.failed failure))
  /-- The report breaks off over a diagnostic that cannot be shown, and takes the run
  with it. -/
  | broken {compilation : Compilation} {breakdown : Breakdown} :
      Diagnostic.BreaksOff configuration.verbosity memory compilation.unit.lines
        compilation.outcome.diagnostics breakdown →
      compilation.report memory configuration.verbosity = .error breakdown →
      run.ending = .error (.breakdown breakdown) →
      Agrees configuration memory service state run (.ok compilation)
  /-- The verdict is the same, and the report is printed behind the options and
  whatever the service prints. -/
  | finished {compilation : Compilation} {report : String} {job : Job} {result : UnitResult}
      {shown tally : List String} :
      Diagnostic.AllShowable configuration.verbosity memory compilation.unit.lines
        compilation.outcome.diagnostics →
      compilation.report memory configuration.verbosity = .ok report →
      run.jobs = [job] → run.ending = .ok result →
      result.accepted = compilation.accepted → result.unit = compilation.unit →
      result.outcome = some compilation.outcome →
      Event.allPrinted run.events =
        headerTexts configuration ++ Event.allPrinted (service.compile job state).events ++
          shown ++ tally ++ footerTexts configuration result →
      Reported configuration.verbosity compilation.accepted report shown tally →
      Agrees configuration memory service state run (.ok compilation)

section Step

variable {configuration : Configuration} {machine : Machine} {service : Service σ}
  {path : String} {text : Text} {unit : JavaUnit} {state : σ}

/-- The service failed, and its failure has no report that could break off. -/
theorem agrees_ofFile_of_failure {elapsed : Int} {failure : Failure}
    (hunit : unitIn machine.files path = .ok unit) (htext : JavaUnit.ofText text = .ok unit)
    (hclock : Clock.milliseconds (service.clock state)
      (service.clock (service.compile (Job.ofUnit configuration unit) state).state) = .ok elapsed)
    (hresult : (service.compile (Job.ofUnit configuration unit) state).result = .error failure) :
    Agrees configuration machine.memory service state
      (ofFile configuration machine service path state)
      (compile configuration service path text state).1 := by
  have hreport : ∀ breakdown, ¬Unreportable configuration machine.memory unit
      (service.compile (Job.ofUnit configuration unit) state).result breakdown := by
    rintro breakdown ⟨outcome, houtcome, -⟩
    rw [hresult] at houtcome
    contradiction
  obtain ⟨events, hrun⟩ := ofFile_of_finished hunit rfl hclock hreport
  rw [compile_of_failure htext hresult, hrun, hresult]
  exact .failed rfl rfl

/-- The service answered, and the report on the outcome is made by both ways. -/
theorem agrees_ofFile_of_outcome {elapsed : Int} {outcome : Outcome}
    (hunit : unitIn machine.files path = .ok unit) (htext : JavaUnit.ofText text = .ok unit)
    (hclock : Clock.milliseconds (service.clock state)
      (service.clock (service.compile (Job.ofUnit configuration unit) state).state) = .ok elapsed)
    (hresult : (service.compile (Job.ofUnit configuration unit) state).result = .ok outcome) :
    Agrees configuration machine.memory service state
      (ofFile configuration machine service path state)
      (compile configuration service path text state).1 := by
  rw [compile_of_outcome htext hresult]
  generalize htally : Tally.ofDiagnostics outcome.diagnostics = tally
  let compilation : Compilation := ⟨path, unit, outcome, tally⟩
  rcases Diagnostic.allShowable_or_breaksOff configuration.verbosity machine.memory unit.lines
      outcome.diagnostics with hall | ⟨breakdown, hbroken⟩
  · have hreport : compilation.report machine.memory configuration.verbosity = .ok _ :=
      report_of_allShowable hall
    have hfine : ∀ breakdown, ¬Unreportable configuration machine.memory unit
        (service.compile (Job.ofUnit configuration unit) state).result breakdown := by
      rintro breakdown ⟨outcome', houtcome, hbroken⟩
      rw [hresult] at houtcome
      cases houtcome
      exact hbroken.not_allShowable hall
    obtain ⟨events, hrun⟩ := ofFile_of_finished hunit rfl hclock hfine
    have hprinted := allPrinted_ofFile_of_finished hunit rfl hclock hfine
    rw [hresult] at hprinted
    rw [hresult] at hrun
    exact .finished hall hreport (congrArg Run.jobs hrun) (congrArg Run.ending hrun) rfl rfl rfl
      hprinted (reported_texts hall hreport htally.symm)
  · have hreport : compilation.report machine.memory configuration.verbosity = .error breakdown :=
      report_of_breaksOff hbroken
    obtain ⟨events, hrun⟩ := ofFile_of_broken hunit rfl hclock ⟨outcome, hresult, hbroken⟩
    exact .broken hbroken hreport (congrArg Run.ending hrun)

end Step

/-- Compiling a file and compiling its text agree, if the file holds the encoded text
and the text has no carriage returns. Both ways give the service the same jobs and leave
it in the same state. A text without an outline has the same defect in both. Otherwise
the verdict is the same, and what the run prints about the diagnostics is the report in
memory. The run alone has no verdict if the time of the job cannot be told or a
diagnostic that the verbosity shows cannot be shown. -/
theorem agrees_ofFile {machine : Machine} {path : String} {text : Text}
    (hfile : machine.files.entry (Path.ofString path) = .file (Utf8.encode text))
    (hreturn : '\r' ∉ text) (configuration : Configuration) (service : Service σ) (state : σ) :
    let run := ofFile configuration machine service path state
    let compiled := compile configuration service path text state
    run.jobs = InMemory.jobs configuration service path text state ∧
      run.state = compiled.2 ∧
      Agrees configuration machine.memory service state run compiled.1 := by
  intro run compiled
  have hunitIn := unitIn_of_encode hfile hreturn
  cases htext : JavaUnit.ofText text with
  | error defect =>
    rw [htext] at hunitIn
    have htrace : run.trace = _ := trace_ofFile_of_fault configuration service hunitIn state
    have hcompiled : compiled = _ := compile_of_malformed htext
    injection htrace with hjobs hending hstate
    rw [hcompiled, jobs_of_malformed htext]
    exact ⟨hjobs, hstate, .malformed hending⟩
  | ok unit =>
    rw [htext] at hunitIn
    obtain ⟨hjobs, hstate⟩ : run.jobs = _ ∧ run.state = _ := jobs_ofFile hunitIn
    refine ⟨hjobs.trans (jobs_of_unit htext).symm, hstate.trans (state_compile htext).symm, ?_⟩
    cases hclock : Clock.milliseconds (service.clock state)
        (service.clock (service.compile (Job.ofUnit configuration unit) state).state) with
    | error breakdown =>
      obtain ⟨record, hrun⟩ := ofFile_of_timeless hunitIn rfl hclock
      exact .timeless (compile_ne_malformed htext) (by rw [hstate, hclock])
        (congrArg Run.ending hrun)
    | ok elapsed =>
      cases hresult : (service.compile (Job.ofUnit configuration unit) state).result with
      | error failure => exact agrees_ofFile_of_failure hunitIn htext hclock hresult
      | ok outcome => exact agrees_ofFile_of_outcome hunitIn htext hclock hresult

/-- An error at the start of a text. -/
def firstError : Diagnostic := ⟨.error, 1, 1, ['m']⟩

/-- The service rejects its first unit with an error. -/
def rejectingScript : Script where
  answers := [(.ok { accepted := false, diagnostics := [firstError] }, 0)]

theorem allShowable_firstError (verbosity : Verbosity) (memory : Memory) (lines : List Text) :
    Diagnostic.AllShowable verbosity memory lines [firstError] := by
  intro diagnostic hmem _ breakdown hbroken
  rw [List.mem_singleton.mp hmem] at hbroken
  have hshort : ¬firstError.HasLongNumber := by
    unfold Diagnostic.HasLongNumber firstError
    decide +kernel
  cases hbroken with
  | number _ hlong => exact hshort hlong
  | count _ _ _ _ hcolumn => contradiction
  | room _ _ _ _ hcolumn _ =>
    simp only [firstError] at hcolumn
    omega

/-- The diagnostics of a rejected unit are printed as the parts of the report. A warning
far to the right costs the run its verdict, while in memory the unit is accepted. -/
theorem agrees_ofFile_of_small_text :
    (∃ compilation report shown,
      (compile {} Script.service "a.zep" smallText rejectingScript).1 = .ok compilation ∧
        compilation.report smallMachine.memory .full = .ok report ∧
        report = "\n".intercalate shown ∧
        Event.allPrinted (ofFile {} smallMachine Script.service "a.zep" rejectingScript).events =
          shown) ∧
    ∃ compilation,
      (compile {} Script.service "a.zep" smallText wideScript).1 = .ok compilation ∧
        compilation.accepted = true ∧
        (ofFile {} smallMachine Script.service "a.zep" wideScript).ending =
          .error (.breakdown .textTooLong) := by
  have hfile : smallMachine.files.entry (Path.ofString "a.zep") =
      .file (Utf8.encode smallText) := by
    have hbytes : smallText.map (fun c => UInt8.ofNat c.toNat) = Utf8.encode smallText := by
      decide +kernel
    exact congrArg Entry.file hbytes
  have hreturn : '\r' ∉ smallText := by decide +kernel
  obtain ⟨unit, hunit⟩ := exists_unitIn_smallFiles
  have htext : JavaUnit.ofText smallText = .ok unit := by
    have hmap : unitIn smallMachine.files "a.zep" = .ok unit := hunit "a.zep"
    rw [unitIn_of_encode hfile hreturn] at hmap
    cases h : JavaUnit.ofText smallText with
    | error defect => simp [h, Except.mapError] at hmap
    | ok other => simpa [h, Except.mapError] using hmap
  refine ⟨?_, ?_⟩
  · have hcompiled : compile {} Script.service "a.zep" smallText rejectingScript = (.ok _, _) :=
      compile_of_outcome htext rfl
    obtain ⟨-, hstate, hagrees⟩ := agrees_ofFile hfile hreturn {} Script.service rejectingScript
    rw [hcompiled] at hstate hagrees ⊢
    cases hagrees with
    | timeless _ hclock _ =>
      rw [hstate] at hclock
      simp [Script.service, rejectingScript, zero_add_zero, milliseconds_zero] at hclock
    | broken hbroken => exact absurd (allShowable_firstError _ _ _) hbroken.not_allShowable
    | finished _ hreport _ _ _ _ _ hprinted hreported =>
      obtain ⟨htally, hlisted⟩ := hreported.of_listing (.inl rfl)
      refine ⟨_, _, _, rfl, hreport, hlisted, ?_⟩
      rw [hprinted, htally]
      simp [headerTexts, footerTexts, Script.service, rejectingScript, Event.allPrinted]
  · have hcompiled : compile {} Script.service "a.zep" smallText wideScript = (.ok _, _) :=
      compile_of_outcome htext rfl
    obtain ⟨-, hstate, hagrees⟩ := agrees_ofFile hfile hreturn {} Script.service wideScript
    rw [hcompiled] at hstate hagrees ⊢
    have hwide : Diagnostic.BreaksOff .full smallMachine.memory unit.lines [wideWarning]
        .textTooLong := breaksOff_wideWarning rfl smallMachine.memory unit
    refine ⟨_, rfl, rfl, ?_⟩
    cases hagrees with
    | timeless _ hclock _ =>
      rw [hstate] at hclock
      simp [Script.service, wideScript, zero_add_zero, milliseconds_zero] at hclock
    | broken _ hreport hending =>
      rw [report_of_breaksOff hwide] at hreport
      cases hreport
      exact hending
    | finished hall => exact absurd hall hwide.not_allShowable

end Run

end Transcompiler
