/-
# The course of a run

A run checks all files, then reads, translates and compiles them one by one. This
module says what a run comes to from what each file holds and what the service
answers, without going through the run: `unitIn` is the unit in a file,
`Service.results` are the answers to a list of jobs, and `Finishes` says of some
files that their units were compiled and reported on in turn.

The main statement is `ofConfiguration_trace`. A refused file keeps the service
from being called at all. Behind files that finish, the next one either ends the
run, or there is none and the status tells whether every unit was accepted. A
failure of the service rejects its unit and nothing more. Besides files without a
unit, only a breakdown ends a run early: a time that cannot be told, or a diagnostic
that cannot be shown (`BreaksOff`).
-/

import Transcompiler.Proofs.Listing
import Transcompiler.Run

namespace Transcompiler

variable {σ : Type}

namespace Service

variable (service : Service σ)

/-- The state of a service after some jobs. -/
def stateAfter (state : σ) (jobs : List Job) : σ :=
  jobs.foldl (fun state job => (service.compile job state).state) state

/-- What comes of jobs that are done in turn. -/
def results : σ → List Job → List (Except Failure Outcome)
  | _, [] => []
  | state, job :: jobs =>
    (service.compile job state).result :: results (service.compile job state).state jobs

theorem stateAfter_append (state : σ) (jobs more : List Job) :
    service.stateAfter state (jobs ++ more) =
      service.stateAfter (service.stateAfter state jobs) more :=
  List.foldl_append

end Service

/-- What a run comes to, apart from what is seen of it. -/
structure Trace (σ α : Type) where
  /-- The jobs that the service was given. -/
  jobs : List Job
  /-- How the run ended. -/
  ending : Except Fault α
  /-- The state of the service afterwards. -/
  state : σ

/-- A trace with some jobs in front. -/
def Trace.prepend {α : Type} (jobs : List Job) (trace : Trace σ α) : Trace σ α :=
  { trace with jobs := jobs ++ trace.jobs }

theorem Trace.prepend_prepend {α : Type} (first second : List Job) (trace : Trace σ α) :
    (trace.prepend second).prepend first = trace.prepend (first ++ second) := by
  simp [prepend]

namespace Run

/-- The trace of a run. -/
def trace {α : Type} (run : Run σ α) : Trace σ α :=
  ⟨run.jobs, run.ending, run.state⟩

/-- The unit in a file. -/
def unitIn (files : FileSystem) (path : String) : Except Fault JavaUnit :=
  match SourceFile.read files path with
  | .error fault => .error (.file fault)
  | .ok text => (JavaUnit.ofText text).mapError (.malformed path)

/-- Whether a job was done, and the unit accepted. -/
def isAccepted : Except Failure Outcome → Bool
  | .error _ => false
  | .ok outcome => outcome.accepted

/-- A report on what came of a job breaks off over a diagnostic that is shown. -/
def Unreportable (configuration : Configuration) (memory : Memory) (unit : JavaUnit)
    (result : Except Failure Outcome) (breakdown : Breakdown) : Prop :=
  ∃ outcome, result = .ok outcome ∧ Diagnostic.BreaksOff configuration.verbosity memory unit.lines
    outcome.diagnostics breakdown

variable (configuration : Configuration) (machine : Machine) (service : Service σ)

/-- What breaks down once the job of a unit is done. -/
inductive BreaksOff (memory : Memory) (state : σ) (unit : JavaUnit) : Breakdown → Prop where
  /-- The time that the job took cannot be told. -/
  | timeless {breakdown : Breakdown} :
      Clock.milliseconds (service.clock state)
        (service.clock (service.compile (Job.ofUnit configuration unit) state).state) =
          .error breakdown →
      BreaksOff memory state unit breakdown
  /-- The answer cannot be reported on. -/
  | unreportable {elapsed : Int} {breakdown : Breakdown} :
      Clock.milliseconds (service.clock state)
        (service.clock (service.compile (Job.ofUnit configuration unit) state).state) =
          .ok elapsed →
      Unreportable configuration memory unit
        (service.compile (Job.ofUnit configuration unit) state).result breakdown →
      BreaksOff memory state unit breakdown

/-- Some files hold some units, which are compiled in turn, and nothing breaks
down. -/
inductive Finishes : σ → List String → List JavaUnit → Prop where
  | nil (state : σ) : Finishes state [] []
  | cons {state : σ} {path : String} {unit : JavaUnit} {paths : List String}
      {units : List JavaUnit} :
      unitIn machine.files path = .ok unit →
      (∀ breakdown, ¬BreaksOff configuration service machine.memory state unit breakdown) →
      Finishes (service.compile (Job.ofUnit configuration unit) state).state paths units →
      Finishes state (path :: paths) (unit :: units)

/-! ## Reports -/

section Answer

variable {configuration : Configuration} {memory : Memory} {unit : JavaUnit}
  {result : Except Failure Outcome} {breakdown : Breakdown}

/-- What is done with the texts of a listing does not matter to whether it breaks off. -/
theorem texts_answerListing_eq_error_iff {path : String} :
    (answerListing configuration memory path unit result).texts = .error breakdown ↔
      Unreportable configuration memory unit result breakdown := by
  cases result with
  | error failure =>
    refine iff_of_false (by simp [answerListing]) ?_
    rintro ⟨outcome, houtcome, -⟩
    contradiction
  | ok outcome =>
    have hiff : Unreportable configuration memory unit (.ok outcome) breakdown ↔
        Diagnostic.BreaksOff configuration.verbosity memory unit.lines outcome.diagnostics
          breakdown := by
      simp [Unreportable]
    rw [hiff, answerListing]
    by_cases hmute : configuration.verbosity = .mute
    · rw [if_pos hmute]
      refine iff_of_false (by simp) fun h => h.not_allShowable ?_
      exact Diagnostic.allShowable_of_silent (by simp [hmute, Verbosity.shows]) _
    · rw [if_neg hmute, ← Diagnostic.texts_report_eq_error_iff path {}]
      dsimp only
      split_ifs
      · exact Iff.rfl
      · cases (Diagnostic.report configuration.verbosity memory path unit.lines {}
          outcome.diagnostics).texts <;> simp [Except.map]

/-- A report that does not break off has texts. -/
theorem exists_texts_answerListing
    (h : ∀ breakdown, ¬Unreportable configuration memory unit result breakdown) (path : String) :
    ∃ texts, (answerListing configuration memory path unit result).texts = .ok texts := by
  cases htexts : (answerListing configuration memory path unit result).texts with
  | error breakdown => exact absurd (texts_answerListing_eq_error_iff.mp htexts) (h breakdown)
  | ok texts => exact ⟨texts, rfl⟩

end Answer

/-! ## One file -/

section Step

variable {machine} {path : String}

theorem exists_outline_of_unitIn {files : FileSystem} {unit : JavaUnit}
    (h : unitIn files path = .ok unit) :
    ∃ text outline, SourceFile.read files path = .ok text ∧ Outline.ofText text = .ok outline ∧
      JavaUnit.ofOutline text outline = unit := by
  cases hread : SourceFile.read files path with
  | error fault =>
    rw [unitIn, hread] at h
    contradiction
  | ok text =>
    simp only [unitIn, hread, JavaUnit.ofText] at h
    cases houtline : Outline.ofText text with
    | error defect =>
      rw [houtline] at h
      contradiction
    | ok outline =>
      rw [houtline] at h
      cases h
      exact ⟨text, outline, rfl, houtline, rfl⟩

/-- A file without a unit ends the run before the service is called. -/
theorem trace_ofFile_of_fault {fault : Fault} (h : unitIn machine.files path = .error fault)
    (state : σ) :
    (ofFile configuration machine service path state).trace = ⟨[], .error fault, state⟩ := by
  cases hread : SourceFile.read machine.files path with
  | error refusal =>
    rw [unitIn, hread] at h
    cases h
    simp only [trace, ofFile, hread]
  | ok text =>
    simp only [unitIn, hread, JavaUnit.ofText] at h
    cases houtline : Outline.ofText text with
    | error defect =>
      rw [houtline] at h
      cases h
      simp only [trace, ofFile, hread, houtline]
    | ok outline =>
      rw [houtline] at h
      contradiction

/-- A breakdown ends the run after the job was done. -/
theorem trace_ofFile_of_breaksOff {unit : JavaUnit} {breakdown : Breakdown} {state : σ}
    (h : unitIn machine.files path = .ok unit)
    (hbroken : BreaksOff configuration service machine.memory state unit breakdown) :
    (ofFile configuration machine service path state).trace =
      ⟨[Job.ofUnit configuration unit], .error (.breakdown breakdown),
        (service.compile (Job.ofUnit configuration unit) state).state⟩ := by
  obtain ⟨text, outline, hread, houtline, rfl⟩ := exists_outline_of_unitIn h
  simp only [trace, ofFile, hread, houtline, ofOutline]
  cases hbroken with
  | timeless hclock => simp only [hclock]
  | unreportable hclock hreport =>
    simp only [hclock, ofReply, texts_answerListing_eq_error_iff.mpr hreport]

/-- Without a breakdown there is a result. A failure of the service rejects the unit,
like a verdict against it. -/
theorem trace_ofFile_of_not_breaksOff {unit : JavaUnit} {state : σ}
    (h : unitIn machine.files path = .ok unit)
    (hfine : ∀ breakdown, ¬BreaksOff configuration service machine.memory state unit breakdown) :
    ∃ result : UnitResult,
      result.accepted =
        isAccepted (service.compile (Job.ofUnit configuration unit) state).result ∧
      (ofFile configuration machine service path state).trace =
        ⟨[Job.ofUnit configuration unit], .ok result,
          (service.compile (Job.ofUnit configuration unit) state).state⟩ := by
  obtain ⟨text, outline, hread, houtline, rfl⟩ := exists_outline_of_unitIn h
  simp only [trace, ofFile, hread, houtline, ofOutline]
  cases hclock : Clock.milliseconds (service.clock state) (service.clock (service.compile
      (Job.ofUnit configuration (JavaUnit.ofOutline text outline)) state).state) with
  | error cause => exact absurd (.timeless hclock) (hfine cause)
  | ok elapsed =>
    obtain ⟨texts, htexts⟩ := exists_texts_answerListing
      (fun breakdown hreport => hfine breakdown (.unreportable hclock hreport)) path
    simp only [ofReply, htexts]
    refine ⟨_, ?_, rfl⟩
    cases (service.compile (Job.ofUnit configuration
      (JavaUnit.ofOutline text outline)) state).result <;> rfl

end Step

/-! ## One file after the other -/

/-- The status of a run after some more results. -/
def statusFrom (status : Status) (results : List (Except Failure Outcome)) : Status :=
  if results.all isAccepted then status else status.worse .failure

theorem statusFrom_cons {status : Status} {unitResult : UnitResult}
    {result : Except Failure Outcome} (h : unitResult.accepted = isAccepted result)
    (results : List (Except Failure Outcome)) :
    statusFrom (statusAfter status unitResult) results = statusFrom status (result :: results) := by
  have hagain : (status.worse .failure).worse .failure = status.worse .failure := by
    cases status <;> rfl
  rw [statusFrom, statusFrom, statusAfter, h, List.all_cons]
  cases isAccepted result
  · simp [hagain]
  · simp

section Course

variable {configuration} {machine} {service}

/-- A file that ends early ends the run. -/
theorem trace_ofFiles_cons_of_error {path : String} {state after : σ} {jobs : List Job}
    {fault : Fault}
    (h : (ofFile configuration machine service path state).trace = ⟨jobs, .error fault, after⟩)
    (paths : List String) (status : Status) :
    (ofFiles configuration machine service (path :: paths) status state).trace =
      ⟨jobs, .error fault, after⟩ := by
  injection h with hjobs hending hstate
  simp only [trace, ofFiles, hending, hjobs, hstate]

/-- Behind a file with a result, the run goes on from the state of the service. -/
theorem trace_ofFiles_cons_of_ok {path : String} {state after : σ} {jobs : List Job}
    {result : UnitResult}
    (h : (ofFile configuration machine service path state).trace = ⟨jobs, .ok result, after⟩)
    (paths : List String) (status : Status) :
    (ofFiles configuration machine service (path :: paths) status state).trace =
      (ofFiles configuration machine service paths (statusAfter status result) after).trace.prepend
        jobs := by
  injection h with hjobs hending hstate
  simp only [trace, ofFiles, hending, hjobs, hstate, Trace.prepend]

/-- Files that finish leave one job for each unit behind, and the run goes on with
the files behind them. -/
theorem Finishes.trace_ofFiles_append {state : σ} {before : List String} {units : List JavaUnit}
    (h : Finishes configuration machine service state before units) (behind : List String)
    (status : Status) :
    (ofFiles configuration machine service (before ++ behind) status state).trace =
      (ofFiles configuration machine service behind
        (statusFrom status (service.results state (units.map (Job.ofUnit configuration))))
        (service.stateAfter state (units.map (Job.ofUnit configuration)))).trace.prepend
          (units.map (Job.ofUnit configuration)) := by
  induction h generalizing status with
  | nil state => rfl
  | cons hunit hfine _ ih =>
    obtain ⟨result, haccepted, htrace⟩ :=
      trace_ofFile_of_not_breaksOff configuration service hunit hfine
    rw [List.cons_append, trace_ofFiles_cons_of_ok htrace, ih, Trace.prepend_prepend,
      statusFrom_cons haccepted]
    rfl

end Course

/-! ## All files -/

theorem verifyAll_append_of_forall {files : FileSystem} {before : List String}
    (h : ∀ path ∈ before, SourceFile.verify files path = .ok ()) (behind : List String) :
    verifyAll files (before ++ behind) = verifyAll files behind := by
  induction before with
  | nil => rfl
  | cons path before ih =>
    rw [List.cons_append, verifyAll, h path List.mem_cons_self]
    exact ih fun path hpath => h path (List.mem_cons_of_mem _ hpath)

/-- The first refused file is the fault of the run, and the service is not called. -/
theorem ofConfiguration_of_refused {before behind : List String} {path : String}
    {fault : FileFault} (hfiles : configuration.files = before ++ path :: behind)
    (hbefore : ∀ earlier ∈ before, SourceFile.verify machine.files earlier = .ok ())
    (hpath : SourceFile.verify machine.files path = .error fault) (state : σ) :
    ofConfiguration configuration machine service state =
      ⟨[], [], [], .error (.file fault), state⟩ := by
  have hall : verifyAll machine.files configuration.files = .error fault := by
    rw [hfiles, verifyAll_append_of_forall hbefore, verifyAll, hpath]
  rw [ofConfiguration, hall]

theorem ofConfiguration_of_forall
    (h : ∀ path ∈ configuration.files, SourceFile.verify machine.files path = .ok ()) (state : σ) :
    ofConfiguration configuration machine service state =
      ofFiles configuration machine service configuration.files .success state := by
  have hall : verifyAll machine.files configuration.files = .ok () := by
    rw [← List.append_nil configuration.files, verifyAll_append_of_forall h, verifyAll]
  rw [ofConfiguration, hall]

/-- The files up to the first that ends the run finish. -/
theorem exists_finishes (state : σ) (paths : List String) :
    ∃ before units behind, paths = before ++ behind ∧
      Finishes configuration machine service state before units ∧
      ∀ path rest, behind = path :: rest → ∀ unit, unitIn machine.files path = .ok unit →
        ∃ breakdown, BreaksOff configuration service machine.memory
          (service.stateAfter state (units.map (Job.ofUnit configuration))) unit breakdown := by
  induction paths generalizing state with
  | nil => exact ⟨[], [], [], rfl, .nil state, nofun⟩
  | cons path paths ih =>
    by_cases hgood : ∃ unit, unitIn machine.files path = .ok unit ∧
        ∀ breakdown, ¬BreaksOff configuration service machine.memory state unit breakdown
    · obtain ⟨unit, hunit, hfine⟩ := hgood
      obtain ⟨before, units, behind, hpaths, hfinishes, hstop⟩ :=
        ih (service.compile (Job.ofUnit configuration unit) state).state
      exact ⟨path :: before, unit :: units, behind, congrArg (path :: ·) hpaths,
        .cons hunit hfine hfinishes, hstop⟩
    · refine ⟨[], [], path :: paths, rfl, .nil state, ?_⟩
      rintro _ _ ⟨⟩ unit hunit
      by_contra hnone
      exact hgood ⟨unit, hunit, not_exists.mp hnone⟩

/-- The course of a run. If a file is refused, the first such file is the fault, and
nothing was seen and no job given. If none is, the service gets one job for each file in
turn. The first file without a unit ends the run, and so does a breakdown behind a job.
Otherwise the run succeeds if and only if every job was answered and every unit
accepted. Every run is one of these. -/
theorem ofConfiguration_trace (configuration : Configuration) (machine : Machine)
    (service : Service σ) (state : σ) :
    (∀ before path behind fault, configuration.files = before ++ path :: behind →
      (∀ earlier ∈ before, SourceFile.verify machine.files earlier = .ok ()) →
      SourceFile.verify machine.files path = .error fault →
      ofConfiguration configuration machine service state =
        ⟨[], [], [], .error (.file fault), state⟩) ∧
    ((∀ path ∈ configuration.files, SourceFile.verify machine.files path = .ok ()) →
      (∀ before units behind, configuration.files = before ++ behind →
        Finishes configuration machine service state before units →
        let jobs := units.map (Job.ofUnit configuration)
        let after := service.stateAfter state jobs
        let trace := (ofConfiguration configuration machine service state).trace
        (behind = [] → trace =
          ⟨jobs, .ok (if (service.results state jobs).all isAccepted then .success else .failure),
            after⟩) ∧
        (∀ path rest fault, behind = path :: rest → unitIn machine.files path = .error fault →
          trace = ⟨jobs, .error fault, after⟩) ∧
        (∀ path rest unit breakdown, behind = path :: rest →
          unitIn machine.files path = .ok unit →
          BreaksOff configuration service machine.memory after unit breakdown →
          trace = ⟨jobs ++ [Job.ofUnit configuration unit], .error (.breakdown breakdown),
            service.stateAfter state (jobs ++ [Job.ofUnit configuration unit])⟩)) ∧
      ∃ before units behind, configuration.files = before ++ behind ∧
        Finishes configuration machine service state before units ∧
        ∀ path rest, behind = path :: rest → ∀ unit, unitIn machine.files path = .ok unit →
          ∃ breakdown, BreaksOff configuration service machine.memory
            (service.stateAfter state (units.map (Job.ofUnit configuration))) unit breakdown) := by
  refine ⟨fun before path behind fault hfiles hbefore hpath =>
    ofConfiguration_of_refused configuration machine service hfiles hbefore hpath state, ?_⟩
  intro hverified
  refine ⟨?_, exists_finishes configuration machine service state configuration.files⟩
  intro before units behind hfiles hfinishes jobs after trace
  have htrace : trace = (ofFiles configuration machine service behind
      (statusFrom .success (service.results state jobs)) after).trace.prepend jobs := by
    show (ofConfiguration configuration machine service state).trace = _
    rw [ofConfiguration_of_forall configuration machine service hverified, hfiles,
      hfinishes.trace_ofFiles_append]
  refine ⟨?_, ?_, ?_⟩
  · rintro rfl
    rw [htrace, Trace.prepend, ofFiles, Run.trace, List.append_nil]
    rfl
  · rintro path rest fault rfl hfault
    rw [htrace, trace_ofFiles_cons_of_error
      (trace_ofFile_of_fault configuration service hfault after), Trace.prepend, List.append_nil]
  · rintro path rest unit breakdown rfl hunit hbroken
    rw [htrace, trace_ofFiles_cons_of_error
      (trace_ofFile_of_breaksOff configuration service hunit hbroken), Trace.prepend,
      Service.stateAfter_append]
    rfl

/-- The text of a small unit. -/
def smallText : Text := "prog A { begin }\n".toList

/-- A file system that holds a small unit wherever one looks. -/
def smallFiles : FileSystem where
  entry _ := .file (smallText.map fun c => UInt8.ofNat c.toNat)

/-- A machine with these files, and room for lines of a thousand columns. -/
def smallMachine : Machine where
  files := smallFiles
  memory := smallMemory

/-- The invocation for two files. -/
def twoFiles : Configuration where
  files := ["a.zep", "b.zep"]

/-- The service fails on its first job. -/
def failingScript : Script where
  answers := [(.error (.invocation "none"), 0)]

/-- A warning far to the right. -/
def wideWarning : Diagnostic := ⟨.warning, 1, 10000000000000000000, ['m']⟩

/-- The service accepts its first unit with a warning far to the right. -/
def wideScript : Script where
  answers := [(.ok { accepted := true, diagnostics := [wideWarning] }, 0)]

/-- The clock of a script stands still at zero. -/
theorem zero_add_zero : (0 : Float) + 0 = 0 := by decide +kernel

theorem milliseconds_zero : Clock.milliseconds 0 0 = .ok 0 := by decide +kernel

theorem milliseconds_wideScript (job : Job) :
    Clock.milliseconds (Script.service.clock wideScript)
      (Script.service.clock (Script.service.compile job wideScript).state) = .ok 0 := by
  simp [Script.service, wideScript, zero_add_zero, milliseconds_zero]

theorem exists_unitIn_smallFiles : ∃ unit, ∀ path, unitIn smallFiles path = .ok unit := by
  have hdecode : Utf8.decode (smallText.map fun c => UInt8.ofNat c.toNat) = .ok smallText := by
    decide +kernel
  have hnewlines : SourceFile.normalizeNewlines smallText = smallText := by decide +kernel
  have houtline : (Outline.ofText smallText).toBool = true := by decide +kernel
  cases h : Outline.ofText smallText with
  | error defect =>
    rw [h] at houtline
    contradiction
  | ok outline =>
    refine ⟨JavaUnit.ofOutline smallText outline, fun path => ?_⟩
    simp [unitIn, SourceFile.read, smallFiles, hdecode, hnewlines, JavaUnit.ofText, h, Except.map,
      Except.mapError]

/-- Every text has a first line, so the warning needs a caret that is out of reach. -/
theorem unshowable_wideWarning (memory : Memory) (unit : JavaUnit) :
    wideWarning.Unshowable memory unit.lines .textTooLong := by
  have hlines : wideWarning.line ≤ unit.lines.length :=
    Int.ofNat_le.mpr (List.length_pos_iff.mpr (Text.splitAtEvery_ne_nil '\n' unit.source))
  have hshort : ¬wideWarning.HasLongNumber := by
    unfold Diagnostic.HasLongNumber wideWarning
    decide +kernel
  exact .count (by decide) hshort (by decide) hlines (by decide)

theorem breaksOff_wideWarning {verbosity : Verbosity} (h : verbosity.shows .warning = true)
    (memory : Memory) (unit : JavaUnit) :
    Diagnostic.BreaksOff verbosity memory unit.lines [wideWarning] .textTooLong := by
  have hfront : Diagnostic.AllShowable verbosity memory unit.lines [] :=
    Diagnostic.allShowable_nil
  exact .intro hfront h (unshowable_wideWarning memory unit)

/-- No time passes, so a unit breaks off only over a diagnostic. -/
theorem not_breaksOff_of_still {configuration : Configuration} {memory : Memory} {script : Script}
    {unit : JavaUnit}
    (hclock : Clock.milliseconds script.clock
      (Script.service.compile (Job.ofUnit configuration unit) script).state.clock = .ok 0)
    (hreport : ∀ breakdown, ¬Unreportable configuration memory unit
      (Script.service.compile (Job.ofUnit configuration unit) script).result breakdown) :
    ∀ breakdown, ¬BreaksOff configuration Script.service memory script unit breakdown := by
  rintro breakdown (htime | ⟨-, hbroken⟩)
  · cases hclock.symm.trans htime
  · exact hreport breakdown hbroken

/-- A failure of the service leaves both units with a job and makes the status a
failure. A caret out of reach keeps the second unit from being compiled, although
the first one is accepted. -/
theorem ofConfiguration_trace_of_two_files :
    (∃ job, (ofConfiguration twoFiles smallMachine Script.service failingScript).trace =
      ⟨[job, job], .ok .failure, ⟨[], 0⟩⟩) ∧
    ∃ job, (ofConfiguration twoFiles smallMachine Script.service wideScript).trace =
      ⟨[job], .error (.breakdown .textTooLong), ⟨[], 0⟩⟩ := by
  obtain ⟨unit, hunit⟩ := exists_unitIn_smallFiles
  have hverified : ∀ path ∈ twoFiles.files,
      SourceFile.verify smallMachine.files path = .ok () := fun path _ => rfl
  refine ⟨⟨Job.ofUnit twoFiles unit, ?_⟩, Job.ofUnit twoFiles unit, ?_⟩
  · have hfinishes : Finishes twoFiles smallMachine Script.service failingScript
        ["a.zep", "b.zep"] [unit, unit] := by
      refine .cons (hunit _) (not_breaksOff_of_still ?_ ?_)
        (.cons (hunit _) (not_breaksOff_of_still ?_ ?_) (.nil _))
      · simp [Script.service, failingScript, zero_add_zero, milliseconds_zero]
      · simp [Script.service, failingScript, Unreportable]
      · simp [Script.service, failingScript, zero_add_zero, milliseconds_zero]
      · rintro breakdown ⟨outcome, ⟨⟩, hbroken⟩
        exact hbroken.not_allShowable Diagnostic.allShowable_nil
    rw [(((ofConfiguration_trace twoFiles smallMachine Script.service failingScript).2
      hverified).1 _ _ [] rfl hfinishes).1 rfl]
    simp [Service.results, Service.stateAfter, Script.service, failingScript, zero_add_zero,
      isAccepted]
  · have hbroken : BreaksOff twoFiles Script.service smallMachine.memory wideScript unit
        .textTooLong :=
      .unreportable (milliseconds_wideScript _) ⟨_, rfl, breaksOff_wideWarning rfl _ unit⟩
    rw [(((ofConfiguration_trace twoFiles smallMachine Script.service wideScript).2
      hverified).1 [] [] _ rfl (.nil _)).2.2 "a.zep" ["b.zep"] unit .textTooLong rfl (hunit _)
        hbroken]
    simp [Service.stateAfter, Script.service, wideScript, zero_add_zero]

end Run

end Transcompiler
