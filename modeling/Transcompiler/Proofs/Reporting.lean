/-
# Reporting does not influence compilation

How much is reported is chosen by the verbosity and by whether options, verdicts
and times are printed. None of it reaches the compiler: two configurations that
ask for the same work give the service the same jobs, leave it in the same state
and end alike, and the results of their units differ in the tally at most.

There is one exception. A report breaks off over a diagnostic that cannot be shown,
and only in a verbosity that shows it. The run is cut off behind the job that was
answered so, and up to there it is still the run of the other configuration.
`ofConfiguration_agree` says that nothing else can happen, and that the runs are alike
if all that is shown can be shown.
-/

import Transcompiler.Proofs.Output

namespace Transcompiler

/-- Two configurations ask for the same work, whatever they report of it. -/
structure Configuration.SameWork (one other : Configuration) : Prop where
  files_eq : one.files = other.files
  javacArguments_eq : one.javacArguments = other.javacArguments
  final_eq : one.final = other.final

/-- A result without its tally. -/
def UnitResult.uncounted (result : UnitResult) : UnitResult :=
  { result with tally := {} }

namespace Configuration.SameWork

variable {one other : Configuration} (same : one.SameWork other)

include same

theorem ofUnit_eq (unit : JavaUnit) : Job.ofUnit one unit = Job.ofUnit other unit := by
  rw [Job.ofUnit, Job.ofUnit, compilerOptions, compilerOptions, same.javacArguments_eq,
    same.final_eq]

end Configuration.SameWork

namespace Run

variable {σ : Type}

/-! ## Runs that are alike, and runs that are cut off -/

/-- Two runs have the same trace, and their results differ in the tallies at most. -/
structure Alike (run other : Run σ Status) : Prop where
  trace_eq : run.trace = other.trace
  units_eq : run.units.map UnitResult.uncounted = other.units.map UnitResult.uncounted

/-- A run is cut off over a report. All its jobs but the last led to results, and the
last one was answered with diagnostics that cannot all be shown on the lines of its
source. -/
inductive CutOff (verbosity : Verbosity) (memory : Memory) (service : Service σ) (state : σ)
    (run : Run σ Status) : Prop where
  | intro {before : List Job} {job : Job} {outcome : Outcome} {breakdown : Breakdown}
      (jobs_eq : run.jobs = before ++ [job])
      (answer_eq : (service.compile job (service.stateAfter state before)).result = .ok outcome)
      (breaks_off : Diagnostic.BreaksOff verbosity memory (Text.lines job.source)
        outcome.diagnostics breakdown)
      (units_length : run.units.length = before.length)
      (ending_eq : run.ending = .error (.breakdown breakdown))

/-- A run did what another one did, as far as it went. -/
structure Precedes (run other : Run σ Status) : Prop where
  jobs_prefix : run.jobs <+: other.jobs
  units_prefix :
    run.units.map UnitResult.uncounted <+: other.units.map UnitResult.uncounted

/-- Two runs in two verbosities are alike, or one of them is cut off and did up to
there what the other one did. -/
inductive Agree (one other : Verbosity) (memory : Memory) (service : Service σ) (state : σ)
    (run run' : Run σ Status) : Prop where
  /-- Nothing but the reports differs. -/
  | alike : Alike run run' → Agree one other memory service state run run'
  /-- The first run is cut off. -/
  | first : CutOff one memory service state run → Precedes run run' →
      Agree one other memory service state run run'
  /-- The second run is cut off. -/
  | second : CutOff other memory service state run' → Precedes run' run →
      Agree one other memory service state run run'

/-! ## One unit in front -/

/-- A run behind a unit that had one job and one result. -/
def follow (events : List Event) (job : Job) (result : UnitResult) (rest : Run σ Status) :
    Run σ Status :=
  { rest with
    events := events ++ rest.events
    jobs := job :: rest.jobs
    units := result :: rest.units }

section Following

variable {events events' : List Event} {job : Job} {result result' : UnitResult}
  {rest rest' : Run σ Status}

theorem Alike.follow (h : Alike rest rest') (hresult : result.uncounted = result'.uncounted) :
    Alike (follow events job result rest) (follow events' job result' rest') where
  trace_eq := by
    injection h.trace_eq with hjobs hending hstate
    simp only [Run.follow, trace, hjobs, hending, hstate]
  units_eq := by simp only [Run.follow, List.map_cons, hresult, h.units_eq]

theorem Precedes.follow (h : Precedes rest rest')
    (hresult : result.uncounted = result'.uncounted) :
    Precedes (follow events job result rest) (follow events' job result' rest') where
  jobs_prefix := (List.prefix_cons_inj job).mpr h.jobs_prefix
  units_prefix := by
    simp only [Run.follow, List.map_cons, hresult]
    exact (List.prefix_cons_inj _).mpr h.units_prefix

theorem CutOff.follow {verbosity : Verbosity} {memory : Memory} {service : Service σ} {state : σ}
    (h : CutOff verbosity memory service (service.compile job state).state rest) :
    CutOff verbosity memory service state (follow events job result rest) := by
  obtain @⟨before, last, outcome, breakdown, hjobs, hanswer, hbroken, hunits, hending⟩ := h
  have hjobs' : job :: rest.jobs = (job :: before) ++ [last] := congrArg (job :: ·) hjobs
  exact .intro hjobs' hanswer hbroken (congrArg (· + 1) hunits) hending

theorem Agree.follow {one other : Verbosity} {memory : Memory} {service : Service σ} {state : σ}
    (h : Agree one other memory service (service.compile job state).state rest rest')
    (hresult : result.uncounted = result'.uncounted) :
    Agree one other memory service state (follow events job result rest)
      (follow events' job result' rest') := by
  cases h with
  | alike hrest => exact .alike (hrest.follow hresult)
  | first hcut hrest => exact .first hcut.follow (hrest.follow hresult)
  | second hcut hrest => exact .second hcut.follow (hrest.follow hresult.symm)

end Following

/-! ## One file -/

section Step

variable {configuration : Configuration} {machine : Machine} {service : Service σ}
  {path : String} {state after : σ} {events : List Event} {jobs : List Job}

theorem ofFiles_cons_of_error {fault : Fault}
    (h : ofFile configuration machine service path state = ⟨events, jobs, [], .error fault, after⟩)
    (paths : List String) (status : Status) :
    ofFiles configuration machine service (path :: paths) status state =
      ⟨events, jobs, [], .error fault, after⟩ := by
  simp only [ofFiles, h]

theorem ofFiles_cons_of_ok {job : Job} {result : UnitResult}
    (h : ofFile configuration machine service path state =
      ⟨events, [job], [result], .ok result, after⟩)
    (paths : List String) (status : Status) :
    ofFiles configuration machine service (path :: paths) status state =
      follow events job result
        (ofFiles configuration machine service paths (statusAfter status result) after) := by
  simp only [ofFiles, h, follow, List.singleton_append]

/-- The job of the unit in the first file is the first job. -/
theorem exists_jobs_ofFiles_cons {unit : JavaUnit} (configuration : Configuration)
    (service : Service σ) (hunit : unitIn machine.files path = .ok unit) (paths : List String)
    (status : Status) (state : σ) :
    ∃ more, (ofFiles configuration machine service (path :: paths) status state).jobs =
      Job.ofUnit configuration unit :: more := by
  have hjobs : (ofFile configuration machine service path state).jobs = [_] := (jobs_ofFile hunit).1
  cases hending : (ofFile configuration machine service path state).ending with
  | error fault => exact ⟨[], by simp only [ofFiles, hending, hjobs]⟩
  | ok result =>
    simp only [ofFiles, hending, hjobs, List.singleton_append]
    exact ⟨_, rfl⟩

/-- If the report on the first unit breaks off, the run is cut off behind its job,
and any run with that job in front did what it did. -/
theorem cutOff_ofFiles_cons {unit : JavaUnit} {elapsed : Int} {breakdown : Breakdown}
    (hunit : unitIn machine.files path = .ok unit)
    (hclock : Clock.milliseconds (service.clock state)
      (service.clock (service.compile (Job.ofUnit configuration unit) state).state) = .ok elapsed)
    (hreport : Unreportable configuration machine.memory unit
      (service.compile (Job.ofUnit configuration unit) state).result breakdown)
    {run : Run σ Status} (hrun : ∃ more, run.jobs = Job.ofUnit configuration unit :: more)
    (paths : List String) (status : Status) :
    CutOff configuration.verbosity machine.memory service state
        (ofFiles configuration machine service (path :: paths) status state) ∧
      Precedes (ofFiles configuration machine service (path :: paths) status state) run := by
  obtain ⟨events, hbroken⟩ := ofFile_of_broken hunit rfl hclock hreport
  obtain ⟨outcome, hanswer, hlisting⟩ := hreport
  obtain ⟨more, hmore⟩ := hrun
  rw [ofFiles_cons_of_error hbroken]
  have hjobs : [Job.ofUnit configuration unit] = [] ++ [Job.ofUnit configuration unit] := rfl
  refine ⟨.intro hjobs hanswer hlisting rfl rfl, ?_, List.nil_prefix⟩
  rw [hmore]
  exact (List.prefix_cons_inj _).mpr List.nil_prefix

end Step

/-! ## All files -/

section Course

variable {one other : Configuration} {machine : Machine} {service : Service σ}

theorem uncounted_finishedResult (one other : Configuration) (path : String) (unit : JavaUnit)
    (elapsed : Int) (result : Except Failure Outcome) :
    (finishedResult one path unit elapsed result).uncounted =
      (finishedResult other path unit elapsed result).uncounted := by
  cases result <;> rfl

theorem statusAfter_eq {result result' : UnitResult} (h : result.uncounted = result'.uncounted)
    (status : Status) : statusAfter status result = statusAfter status result' := by
  injection h with _ haccepted
  rw [statusAfter, statusAfter, haccepted]

/-- A unit in front of runs that agree. -/
theorem agree_ofFiles_cons (same : one.SameWork other) {path : String} {unit : JavaUnit}
    (hunit : unitIn machine.files path = .ok unit) {paths : List String} {state : σ}
    (hrest : ∀ status, Agree one.verbosity other.verbosity machine.memory service
      (service.compile (Job.ofUnit one unit) state).state
      (ofFiles one machine service paths status
        (service.compile (Job.ofUnit one unit) state).state)
      (ofFiles other machine service paths status
        (service.compile (Job.ofUnit one unit) state).state))
    (status : Status) :
    Agree one.verbosity other.verbosity machine.memory service state
      (ofFiles one machine service (path :: paths) status state)
      (ofFiles other machine service (path :: paths) status state) := by
  -- Both units have the same job, so the reply and the clock are shared from here on.
  have hjob : Job.ofUnit other unit = Job.ofUnit one unit := (same.ofUnit_eq unit).symm
  have hjobs := exists_jobs_ofFiles_cons one service hunit paths status state
  have hjobs' := exists_jobs_ofFiles_cons other service hunit paths status state
  rw [hjob] at hjobs'
  generalize hreply : service.compile (Job.ofUnit one unit) state = reply at hrest
  have hreply' : service.compile (Job.ofUnit other unit) state = reply := hjob ▸ hreply
  cases hclock : Clock.milliseconds (service.clock state) (service.clock reply.state) with
  | error breakdown =>
    obtain ⟨record, hone⟩ := ofFile_of_timeless hunit hreply hclock
    obtain ⟨record', hother⟩ := ofFile_of_timeless hunit hreply' hclock
    rw [ofFiles_cons_of_error hone, ofFiles_cons_of_error hother, hjob]
    exact .alike ⟨rfl, rfl⟩
  | ok elapsed =>
    by_cases hreport : ∃ breakdown, Unreportable one machine.memory unit reply.result breakdown
    · obtain ⟨breakdown, hreport⟩ := hreport
      subst hreply
      obtain ⟨hcut, hprecedes⟩ := cutOff_ofFiles_cons hunit hclock hreport hjobs' paths status
      exact .first hcut hprecedes
    · by_cases hreport' : ∃ breakdown,
          Unreportable other machine.memory unit reply.result breakdown
      · obtain ⟨breakdown, hreport'⟩ := hreport'
        subst hreply'
        rw [← hjob] at hjobs
        obtain ⟨hcut, hprecedes⟩ := cutOff_ofFiles_cons hunit hclock hreport' hjobs paths status
        exact .second hcut hprecedes
      · obtain ⟨events, hone⟩ :=
          ofFile_of_finished hunit hreply hclock (not_exists.mp hreport)
        obtain ⟨events', hother⟩ :=
          ofFile_of_finished hunit hreply' hclock (not_exists.mp hreport')
        have hresult := uncounted_finishedResult one other path unit elapsed reply.result
        rw [ofFiles_cons_of_ok hone, ofFiles_cons_of_ok hother, hjob, ← statusAfter_eq hresult]
        subst hreply
        exact (hrest _).follow hresult

theorem agree_ofFiles (same : one.SameWork other) (paths : List String) (status : Status)
    (state : σ) :
    Agree one.verbosity other.verbosity machine.memory service state
      (ofFiles one machine service paths status state)
      (ofFiles other machine service paths status state) := by
  induction paths generalizing status state with
  | nil => exact .alike ⟨rfl, rfl⟩
  | cons path paths ih =>
    cases hunit : unitIn machine.files path with
    | error fault =>
      rw [ofFiles_cons_of_error (ofFile_of_fault hunit),
        ofFiles_cons_of_error (ofFile_of_fault hunit)]
      exact .alike ⟨rfl, rfl⟩
    | ok unit => exact agree_ofFiles_cons same hunit (fun status => ih status _) status

/-- Only a verbosity that shows what cannot be shown cuts a run off. -/
theorem CutOff.exists_not_allShowable {verbosity : Verbosity} {memory : Memory} {state : σ}
    {run : Run σ Status} (h : CutOff verbosity memory service state run) :
    ∃ job current outcome, (service.compile job current).result = .ok outcome ∧
      ¬Diagnostic.AllShowable verbosity memory (Text.lines job.source) outcome.diagnostics := by
  obtain ⟨-, hanswer, hbroken, -, -⟩ := h
  exact ⟨_, _, _, hanswer, hbroken.not_allShowable⟩

end Course

/-- The runs of two configurations that ask for the same work give the service the same
jobs in the same order, leave it in the same state and end alike, with the same results
up to their tallies. The only exception is a run that is cut off over a report, and
that one did what the other did as far as it went. If all that one of the two shows can
be shown, there is no exception. -/
theorem ofConfiguration_agree {one other : Configuration} (same : one.SameWork other)
    (machine : Machine) (service : Service σ) (state : σ) :
    let run := ofConfiguration one machine service state
    let run' := ofConfiguration other machine service state
    Agree one.verbosity other.verbosity machine.memory service state run run' ∧
      ((∀ job current outcome, (service.compile job current).result = .ok outcome →
        Diagnostic.AllShowable one.verbosity machine.memory (Text.lines job.source)
          outcome.diagnostics ∧
        Diagnostic.AllShowable other.verbosity machine.memory (Text.lines job.source)
          outcome.diagnostics) →
        Alike run run') := by
  intro run run'
  have hagree : Agree one.verbosity other.verbosity machine.memory service state run run' := by
    simp only [run, run', ofConfiguration, ← same.files_eq]
    cases verifyAll machine.files one.files with
    | error fault => exact .alike ⟨rfl, rfl⟩
    | ok _ => exact agree_ofFiles same one.files .success state
  refine ⟨hagree, fun hshowable => ?_⟩
  cases hagree with
  | alike h => exact h
  | first hcut _ =>
    obtain ⟨job, current, outcome, hanswer, hbroken⟩ := hcut.exists_not_allShowable
    exact absurd (hshowable job current outcome hanswer).1 hbroken
  | second hcut _ =>
    obtain ⟨job, current, outcome, hanswer, hbroken⟩ := hcut.exists_not_allShowable
    exact absurd (hshowable job current outcome hanswer).2 hbroken

/-- The same two files, with all but the diagnostics reported. -/
def mutedFiles : Configuration :=
  { twoFiles with verbosity := .mute, echo := true, time := true }

/-- A warning far to the right cuts the run off behind the first of two units if it
is shown. If nothing is shown, both units are compiled and accepted. -/
theorem ofConfiguration_agree_of_wide_warning :
    let run := ofConfiguration twoFiles smallMachine Script.service wideScript
    let muted := ofConfiguration mutedFiles smallMachine Script.service wideScript
    twoFiles.SameWork mutedFiles ∧ muted.ending = .ok .success ∧
      CutOff .full smallMachine.memory Script.service wideScript run ∧ Precedes run muted := by
  intro run muted
  obtain ⟨unit, hunit⟩ := exists_unitIn_smallFiles
  have hverified : ∀ path ∈ ["a.zep", "b.zep"],
      SourceFile.verify smallMachine.files path = .ok () := fun path _ => rfl
  have hrun : run.ending = .error (.breakdown .textTooLong) := by
    have hbroken : BreaksOff twoFiles Script.service smallMachine.memory wideScript unit
        .textTooLong :=
      .unreportable (milliseconds_wideScript _) ⟨_, rfl, breaksOff_wideWarning rfl _ unit⟩
    have htrace := trace_ofFile_of_breaksOff twoFiles Script.service (hunit "a.zep") hbroken
    have hfiles := ofConfiguration_of_forall twoFiles smallMachine Script.service hverified
      wideScript
    exact congrArg Trace.ending
      ((congrArg Run.trace hfiles).trans (trace_ofFiles_cons_of_error htrace _ _))
  have hmuted : muted.ending = .ok .success := by
    have hsilent : ∀ result breakdown,
        ¬Unreportable mutedFiles smallMachine.memory unit result breakdown := by
      rintro _ breakdown ⟨outcome, -, hbroken⟩
      exact hbroken.not_allShowable (Diagnostic.allShowable_of_silent (fun _ => rfl) _)
    have hfinishes : Finishes mutedFiles smallMachine Script.service wideScript
        ["a.zep", "b.zep"] [unit, unit] := by
      have hclock := milliseconds_wideScript (Job.ofUnit mutedFiles unit)
      refine .cons (hunit _) (not_breaksOff_of_still hclock (hsilent _))
        (.cons (hunit _) (not_breaksOff_of_still ?_ (hsilent _)) (.nil _))
      simp [Script.service, wideScript, zero_add_zero, milliseconds_zero]
    have hfiles := ofConfiguration_of_forall mutedFiles smallMachine Script.service hverified
      wideScript
    have hending : muted.ending =
        .ok (statusFrom .success (Script.service.results wideScript _)) :=
      congrArg Trace.ending
        ((congrArg Run.trace hfiles).trans (hfinishes.trace_ofFiles_append [] .success))
    rw [hending]
    rfl
  have same : twoFiles.SameWork mutedFiles := ⟨rfl, rfl, rfl⟩
  refine ⟨same, hmuted, ?_⟩
  cases (ofConfiguration_agree same smallMachine Script.service wideScript).1 with
  | alike h =>
    have hending : run.ending = muted.ending := congrArg Trace.ending h.trace_eq
    rw [hrun, hmuted] at hending
    contradiction
  | first hcut hprecedes => exact ⟨hcut, hprecedes⟩
  | second hcut _ =>
    obtain ⟨_, _, _, _, hbroken⟩ := hcut.exists_not_allShowable
    exact absurd (Diagnostic.allShowable_of_silent (fun _ => rfl) _) hbroken

end Run

end Transcompiler
