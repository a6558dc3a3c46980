/-
# When the Java compiler accepts a unit

The service that calls the Java compiler answers to a job in one of two ways. If the
compiler cannot be started, because it is not found or the text of the unit cannot
be put anywhere, the service fails and no process is used up. Otherwise the next
process decides. `Starts` and `Accepts` say which is the case from the setup and the
process alone.

The main statement is `all_isAccepted_iff`: units that are compiled in turn are all
accepted exactly if the compiler can be started for each of them and the process in
the same place of the list accepts it.
-/

import Transcompiler.Javac.Service
import Transcompiler.Proofs.Trace

namespace Transcompiler

namespace Javac

/-- The Java compiler can be started for a job: it is found, and the text of the unit
has a place. -/
structure Starts (setup : Setup) (job : Job) (executable : String) (path : Path) : Prop where
  resolve_eq : setup.resolve = .ok executable
  unitPath_eq : unitPath setup.scratchDirectory job.unitName = .ok path
  placementBreakdown?_eq : placementBreakdown? setup.scratchDirectory path = none

/-- A process that ends with code zero and leaves a report that can be read. -/
def Execution.Accepts (execution : Execution) : Prop :=
  ∃ completed diagnostics, execution.ending = .ok completed ∧ completed.code = 0 ∧
    Report.parse completed.report = .ok diagnostics

section Job

variable {setup : Setup} {job : Job}

theorem compile_of_starts {executable : String} {path : Path}
    (h : Starts setup job executable path) (state : State) :
    compile setup job state =
      run ⟨setup.command executable path job.options, job.source⟩ state := by
  simp only [compile, h.resolve_eq, h.unitPath_eq, h.placementBreakdown?_eq]

/-- If the compiler cannot be started, the service fails and stays as it is. -/
theorem exists_failure_of_not_starts
    (h : ¬∃ executable path, Starts setup job executable path) (state : State) :
    ∃ failure, compile setup job state = ⟨.error failure, [], state⟩ := by
  cases hresolve : setup.resolve with
  | error failure => exact ⟨failure, by simp only [compile, hresolve]⟩
  | ok executable =>
    cases hpath : unitPath setup.scratchDirectory job.unitName with
    | error failure => exact ⟨failure, by simp only [compile, hresolve, hpath]⟩
    | ok path =>
      cases hplace : placementBreakdown? setup.scratchDirectory path with
      | some breakdown =>
        exact ⟨(Failure.ofBreakdown breakdown).asInvocation,
          by simp only [compile, hresolve, hpath, hplace]⟩
      | none => exact absurd ⟨executable, path, hresolve, hpath, hplace⟩ h

/-- A process is used up, whatever comes of it. -/
theorem state_run (launch : Launch) (state : State) :
    (run launch state).state = (state.launch launch).2 := by
  simp only [run, State.launch]
  cases (state.executions.headD {}).ending with
  | error failure => rfl
  | ok completed =>
    cases Clock.milliseconds state.clock (state.clock + (state.executions.headD {}).seconds) with
    | error breakdown => rfl
    | ok elapsed => rfl

theorem isAccepted_run_iff {launch : Launch} {state : State} {elapsed : Int}
    (hclock : Clock.milliseconds state.clock (run launch state).state.clock = .ok elapsed) :
    Run.isAccepted (run launch state).result = true ↔ (state.executions.headD {}).Accepts := by
  rw [state_run] at hclock
  simp only [State.launch] at hclock
  simp only [run, State.launch, Execution.Accepts]
  cases hending : (state.executions.headD {}).ending with
  | error failure => simp [Run.isAccepted]
  | ok completed =>
    simp only [hclock]
    cases hreport : Report.parse completed.report with
    | error fault => simp [Run.isAccepted, hreport]
    | ok diagnostics => simp [Run.isAccepted, hreport]

/-- A job is accepted exactly if the compiler can be started and the next process
accepts. -/
theorem isAccepted_compile_iff {state : State} {elapsed : Int}
    (hclock : Clock.milliseconds state.clock (compile setup job state).state.clock =
      .ok elapsed) :
    Run.isAccepted (compile setup job state).result = true ↔
      (∃ executable path, Starts setup job executable path) ∧
        (state.executions.headD {}).Accepts := by
  by_cases hstarts : ∃ executable path, Starts setup job executable path
  · obtain ⟨executable, path, h⟩ := hstarts
    rw [compile_of_starts h] at hclock ⊢
    rw [isAccepted_run_iff hclock]
    exact ⟨fun haccepts => ⟨⟨executable, path, h⟩, haccepts⟩, And.right⟩
  · obtain ⟨failure, hfailure⟩ := exists_failure_of_not_starts hstarts state
    rw [hfailure]
    simp [Run.isAccepted, hstarts]

/-- A process that ran to its end answers by its code and by what its report says. -/
theorem result_compile_of_completed {executable : String} {path : Path} {state : State}
    {completed : Completed} {diagnostics : List Diagnostic} {elapsed : Int}
    (h : Starts setup job executable path)
    (hprocess : (state.executions.headD {}).ending = .ok completed)
    (hreport : Report.parse completed.report = .ok diagnostics)
    (hclock : Clock.milliseconds state.clock
      (state.clock + (state.executions.headD {}).seconds) = .ok elapsed) :
    (compile setup job state).result = .ok ⟨completed.code = 0, diagnostics, elapsed⟩ := by
  rw [compile_of_starts h]
  simp only [run, State.launch, hprocess, hclock, hreport]

/-- Once the compiler is started, the process is no longer there for the next job. -/
theorem executions_compile {executable : String} {path : Path}
    (h : Starts setup job executable path) (state : State) :
    (compile setup job state).state.executions = state.executions.tail := by
  rw [compile_of_starts h, state_run]
  rfl

theorem clock_compile {executable : String} {path : Path}
    (h : Starts setup job executable path) (state : State) :
    (compile setup job state).state.clock =
      state.clock + (state.executions.headD {}).seconds := by
  rw [compile_of_starts h, state_run]
  rfl

end Job

end Javac

namespace Run

open Javac

variable {configuration : Configuration} {machine : Machine} {setup : Setup}

theorem exists_elapsed_of_not_breaksOff {σ : Type} {service : Service σ} {memory : Memory}
    {state : σ} {unit : JavaUnit}
    (h : ∀ breakdown, ¬BreaksOff configuration service memory state unit breakdown) :
    ∃ elapsed, Clock.milliseconds (service.clock state)
      (service.clock (service.compile (Job.ofUnit configuration unit) state).state) =
        .ok elapsed := by
  cases hclock : Clock.milliseconds (service.clock state)
      (service.clock (service.compile (Job.ofUnit configuration unit) state).state) with
  | error breakdown => exact absurd (.timeless hclock) (h breakdown)
  | ok elapsed => exact ⟨elapsed, rfl⟩

/-- Units that are compiled in turn are all accepted exactly if the compiler can be
started for each of them, and each of the processes in their order accepts. If the
compiler cannot be started for one of them, it does not matter which processes the
others get. -/
theorem Finishes.all_isAccepted_iff {state : State} {paths : List String}
    {units : List JavaUnit}
    (h : Finishes configuration machine (service setup) state paths units) :
    ((service setup).results state (units.map (Job.ofUnit configuration))).all isAccepted =
        true ↔
      ∀ n unit, units[n]? = some unit →
        (∃ executable path, Starts setup (Job.ofUnit configuration unit) executable path) ∧
          (state.executions.getD n {}).Accepts := by
  induction h with
  | nil state => simp [Service.results]
  | @cons state path unit paths units _ hfine _ ih =>
    obtain ⟨elapsed, hclock⟩ := exists_elapsed_of_not_breaksOff hfine
    have hfirst : isAccepted
        ((service setup).compile (Job.ofUnit configuration unit) state).result = true ↔ _ :=
      isAccepted_compile_iff hclock
    have hhead : state.executions.headD {} = state.executions.getD 0 {} := by
      cases state.executions <;> rfl
    have htail (n : Nat) : state.executions.tail.getD n {} = state.executions.getD (n + 1) {} := by
      cases state.executions <;> simp
    rw [List.map_cons, Service.results, List.all_cons, Bool.and_eq_true, ih, hfirst, hhead]
    constructor
    · rintro ⟨⟨⟨executable, place, hstarts⟩, haccepts⟩, hrest⟩ n other hother
      cases n with
      | zero =>
        cases hother
        exact ⟨⟨executable, place, hstarts⟩, haccepts⟩
      | succ n =>
        rw [← htail, ← executions_compile hstarts state]
        exact hrest n other hother
    · intro hall
      obtain ⟨⟨executable, place, hstarts⟩, haccepts⟩ := hall 0 unit rfl
      refine ⟨⟨⟨executable, place, hstarts⟩, haccepts⟩, fun n other hother => ?_⟩
      have hother := hall (n + 1) other hother
      rw [← htail, ← executions_compile hstarts state] at hother
      exact hother

end Run

end Transcompiler
