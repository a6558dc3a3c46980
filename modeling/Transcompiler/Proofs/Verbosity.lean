/-
# What is printed in each verbosity

The same invocation is run in the four verbosities, and what the runs print is laid
side by side. A run prints what its attempts print, one attempt for each unit that is
come to, so the comparison is made attempt by attempt and carried along the files.

Reducing the verbosity leaves texts out and changes none: what is printed muted is
printed hushed, and what is printed hushed is printed in full, in the same order. The
brief verbosity is the muted one with one tally for each finished unit, in front of its
time and verdict. The one exception is a louder run that is cut off (`CutOff`), because
a diagnostic that only it shows cannot be shown. Such a run still has all that the
quieter one prints about the units in front.
-/

import Mathlib.Data.List.Forall2
import Transcompiler.Proofs.Reporting

namespace Transcompiler

/-- A configuration with another verbosity. -/
def Configuration.reporting (configuration : Configuration) (verbosity : Verbosity) :
    Configuration :=
  { configuration with verbosity := verbosity }

theorem Configuration.files_reporting (configuration : Configuration) (verbosity : Verbosity) :
    (configuration.reporting verbosity).files = configuration.files := rfl

namespace Run

variable {σ : Type}

/-- The texts that a run prints. -/
def texts {α : Type} (run : Run σ α) : List String :=
  Event.allPrinted run.events

/-! ## The attempts of a run -/

section Attempts

variable (configuration : Configuration) (machine : Machine) (service : Service σ)

/-- The runs of the units in some files, up to the first one that ends early. -/
def attemptsFrom : List String → σ → List (Run σ UnitResult)
  | [], _ => []
  | path :: paths, state =>
    let first := ofFile configuration machine service path state
    match first.ending with
    | .error _ => [first]
    | .ok _ => first :: attemptsFrom paths first.state

/-- The runs of the units of an invocation, up to the first one that ends early. There
are none if a file is refused. -/
def attempts (state : σ) : List (Run σ UnitResult) :=
  match verifyAll machine.files configuration.files with
  | .error _ => []
  | .ok () => attemptsFrom configuration machine service configuration.files state

variable {configuration} {machine} {service} {path : String} {state : σ}

theorem attemptsFrom_cons_of_error {fault : Fault}
    (h : (ofFile configuration machine service path state).ending = .error fault)
    (paths : List String) :
    attemptsFrom configuration machine service (path :: paths) state =
      [ofFile configuration machine service path state] := by
  simp only [attemptsFrom, h]

theorem attemptsFrom_cons_of_ok {result : UnitResult}
    (h : (ofFile configuration machine service path state).ending = .ok result)
    (paths : List String) :
    attemptsFrom configuration machine service (path :: paths) state =
      ofFile configuration machine service path state ::
        attemptsFrom configuration machine service paths
          (ofFile configuration machine service path state).state := by
  simp only [attemptsFrom, h]

/-- A run over files prints what its attempts print. -/
theorem texts_ofFiles (paths : List String) (status : Status) (state : σ) :
    (ofFiles configuration machine service paths status state).texts =
      (attemptsFrom configuration machine service paths state).flatMap texts := by
  induction paths generalizing status state with
  | nil => rfl
  | cons path paths ih =>
    cases hending : (ofFile configuration machine service path state).ending with
    | error fault =>
      rw [attemptsFrom_cons_of_error hending, List.flatMap_singleton]
      simp only [texts, ofFiles, hending]
    | ok result =>
      rw [attemptsFrom_cons_of_ok hending, List.flatMap_cons, ← ih (statusAfter status result)]
      simp only [texts, ofFiles, hending, Event.allPrinted_append]

theorem texts_ofConfiguration (state : σ) :
    (ofConfiguration configuration machine service state).texts =
      (attempts configuration machine service state).flatMap texts := by
  rw [ofConfiguration, attempts]
  cases verifyAll machine.files configuration.files with
  | error fault => rfl
  | ok _ => exact texts_ofFiles configuration.files .success state

end Attempts

/-! ## Two verbosities for one unit -/

section Step

variable {configuration : Configuration} {quiet loud : Verbosity} {machine : Machine}
  {service : Service σ} {path : String} {unit : JavaUnit} {state : σ} {reply : Reply σ}
  {elapsed : Int}

theorem fragments_sublist (hshows : ∀ kind, quiet.shows kind = true → loud.shows kind = true)
    (file : String) (lines : List Text) (diagnostics : List Diagnostic) :
    (Diagnostic.fragments quiet file lines diagnostics).Sublist
      (Diagnostic.fragments loud file lines diagnostics) := by
  apply List.Sublist.map
  apply List.monotone_filter_right
  exact fun diagnostic => hshows diagnostic.kind

theorem answerTexts_sublist (hshows : ∀ kind, quiet.shows kind = true → loud.shows kind = true)
    (path : String) (unit : JavaUnit) (result : Except Failure Outcome) :
    (answerTexts (configuration.reporting quiet) path unit result).Sublist
      (answerTexts (configuration.reporting loud) path unit result) := by
  cases result with
  | error failure => exact List.Sublist.refl _
  | ok outcome =>
    rw [answerTexts, answerTexts]
    split_ifs
    · exact List.Sublist.refl _
    · exact fragments_sublist hshows path unit.lines outcome.diagnostics

/-- A report that does not break off does not do so in a verbosity that shows less. -/
theorem not_unreportable_of_shows
    (hshows : ∀ kind, quiet.shows kind = true → loud.shows kind = true)
    {result : Except Failure Outcome}
    (h : ∀ breakdown,
      ¬Unreportable (configuration.reporting loud) machine.memory unit result breakdown) :
    ∀ breakdown,
      ¬Unreportable (configuration.reporting quiet) machine.memory unit result breakdown := by
  rintro breakdown ⟨outcome, houtcome, hbroken⟩
  have hall : Diagnostic.AllShowable loud machine.memory unit.lines outcome.diagnostics :=
    (Diagnostic.allShowable_or_breaksOff ..).resolve_right
      fun ⟨cause, hcause⟩ => h cause ⟨outcome, houtcome, hcause⟩
  exact hbroken.not_allShowable (hall.of_shows hshows)

theorem headerTexts_reporting (configuration : Configuration) (verbosity : Verbosity) :
    headerTexts (configuration.reporting verbosity) = headerTexts configuration := rfl

theorem footerTexts_reporting (configuration : Configuration) (verbosity : Verbosity)
    (result : UnitResult) :
    footerTexts (configuration.reporting verbosity) result = footerTexts configuration result := rfl

/-- The time and the verdict do not depend on the verbosity. -/
theorem footerTexts_finishedResult (one other : Configuration) (path : String) (unit : JavaUnit)
    (elapsed : Int) (result : Except Failure Outcome) :
    footerTexts configuration (finishedResult one path unit elapsed result) =
      footerTexts configuration (finishedResult other path unit elapsed result) := by
  cases result <;> rfl

/-- The service is not told the verbosity. -/
theorem compile_reporting (hreply : service.compile (Job.ofUnit configuration unit) state = reply)
    (verbosity : Verbosity) :
    service.compile (Job.ofUnit (configuration.reporting verbosity) unit) state = reply :=
  hreply

/-- A file without a unit ends an attempt alike in every verbosity. -/
theorem ofFile_reporting_of_fault {fault : Fault} (h : unitIn machine.files path = .error fault)
    (verbosity : Verbosity) :
    ofFile (configuration.reporting verbosity) machine service path state =
      ⟨(headerTexts configuration).map .printed, [], [], .error fault, state⟩ :=
  ofFile_of_fault h

/-- So does a clock that fails. -/
theorem ofFile_reporting_of_timeless {breakdown : Breakdown}
    (hunit : unitIn machine.files path = .ok unit)
    (hreply : service.compile (Job.ofUnit configuration unit) state = reply)
    (hclock : Clock.milliseconds (service.clock state) (service.clock reply.state) =
      .error breakdown)
    (verbosity : Verbosity) :
    ∃ events, ofFile (configuration.reporting verbosity) machine service path state =
        ⟨events, [Job.ofUnit configuration unit], [], .error (.breakdown breakdown), reply.state⟩ ∧
      Event.allPrinted events = headerTexts configuration ++ Event.allPrinted reply.events := by
  obtain ⟨record, hfile⟩ := ofFile_of_timeless hunit (compile_reporting hreply verbosity) hclock
  refine ⟨_, hfile, ?_⟩
  rw [Event.allPrinted_append, Event.allPrinted_map_printed, Event.allPrinted_logged,
    headerTexts_reporting]

section Finished

variable (hunit : unitIn machine.files path = .ok unit)
  (hreply : service.compile (Job.ofUnit configuration unit) state = reply)
  (hclock : Clock.milliseconds (service.clock state) (service.clock reply.state) = .ok elapsed)

include hunit hreply hclock

/-- What is printed about a unit that is finished in some verbosity. -/
theorem texts_ofFile_reporting {verbosity : Verbosity}
    (hreport : ∀ breakdown, ¬Unreportable (configuration.reporting verbosity) machine.memory unit
      reply.result breakdown) :
    (ofFile (configuration.reporting verbosity) machine service path state).texts =
      headerTexts configuration ++ Event.allPrinted reply.events ++
        answerTexts (configuration.reporting verbosity) path unit reply.result ++
        tallyTexts (configuration.reporting verbosity)
          (answerTally (configuration.reporting verbosity) reply.result) ++
        footerTexts configuration
          (finishedResult (configuration.reporting verbosity) path unit elapsed
            reply.result) := by
  rw [texts, allPrinted_ofFile_of_finished hunit (compile_reporting hreply verbosity) hclock
    hreport, headerTexts_reporting, footerTexts_reporting]

/-- What is printed about a unit is a part of what is printed in a verbosity that shows
more and finishes the unit. -/
theorem texts_ofFile_sublist (hquiet : quiet ≠ .brief)
    (hshows : ∀ kind, quiet.shows kind = true → loud.shows kind = true)
    (hreport : ∀ breakdown,
      ¬Unreportable (configuration.reporting loud) machine.memory unit reply.result breakdown) :
    (ofFile (configuration.reporting quiet) machine service path state).texts.Sublist
      (ofFile (configuration.reporting loud) machine service path state).texts := by
  have hsilent (tally : Tally) : tallyTexts (configuration.reporting quiet) tally = [] :=
    if_neg hquiet
  rw [texts_ofFile_reporting hunit hreply hclock (not_unreportable_of_shows hshows hreport),
    texts_ofFile_reporting hunit hreply hclock hreport, hsilent,
    footerTexts_finishedResult (configuration.reporting quiet) (configuration.reporting loud)]
  apply List.Sublist.append_right
  apply List.Sublist.append
  · exact (answerTexts_sublist hshows path unit reply.result).append_left _
  · exact List.nil_sublist _

end Finished

end Step

/-! ## A quieter run beside a louder one -/

/-- What a quieter run prints is a part of what a louder one prints. If the louder one is
cut off, this is so up to the units that it finished. -/
inductive Quieter (loud : Verbosity) (memory : Memory) (service : Service σ) (state : σ)
    (attempts : List (Run σ UnitResult)) (run : Run σ Status) : Prop where
  /-- The texts of all attempts are printed. -/
  | whole : (attempts.flatMap texts).Sublist run.texts →
      Quieter loud memory service state attempts run
  /-- The louder run is cut off. -/
  | cut : CutOff loud memory service state run →
      ((attempts.take run.units.length).flatMap texts).Sublist run.texts →
      Quieter loud memory service state attempts run

/-- A unit in front of both runs. -/
theorem Quieter.follow {loud : Verbosity} {memory : Memory} {service : Service σ} {state : σ}
    {attempt : Run σ UnitResult} {attempts : List (Run σ UnitResult)} {events : List Event}
    {job : Job} {result : UnitResult} {rest : Run σ Status}
    (hattempt : attempt.texts.Sublist (Event.allPrinted events))
    (h : Quieter loud memory service (service.compile job state).state attempts rest) :
    Quieter loud memory service state (attempt :: attempts) (follow events job result rest) := by
  have htexts : (Run.follow events job result rest).texts =
      Event.allPrinted events ++ rest.texts := Event.allPrinted_append events rest.events
  cases h with
  | whole hrest =>
    apply Quieter.whole
    rw [htexts, List.flatMap_cons]
    exact hattempt.append hrest
  | cut hcut hrest =>
    apply Quieter.cut hcut.follow
    rw [htexts]
    exact hattempt.append hrest

section Course

variable {configuration : Configuration} {quiet loud : Verbosity} {machine : Machine}
  {service : Service σ}

/-- A file that ends both runs early. -/
theorem quieter_of_error {path : String} {state after : σ} {events : List Event}
    {jobs : List Job} {fault fault' : Fault}
    (hquiet : (ofFile (configuration.reporting quiet) machine service path state).ending =
      .error fault)
    (hloud : ofFile (configuration.reporting loud) machine service path state =
      ⟨events, jobs, [], .error fault', after⟩)
    (htexts : (ofFile (configuration.reporting quiet) machine service path state).texts =
      Event.allPrinted events)
    (paths : List String) (status : Status) :
    Quieter loud machine.memory service state
      (attemptsFrom (configuration.reporting quiet) machine service (path :: paths) state)
      (ofFiles (configuration.reporting loud) machine service (path :: paths) status state) := by
  rw [attemptsFrom_cons_of_error hquiet, ofFiles_cons_of_error hloud]
  apply Quieter.whole
  rw [List.flatMap_singleton, htexts]
  exact List.Sublist.refl _

/-- A unit in front of runs of which one is quieter. -/
theorem quieter_ofFiles_cons (hquiet : quiet ≠ .brief)
    (hshows : ∀ kind, quiet.shows kind = true → loud.shows kind = true) {path : String}
    {unit : JavaUnit} (hunit : unitIn machine.files path = .ok unit) {paths : List String}
    {state : σ}
    (hrest : ∀ status, Quieter loud machine.memory service
      (service.compile (Job.ofUnit configuration unit) state).state
      (attemptsFrom (configuration.reporting quiet) machine service paths
        (service.compile (Job.ofUnit configuration unit) state).state)
      (ofFiles (configuration.reporting loud) machine service paths status
        (service.compile (Job.ofUnit configuration unit) state).state))
    (status : Status) :
    Quieter loud machine.memory service state
      (attemptsFrom (configuration.reporting quiet) machine service (path :: paths) state)
      (ofFiles (configuration.reporting loud) machine service (path :: paths) status state) := by
  generalize hreply : service.compile (Job.ofUnit configuration unit) state = reply at hrest
  have hsame := compile_reporting hreply
  cases hclock : Clock.milliseconds (service.clock state) (service.clock reply.state) with
  | error breakdown =>
    obtain ⟨_, hone, htexts⟩ := ofFile_reporting_of_timeless hunit hreply hclock quiet
    obtain ⟨_, hother, htexts'⟩ := ofFile_reporting_of_timeless hunit hreply hclock loud
    apply quieter_of_error (congrArg Run.ending hone) hother
    rw [texts, hone, htexts, htexts']
  | ok elapsed =>
    by_cases hreport : ∃ breakdown,
        Unreportable (configuration.reporting loud) machine.memory unit reply.result breakdown
    · -- The louder run stops here, in front of the first unit that it would have finished.
      obtain ⟨breakdown, hreport⟩ := hreport
      rw [← hsame loud] at hclock hreport
      have hjobs :=
        exists_jobs_ofFiles_cons (configuration.reporting loud) service hunit paths status state
      obtain ⟨hcut, -⟩ := cutOff_ofFiles_cons hunit hclock hreport hjobs paths status
      obtain ⟨events, hbroken⟩ := ofFile_of_broken hunit rfl hclock hreport
      apply Quieter.cut hcut
      rw [ofFiles_cons_of_error hbroken]
      exact List.nil_sublist _
    · have hfine := not_exists.mp hreport
      have htexts := texts_ofFile_sublist hunit hreply hclock hquiet hshows hfine
      obtain ⟨_, hone⟩ := ofFile_of_finished hunit (hsame quiet) hclock
        (not_unreportable_of_shows hshows hfine)
      obtain ⟨_, hother⟩ := ofFile_of_finished hunit (hsame loud) hclock hfine
      rw [attemptsFrom_cons_of_ok (congrArg Run.ending hone), ofFiles_cons_of_ok hother,
        congrArg Run.state hone]
      rw [hother] at htexts
      subst hreply
      exact (hrest _).follow htexts

/-- The files of a run, from one on. -/
theorem quieter_ofFiles (hquiet : quiet ≠ .brief)
    (hshows : ∀ kind, quiet.shows kind = true → loud.shows kind = true) (paths : List String)
    (status : Status) (state : σ) :
    Quieter loud machine.memory service state
      (attemptsFrom (configuration.reporting quiet) machine service paths state)
      (ofFiles (configuration.reporting loud) machine service paths status state) := by
  induction paths generalizing status state with
  | nil => exact .whole (List.nil_sublist _)
  | cons path paths ih =>
    cases hunit : unitIn machine.files path with
    | error fault =>
      apply quieter_of_error (congrArg Run.ending (ofFile_reporting_of_fault hunit quiet))
        (ofFile_reporting_of_fault hunit loud)
      rw [texts, ofFile_reporting_of_fault hunit quiet]
    | ok unit =>
      exact quieter_ofFiles_cons hquiet hshows hunit (fun status => ih status _) status

end Course

/-! ## The brief verbosity beside the muted one -/

/-- A brief attempt at a unit beside a muted one. If the unit is finished, its tally stands
in front of its time and verdict, and nothing else is added. -/
inductive Summarised (configuration : Configuration) (muted brief : Run σ UnitResult) : Prop where
  /-- The unit is finished, and the muted attempt has the result without the tally. -/
  | finished {opening : List String} {result : UnitResult} :
      brief.ending = .ok result → muted.ending = .ok result.uncounted →
      muted.texts = opening ++ footerTexts configuration result →
      brief.texts = opening ++ result.tally.render :: footerTexts configuration result →
      Summarised configuration muted brief
  /-- Both attempts end early. -/
  | unfinished {fault : Fault} :
      brief.ending = .error fault → muted.ending = .error fault → muted.texts = brief.texts →
      Summarised configuration muted brief

section Brief

variable {configuration : Configuration} {machine : Machine} {service : Service σ}

/-- Where nothing is shown, no report breaks off. -/
theorem not_unreportable_of_silent {verbosity : Verbosity}
    (h : ∀ kind, verbosity.shows kind = false) (memory : Memory) (unit : JavaUnit)
    (result : Except Failure Outcome) (breakdown : Breakdown) :
    ¬Unreportable (configuration.reporting verbosity) memory unit result breakdown :=
  fun ⟨_, _, hbroken⟩ => hbroken.not_allShowable (Diagnostic.allShowable_of_silent h _)

theorem uncounted_finishedResult_brief (configuration : Configuration) (path : String)
    (unit : JavaUnit) (elapsed : Int) (result : Except Failure Outcome) :
    (finishedResult (configuration.reporting .brief) path unit elapsed result).uncounted =
      finishedResult (configuration.reporting .mute) path unit elapsed result := by
  cases result <;> rfl

theorem answerTexts_brief (configuration : Configuration) (path : String) (unit : JavaUnit)
    (result : Except Failure Outcome) :
    answerTexts (configuration.reporting .brief) path unit result =
      answerTexts (configuration.reporting .mute) path unit result := by
  cases result with
  | error failure => rfl
  | ok outcome => rw [answerTexts_eq_nil (.inl rfl), answerTexts_eq_nil (.inr rfl)]

/-- A unit is finished in both verbosities or in none. -/
theorem summarised_of_finished {path : String} {unit : JavaUnit} {state : σ} {reply : Reply σ}
    {elapsed : Int} (hunit : unitIn machine.files path = .ok unit)
    (hreply : service.compile (Job.ofUnit configuration unit) state = reply)
    (hclock : Clock.milliseconds (service.clock state) (service.clock reply.state) = .ok elapsed) :
    Summarised configuration
        (ofFile (configuration.reporting .mute) machine service path state)
        (ofFile (configuration.reporting .brief) machine service path state) ∧
      (ofFile (configuration.reporting .mute) machine service path state).state =
        (ofFile (configuration.reporting .brief) machine service path state).state := by
  have hquiet : ∀ breakdown, ¬Unreportable (configuration.reporting .mute) machine.memory unit
      reply.result breakdown := not_unreportable_of_silent (fun _ => rfl) _ unit reply.result
  have hshort : ∀ breakdown, ¬Unreportable (configuration.reporting .brief) machine.memory unit
      reply.result breakdown := not_unreportable_of_silent (fun _ => rfl) _ unit reply.result
  have hsame := compile_reporting hreply
  obtain ⟨_, hmuted⟩ := ofFile_of_finished hunit (hsame .mute) hclock hquiet
  obtain ⟨_, hbrief⟩ := ofFile_of_finished hunit (hsame .brief) hclock hshort
  have hresult := uncounted_finishedResult_brief configuration path unit elapsed reply.result
  have hmutedTexts : (ofFile (configuration.reporting .mute) machine service path state).texts =
      headerTexts configuration ++ Event.allPrinted reply.events ++
        answerTexts (configuration.reporting .mute) path unit reply.result ++
        footerTexts configuration
          (finishedResult (configuration.reporting .brief) path unit elapsed reply.result) := by
    have hsilent (tally : Tally) : tallyTexts (configuration.reporting .mute) tally = [] := rfl
    rw [texts_ofFile_reporting hunit hreply hclock hquiet, hsilent, List.append_nil,
      footerTexts_finishedResult (configuration.reporting .mute) (configuration.reporting .brief)]
  have hcounted : (finishedResult (configuration.reporting .brief) path unit elapsed
      reply.result).tally = answerTally (configuration.reporting .brief) reply.result := by
    cases reply.result <;> rfl
  refine ⟨.finished (congrArg Run.ending hbrief) ?_ hmutedTexts ?_, ?_⟩
  · rw [hmuted, hresult]
  · have htally (tally : Tally) :
        tallyTexts (configuration.reporting .brief) tally = [tally.render] := rfl
    rw [texts_ofFile_reporting hunit hreply hclock hshort, htally, answerTexts_brief, hcounted,
      List.append_assoc, List.singleton_append]
  · rw [hmuted, hbrief]

variable (configuration machine service)

/-- One file, in both verbosities. The service is left in the same state. -/
theorem summarised_ofFile (path : String) (state : σ) :
    Summarised configuration
        (ofFile (configuration.reporting .mute) machine service path state)
        (ofFile (configuration.reporting .brief) machine service path state) ∧
      (ofFile (configuration.reporting .mute) machine service path state).state =
        (ofFile (configuration.reporting .brief) machine service path state).state := by
  cases hunit : unitIn machine.files path with
  | error fault =>
    rw [ofFile_reporting_of_fault hunit .mute, ofFile_reporting_of_fault hunit .brief]
    exact ⟨.unfinished rfl rfl rfl, rfl⟩
  | ok unit =>
    generalize hreply : service.compile (Job.ofUnit configuration unit) state = reply
    cases hclock : Clock.milliseconds (service.clock state) (service.clock reply.state) with
    | error breakdown =>
      obtain ⟨_, hmuted, htexts⟩ := ofFile_reporting_of_timeless hunit hreply hclock .mute
      obtain ⟨_, hbrief, htexts'⟩ := ofFile_reporting_of_timeless hunit hreply hclock .brief
      rw [hmuted, hbrief]
      exact ⟨.unfinished rfl rfl (htexts.trans htexts'.symm), rfl⟩
    | ok elapsed => exact summarised_of_finished hunit hreply hclock

theorem forall₂_summarised_attemptsFrom (paths : List String) (state : σ) :
    List.Forall₂ (Summarised configuration)
      (attemptsFrom (configuration.reporting .mute) machine service paths state)
      (attemptsFrom (configuration.reporting .brief) machine service paths state) := by
  induction paths generalizing state with
  | nil => exact .nil
  | cons path paths ih =>
    obtain ⟨hfirst, hstate⟩ := summarised_ofFile configuration machine service path state
    cases hfirst with
    | finished hbrief hmuted hmutedTexts hbriefTexts =>
      rw [attemptsFrom_cons_of_ok hmuted, attemptsFrom_cons_of_ok hbrief, hstate]
      exact .cons (.finished hbrief hmuted hmutedTexts hbriefTexts) (ih _)
    | unfinished hbrief hmuted htexts =>
      rw [attemptsFrom_cons_of_error hmuted, attemptsFrom_cons_of_error hbrief]
      exact .cons (.unfinished hbrief hmuted htexts) .nil

theorem forall₂_summarised_attempts (state : σ) :
    List.Forall₂ (Summarised configuration)
      (attempts (configuration.reporting .mute) machine service state)
      (attempts (configuration.reporting .brief) machine service state) := by
  rw [attempts, attempts, Configuration.files_reporting, Configuration.files_reporting]
  cases verifyAll machine.files configuration.files with
  | error fault => exact .nil
  | ok _ => exact forall₂_summarised_attemptsFrom configuration machine service _ state

end Brief

/-! ## All verbosities -/

theorem quieter_ofConfiguration {quiet loud : Verbosity} (hquiet : quiet ≠ .brief)
    (hshows : ∀ kind, quiet.shows kind = true → loud.shows kind = true)
    (configuration : Configuration) (machine : Machine) (service : Service σ) (state : σ) :
    Quieter loud machine.memory service state
      (attempts (configuration.reporting quiet) machine service state)
      (ofConfiguration (configuration.reporting loud) machine service state) := by
  cases hverified : verifyAll machine.files configuration.files with
  | error fault =>
    simp only [attempts, ofConfiguration, Configuration.files_reporting, hverified]
    exact .whole (List.nil_sublist _)
  | ok _ =>
    simp only [attempts, ofConfiguration, Configuration.files_reporting, hverified]
    exact quieter_ofFiles hquiet hshows configuration.files .success state

/-- If all that is shown can be shown, no run is cut off. -/
theorem Quieter.sublist {loud : Verbosity} {memory : Memory} {service : Service σ} {state : σ}
    {attempts : List (Run σ UnitResult)} {run : Run σ Status}
    (h : Quieter loud memory service state attempts run)
    (hshowable : ∀ job current outcome, (service.compile job current).result = .ok outcome →
      Diagnostic.AllShowable loud memory (Text.lines job.source) outcome.diagnostics) :
    (attempts.flatMap texts).Sublist run.texts := by
  cases h with
  | whole htexts => exact htexts
  | cut hcut =>
    obtain ⟨job, current, outcome, hanswer, hbroken⟩ := hcut.exists_not_allShowable
    exact absurd (hshowable job current outcome hanswer) hbroken

/-- A run prints what its attempts print. What is printed muted is printed hushed in the
same order, and what is printed hushed is printed in full, except behind the point where
the louder run is cut off over a report. The brief attempts are the muted ones with the
tally of each finished unit put in front of its time and verdict. If all that the louder
run shows can be shown, there is no exception. -/
theorem texts_ofConfiguration_reporting (configuration : Configuration) (machine : Machine)
    (service : Service σ) (state : σ) :
    let run (verbosity : Verbosity) :=
      ofConfiguration (configuration.reporting verbosity) machine service state
    let tried (verbosity : Verbosity) :=
      attempts (configuration.reporting verbosity) machine service state
    let Showable (verbosity : Verbosity) : Prop :=
      ∀ job current outcome, (service.compile job current).result = .ok outcome →
        Diagnostic.AllShowable verbosity machine.memory (Text.lines job.source) outcome.diagnostics
    (∀ verbosity, (run verbosity).texts = (tried verbosity).flatMap texts) ∧
    Quieter .hush machine.memory service state (tried .mute) (run .hush) ∧
    Quieter .full machine.memory service state (tried .hush) (run .full) ∧
    List.Forall₂ (Summarised configuration) (tried .mute) (tried .brief) ∧
    (Showable .hush → (run .mute).texts.Sublist (run .hush).texts) ∧
    (Showable .full → (run .hush).texts.Sublist (run .full).texts) := by
  intro run tried Showable
  have htexts (verbosity : Verbosity) : (run verbosity).texts = (tried verbosity).flatMap texts :=
    texts_ofConfiguration state
  have hnothing (kind : DiagnosticKind) : Verbosity.mute.shows kind = false := rfl
  have hhush : Quieter .hush machine.memory service state (tried .mute) (run .hush) :=
    quieter_ofConfiguration (by decide) (fun kind h => by simp [hnothing] at h) _ _ _ _
  have hfull : Quieter .full machine.memory service state (tried .hush) (run .full) :=
    quieter_ofConfiguration (by decide) (fun _ _ => rfl) _ _ _ _
  refine ⟨htexts, hhush, hfull, forall₂_summarised_attempts configuration machine service state,
    fun hshowable => ?_, fun hshowable => ?_⟩
  · rw [htexts .mute]
    exact hhush.sublist hshowable
  · rw [htexts .hush]
    exact hfull.sublist hshowable

/-- The two files of `twoFiles`, with options and verdicts printed. -/
def echoedFiles : Configuration :=
  { twoFiles with echo := true }

/-- A warning far to the right cuts the full run off behind the options. Hushed, the same
unit also gets its verdict. -/
theorem texts_ofConfiguration_reporting_of_wide_warning :
    let run (verbosity : Verbosity) :=
      ofConfiguration (echoedFiles.reporting verbosity) smallMachine Script.service wideScript
    CutOff .full smallMachine.memory Script.service wideScript (run .full) ∧
      ¬(run .hush).texts.Sublist (run .full).texts := by
  intro run
  have hresult :=
    texts_ofConfiguration_reporting echoedFiles smallMachine Script.service wideScript
  obtain ⟨unit, hunit⟩ := exists_unitIn_smallFiles
  have hfirst : unitIn smallMachine.files "a.zep" = .ok unit := hunit "a.zep"
  have htried (verbosity : Verbosity) :
      (run verbosity).texts =
        (attemptsFrom (echoedFiles.reporting verbosity) smallMachine Script.service
          ["a.zep", "b.zep"] wideScript).flatMap texts := hresult.1 verbosity
  generalize hreply : Script.service.compile (Job.ofUnit echoedFiles unit) wideScript = reply
  have hsame := compile_reporting hreply
  have hanswer : reply.result = .ok { accepted := true, diagnostics := [wideWarning] } := by
    rw [← hreply]
    rfl
  have hclock : Clock.milliseconds (Script.service.clock wideScript)
      (Script.service.clock reply.state) = .ok 0 := by
    rw [← hreply]
    exact milliseconds_wideScript _
  have hfull : (run .full).texts.length = 1 := by
    have hreport : Unreportable (echoedFiles.reporting .full) smallMachine.memory unit reply.result
        .textTooLong := ⟨_, hanswer, breaksOff_wideWarning rfl _ unit⟩
    obtain ⟨events, hbroken⟩ := ofFile_of_broken hfirst (hsame .full) hclock hreport
    rw [htried, attemptsFrom_cons_of_error (congrArg Run.ending hbroken), List.flatMap_singleton,
      texts, allPrinted_ofFile_of_broken hfirst (hsame .full) hclock hreport, ← hreply]
    rfl
  have hhush : 2 ≤ (run .hush).texts.length := by
    have hreport : ∀ breakdown, ¬Unreportable (echoedFiles.reporting .hush) smallMachine.memory
        unit reply.result breakdown := by
      rintro breakdown ⟨outcome, houtcome, hbroken⟩
      cases hanswer.symm.trans houtcome
      obtain ⟨diagnostic, hmem, hshown, -⟩ := hbroken.exists_mem
      rw [List.mem_singleton.mp hmem] at hshown
      contradiction
    have htexts := texts_ofFile_reporting hfirst hreply hclock hreport
    obtain ⟨_, hdone⟩ := ofFile_of_finished hfirst (hsame .hush) hclock hreport
    have hheader : (headerTexts echoedFiles).length = 1 := rfl
    have hfooter (result : UnitResult) : (footerTexts echoedFiles result).length = 1 := rfl
    rw [htried, attemptsFrom_cons_of_ok (congrArg Run.ending hdone), List.flatMap_cons, htexts]
    simp only [List.length_append, hheader, hfooter]
    omega
  have hnot : ¬(run .hush).texts.Sublist (run .full).texts := by
    intro hsublist
    have hlength := hsublist.length_le
    omega
  cases hresult.2.2.1 with
  | whole hall => exact absurd (hresult.1 .hush ▸ hall) hnot
  | cut hcut _ => exact ⟨hcut, hnot⟩

end Run

end Transcompiler
