/-
# The run of one unit, with all that is seen of it

`Trace` says what a run comes to apart from its events. This module adds the
events for the run of one file. If the file holds a unit, the run has three ways to
go, and each has its lemma: the time that the job took cannot be told, a report
breaks off, or the unit is finished.

A finished unit prints its texts in a fixed order: the options, whatever the
service itself prints, the answer of the service, the tally, the time and the
verdict. `allPrinted_ofFile_of_finished` says which of them are printed when; the
records in between print nothing.
-/

import Transcompiler.Proofs.Trace

namespace Transcompiler

namespace Event

theorem allPrinted_append (front rest : List Event) :
    allPrinted (front ++ rest) = allPrinted front ++ allPrinted rest :=
  List.filterMap_append

theorem allPrinted_logged (record : Log.Record) (rest : List Event) :
    allPrinted (.logged record :: rest) = allPrinted rest := rfl

theorem allPrinted_map_printed (texts : List String) :
    allPrinted (texts.map .printed) = texts := by
  rw [allPrinted, List.filterMap_map]
  exact List.filterMap_some

theorem allPrinted_eq_nil {events : List Event} (h : ∀ event ∈ events, event.printed? = none) :
    allPrinted events = [] :=
  List.filterMap_eq_nil_iff.mpr h

end Event

namespace Run

variable {σ : Type} (configuration : Configuration)

/-! ## The texts about a unit -/

/-- What is printed before a unit is read. -/
def headerTexts : List String :=
  if configuration.echo then [optionsText configuration] else []

/-- What is printed about the answer of the service. The diagnostics of a unit are
shown if it is rejected, as far as the verbosity shows them. -/
def answerTexts (path : String) (unit : JavaUnit) : Except Failure Outcome → List String
  | .error failure => [failureText failure]
  | .ok outcome =>
    if outcome.accepted then []
    else Diagnostic.fragments configuration.verbosity path unit.lines outcome.diagnostics

/-- The tally of a unit. Nothing is counted if the service failed or the verbosity is
mute. -/
def answerTally : Except Failure Outcome → Tally
  | .error _ => {}
  | .ok outcome =>
    if configuration.verbosity = .mute then {} else Tally.ofDiagnostics outcome.diagnostics

/-- The result of a unit that is finished. -/
def finishedResult (path : String) (unit : JavaUnit) (elapsed : Int)
    (result : Except Failure Outcome) : UnitResult :=
  unitResult path unit elapsed (answerTally configuration result) result

/-- What is printed about the tally of a unit. -/
def tallyTexts (tally : Tally) : List String :=
  if configuration.verbosity = .brief then [tally.render] else []

/-- What is printed last about a unit: the time and the verdict. -/
def footerTexts (result : UnitResult) : List String :=
  (if configuration.time then
    ["Time: " ++ toString result.elapsed ++ "-ms for: " ++ result.path]
  else []) ++
  (if configuration.echo then
    ["ZeptoN Compiler result for file: '" ++ result.path ++ "' is: " ++
      if result.accepted then "Success." else "Failure!"]
  else [])

theorem fragments_eq_nil {verbosity : Verbosity} (h : verbosity = .brief ∨ verbosity = .mute)
    (file : String) (lines : List Text) (diagnostics : List Diagnostic) :
    Diagnostic.fragments verbosity file lines diagnostics = [] := by
  have hnone : diagnostics.filter (verbosity.shows ·.kind) = [] := by
    rw [List.filter_eq_nil_iff]
    rcases h with rfl | rfl <;> simp [Verbosity.shows]
  rw [Diagnostic.fragments, hnone, List.map_nil]

theorem answerTexts_eq_nil {configuration : Configuration}
    (h : configuration.verbosity = .brief ∨ configuration.verbosity = .mute) (path : String)
    (unit : JavaUnit) (outcome : Outcome) :
    answerTexts configuration path unit (.ok outcome) = [] := by
  rw [answerTexts, fragments_eq_nil h, ite_self]

theorem records_print_nothing (verbosity : Verbosity) (file : String) (lines : List Text)
    (diagnostic : Diagnostic) :
    ∀ event ∈ diagnostic.records verbosity file lines, event.printed? = none := by
  intro event hevent
  rw [Diagnostic.records] at hevent
  cases hplace : diagnostic.location file with
  | error breakdown =>
    rw [hplace] at hevent
    contradiction
  | ok place =>
    simp only [hplace, List.mem_cons] at hevent
    rcases hevent with rfl | hevent
    · rfl
    · split_ifs at hevent
      · rw [List.mem_singleton.mp hevent]
        rfl
      · contradiction

/-- The records of a listing print nothing, however far the listing comes. -/
theorem allPrinted_records_report (verbosity : Verbosity) (memory : Memory) (file : String)
    (lines : List Text) (tally : Tally) (diagnostics : List Diagnostic) :
    Event.allPrinted (Diagnostic.report verbosity memory file lines tally diagnostics).records =
      [] := by
  obtain ⟨front, -, -, hrecords⟩ :=
    Diagnostic.exists_prefix_report verbosity memory lines diagnostics file tally
  rw [hrecords]
  apply Event.allPrinted_eq_nil
  intro event hevent
  obtain ⟨diagnostic, -, hrecord⟩ := List.mem_flatMap.mp hevent
  exact records_print_nothing verbosity file lines diagnostic event hrecord

theorem allPrinted_records_answerListing (memory : Memory) (path : String) (unit : JavaUnit)
    (result : Except Failure Outcome) :
    Event.allPrinted (answerListing configuration memory path unit result).records = [] := by
  cases result with
  | error failure => rfl
  | ok outcome =>
    rw [answerListing]
    split_ifs
    · rfl
    · exact allPrinted_records_report ..
    · exact allPrinted_records_report ..

/-- A report that does not break off has its texts and its tally. -/
theorem answerListing_of_reportable {configuration : Configuration} {memory : Memory}
    {unit : JavaUnit} {result : Except Failure Outcome}
    (h : ∀ breakdown, ¬Unreportable configuration memory unit result breakdown) (path : String) :
    (answerListing configuration memory path unit result).texts =
        .ok (answerTexts configuration path unit result) ∧
      (answerListing configuration memory path unit result).tally =
        answerTally configuration result := by
  cases result with
  | error failure => exact ⟨rfl, rfl⟩
  | ok outcome =>
    by_cases hmute : configuration.verbosity = .mute
    · rw [answerTexts_eq_nil (.inr hmute), answerListing, if_pos hmute, answerTally, if_pos hmute]
      exact ⟨rfl, rfl⟩
    · have hall : Diagnostic.AllShowable configuration.verbosity memory unit.lines
          outcome.diagnostics := by
        refine (Diagnostic.allShowable_or_breaksOff ..).resolve_right ?_
        rintro ⟨breakdown, hbroken⟩
        exact h breakdown ⟨outcome, rfl, hbroken⟩
      rw [answerListing, if_neg hmute, answerTally, if_neg hmute,
        Diagnostic.report_of_allShowable hall]
      by_cases hshown : configuration.verbosity ≠ .brief ∧ ¬outcome.accepted
      · rw [if_pos hshown, answerTexts, if_neg hshown.2]
        exact ⟨rfl, rfl⟩
      · rw [if_neg hshown]
        refine ⟨?_, rfl⟩
        rcases Decidable.not_and_iff_not_or_not.mp hshown with hbrief | haccepted
        · rw [answerTexts_eq_nil (.inl (not_not.mp hbrief))]
          rfl
        · rw [answerTexts, if_pos (not_not.mp haccepted)]
          rfl

theorem allPrinted_closingEvents (result : UnitResult) :
    Event.allPrinted (closingEvents configuration result) =
      tallyTexts configuration result.tally ++ footerTexts configuration result := by
  rw [closingEvents, tallyTexts, footerTexts]
  split_ifs <;> rfl

/-! ## Files with and without a unit -/

section Step

variable {configuration} {machine : Machine} {service : Service σ} {path : String} {state : σ}

/-- A file without a unit ends the run before the service is called. -/
theorem ofFile_of_fault {fault : Fault} (h : unitIn machine.files path = .error fault) :
    ofFile configuration machine service path state =
      ⟨(headerTexts configuration).map .printed, [], [], .error fault, state⟩ := by
  have hheader : (headerTexts configuration).map Event.printed =
      if configuration.echo then [.printed (optionsText configuration)] else [] := by
    rw [headerTexts]
    split_ifs <;> rfl
  cases hread : SourceFile.read machine.files path with
  | error refusal =>
    rw [unitIn, hread] at h
    cases h
    simp only [ofFile, hread, hheader]
  | ok text =>
    simp only [unitIn, hread, JavaUnit.ofText] at h
    cases houtline : Outline.ofText text with
    | error defect =>
      rw [houtline] at h
      cases h
      simp only [ofFile, hread, houtline, hheader]
    | ok outline =>
      rw [houtline] at h
      contradiction

/-- A unit is one job, whatever comes of it. -/
theorem jobs_ofFile {unit : JavaUnit} (hunit : unitIn machine.files path = .ok unit) :
    (ofFile configuration machine service path state).jobs = [Job.ofUnit configuration unit] ∧
      (ofFile configuration machine service path state).state =
        (service.compile (Job.ofUnit configuration unit) state).state := by
  by_cases hbroken : ∃ breakdown,
      BreaksOff configuration service machine.memory state unit breakdown
  · obtain ⟨breakdown, hbroken⟩ := hbroken
    have htrace := trace_ofFile_of_breaksOff configuration service hunit hbroken
    exact ⟨congrArg Trace.jobs htrace, congrArg Trace.state htrace⟩
  · obtain ⟨result, -, htrace⟩ :=
      trace_ofFile_of_not_breaksOff configuration service hunit (not_exists.mp hbroken)
    exact ⟨congrArg Trace.jobs htrace, congrArg Trace.state htrace⟩

end Step

/-! ## The three ways of a unit -/

section Ways

variable {configuration} {machine : Machine} {service : Service σ} {path : String}
  {unit : JavaUnit} {state : σ} {reply : Reply σ} {breakdown : Breakdown} {elapsed : Int}

variable (hunit : unitIn machine.files path = .ok unit)
  (hreply : service.compile (Job.ofUnit configuration unit) state = reply)

include hunit hreply

/-- The time that the job took cannot be told. -/
theorem ofFile_of_timeless
    (hclock : Clock.milliseconds (service.clock state) (service.clock reply.state) =
      .error breakdown) :
    ∃ record, ofFile configuration machine service path state =
      { events := (headerTexts configuration).map .printed ++ .logged record :: reply.events
        jobs := [Job.ofUnit configuration unit]
        units := []
        ending := .error (.breakdown breakdown)
        state := reply.state } := by
  obtain ⟨text, outline, hread, houtline, rfl⟩ := exists_outline_of_unitIn hunit
  simp only [ofFile, hread, houtline, ofOutline, hreply, hclock, headerTexts]
  refine ⟨⟨.debug, .outline, "Marcadores de " ++ path ++ ": " ++ outline.description⟩, ?_⟩
  split_ifs <;> rfl

variable (hclock : Clock.milliseconds (service.clock state) (service.clock reply.state) =
  .ok elapsed)

include hclock

/-- The job took some time, and its answer is reported on. -/
theorem ofFile_of_elapsed :
    ∃ record, ofFile configuration machine service path state =
      { ofReply configuration machine.memory path unit elapsed reply with
        events := (headerTexts configuration).map .printed ++ .logged record :: reply.events ++
          (ofReply configuration machine.memory path unit elapsed reply).events
        jobs := [Job.ofUnit configuration unit] } := by
  obtain ⟨text, outline, hread, houtline, rfl⟩ := exists_outline_of_unitIn hunit
  simp only [ofFile, hread, houtline, ofOutline, hreply, hclock, headerTexts]
  refine ⟨⟨.debug, .outline, "Marcadores de " ++ path ++ ": " ++ outline.description⟩, ?_⟩
  split_ifs <;> rfl

/-- The report breaks off. -/
theorem ofFile_of_broken
    (hreport : Unreportable configuration machine.memory unit reply.result breakdown) :
    ∃ events, ofFile configuration machine service path state =
      { events := events
        jobs := [Job.ofUnit configuration unit]
        units := []
        ending := .error (.breakdown breakdown)
        state := reply.state } := by
  obtain ⟨record, hrun⟩ := ofFile_of_elapsed hunit hreply hclock
  rw [hrun]
  simp only [ofReply, texts_answerListing_eq_error_iff.mpr hreport]
  exact ⟨_, rfl⟩

/-- What is printed about a unit whose report breaks off. -/
theorem allPrinted_ofFile_of_broken
    (hreport : Unreportable configuration machine.memory unit reply.result breakdown) :
    Event.allPrinted (ofFile configuration machine service path state).events =
      headerTexts configuration ++ Event.allPrinted reply.events := by
  obtain ⟨record, hrun⟩ := ofFile_of_elapsed hunit hreply hclock
  rw [hrun]
  simp only [ofReply, texts_answerListing_eq_error_iff.mpr hreport, Event.debug,
    Event.allPrinted_append, Event.allPrinted_map_printed, Event.allPrinted_logged,
    allPrinted_records_answerListing, List.append_nil]

variable (hreport : ∀ breakdown,
  ¬Unreportable configuration machine.memory unit reply.result breakdown)

include hreport

/-- The unit is finished. -/
theorem ofFile_of_finished :
    ∃ events, ofFile configuration machine service path state =
      { events := events
        jobs := [Job.ofUnit configuration unit]
        units := [finishedResult configuration path unit elapsed reply.result]
        ending := .ok (finishedResult configuration path unit elapsed reply.result)
        state := reply.state } := by
  obtain ⟨record, hrun⟩ := ofFile_of_elapsed hunit hreply hclock
  obtain ⟨htexts, htally⟩ := answerListing_of_reportable hreport path
  rw [hrun]
  simp only [ofReply, htexts, htally]
  exact ⟨_, rfl⟩

/-- What is printed about a finished unit, in its order. -/
theorem allPrinted_ofFile_of_finished :
    Event.allPrinted (ofFile configuration machine service path state).events =
      headerTexts configuration ++ Event.allPrinted reply.events ++
        answerTexts configuration path unit reply.result ++
        tallyTexts configuration (answerTally configuration reply.result) ++
        footerTexts configuration
          (finishedResult configuration path unit elapsed reply.result) := by
  obtain ⟨record, hrun⟩ := ofFile_of_elapsed hunit hreply hclock
  obtain ⟨htexts, htally⟩ := answerListing_of_reportable hreport path
  have hcounted : (unitResult path unit elapsed (answerTally configuration reply.result)
      reply.result).tally = answerTally configuration reply.result := by
    cases reply.result <;> rfl
  rw [hrun]
  simp only [ofReply, htexts, htally, Event.debug, Event.allPrinted_append,
    Event.allPrinted_map_printed, Event.allPrinted_logged, List.cons_append,
    allPrinted_records_answerListing, allPrinted_closingEvents, hcounted, finishedResult,
    List.nil_append, List.append_assoc]

end Ways

end Run

end Transcompiler
