/-
# The exit code of a session

A session ends with one of three codes. This module says which, from the arguments,
the files, the setup of the Java compiler and its processes, without going through a
run. `Ends` lists the ways in which the run of an invocation ends; it is exact, so
each code can be read off it.

The main statement is `exitCode_ofArguments`. A file without a usable unit makes the
code two, however many units in front of it were compiled; a unit that is not accepted
makes it one; otherwise it is zero. A breakdown wins over all of that, and its code is
one: a name that is too long for the file system, or a directory that may not be
searched, is not treated like the other reasons for which a file is refused.
-/

import Transcompiler.Proofs.JavaCompiler
import Transcompiler.Session

namespace Transcompiler

namespace Run

/-! ## How a run ends -/

section Endings

variable {σ : Type} (configuration : Configuration) (machine : Machine) (service : Service σ)
  (state : σ)

/-- How the run of an invocation ends. -/
inductive Ends : Except Fault Status → Prop where
  /-- A file is refused, and none in front of it is. -/
  | refused {before behind : List String} {path : String} {fault : FileFault} :
      configuration.files = before ++ path :: behind →
      (∀ earlier ∈ before, SourceFile.verify machine.files earlier = .ok ()) →
      SourceFile.verify machine.files path = .error fault → Ends (.error (.file fault))
  /-- No file is refused, but one holds no unit. -/
  | unitless {before behind : List String} {path : String} {units : List JavaUnit}
      {fault : Fault} :
      (∀ path ∈ configuration.files, SourceFile.verify machine.files path = .ok ()) →
      configuration.files = before ++ path :: behind →
      Finishes configuration machine service state before units →
      unitIn machine.files path = .error fault → Ends (.error fault)
  /-- Something breaks down behind a job. -/
  | broken {before behind : List String} {path : String} {units : List JavaUnit}
      {unit : JavaUnit} {breakdown : Breakdown} :
      (∀ path ∈ configuration.files, SourceFile.verify machine.files path = .ok ()) →
      configuration.files = before ++ path :: behind →
      Finishes configuration machine service state before units →
      unitIn machine.files path = .ok unit →
      BreaksOff configuration service machine.memory
        (service.stateAfter state (units.map (Job.ofUnit configuration))) unit breakdown →
      Ends (.error (.breakdown breakdown))
  /-- Every unit was compiled. -/
  | finished {units : List JavaUnit} :
      (∀ path ∈ configuration.files, SourceFile.verify machine.files path = .ok ()) →
      Finishes configuration machine service state configuration.files units →
      Ends (.ok (statusFrom .success
        (service.results state (units.map (Job.ofUnit configuration)))))

variable {configuration machine service state}

/-- The run goes on behind files that finish. -/
theorem ending_of_finishes {before behind : List String} {units : List JavaUnit}
    (hverified : ∀ path ∈ configuration.files, SourceFile.verify machine.files path = .ok ())
    (hfiles : configuration.files = before ++ behind)
    (hfinishes : Finishes configuration machine service state before units) :
    (ofConfiguration configuration machine service state).ending =
      (ofFiles configuration machine service behind
        (statusFrom .success (service.results state (units.map (Job.ofUnit configuration))))
        (service.stateAfter state (units.map (Job.ofUnit configuration)))).ending := by
  rw [ofConfiguration_of_forall configuration machine service hverified, hfiles]
  exact congrArg Trace.ending (hfinishes.trace_ofFiles_append behind .success)

theorem Ends.ending_eq {ending : Except Fault Status}
    (h : Ends configuration machine service state ending) :
    (ofConfiguration configuration machine service state).ending = ending := by
  cases h with
  | refused hfiles hbefore hpath =>
    rw [ofConfiguration_of_refused configuration machine service hfiles hbefore hpath]
  | unitless hverified hfiles hfinishes hpath =>
    rw [ending_of_finishes hverified hfiles hfinishes]
    exact congrArg Trace.ending (trace_ofFiles_cons_of_error
      (trace_ofFile_of_fault configuration service hpath _) _ _)
  | broken hverified hfiles hfinishes hunit hbroken =>
    rw [ending_of_finishes hverified hfiles hfinishes]
    exact congrArg Trace.ending (trace_ofFiles_cons_of_error
      (trace_ofFile_of_breaksOff configuration service hunit hbroken) _ _)
  | finished hverified hfinishes =>
    rw [ending_of_finishes hverified (List.append_nil _).symm hfinishes]
    rfl

/-- Among files of which one is refused, there is a first one. -/
theorem exists_refused {paths : List String}
    (h : ¬∀ path ∈ paths, SourceFile.verify machine.files path = .ok ()) :
    ∃ before path behind fault, paths = before ++ path :: behind ∧
      (∀ earlier ∈ before, SourceFile.verify machine.files earlier = .ok ()) ∧
      SourceFile.verify machine.files path = .error fault := by
  induction paths with
  | nil => exact absurd nofun h
  | cons path paths ih =>
    cases hpath : SourceFile.verify machine.files path with
    | error fault => exact ⟨[], path, paths, fault, rfl, nofun, hpath⟩
    | ok _ =>
      obtain ⟨before, refused, behind, fault, hpaths, hbefore, hrefused⟩ :=
        ih fun hrest => h (List.forall_mem_cons.mpr ⟨hpath, hrest⟩)
      exact ⟨path :: before, refused, behind, fault, congrArg (path :: ·) hpaths,
        List.forall_mem_cons.mpr ⟨hpath, hbefore⟩, hrefused⟩

variable (configuration machine service state) in
/-- A run ends in one of these ways. -/
theorem ends_ofConfiguration :
    Ends configuration machine service state
      (ofConfiguration configuration machine service state).ending := by
  have hends : ∃ ending, Ends configuration machine service state ending := by
    by_cases hverified : ∀ path ∈ configuration.files, SourceFile.verify machine.files path = .ok ()
    · obtain ⟨before, units, behind, hfiles, hfinishes, hstop⟩ :=
        exists_finishes configuration machine service state configuration.files
      cases behind with
      | nil =>
        rw [List.append_nil] at hfiles
        rw [← hfiles] at hfinishes
        exact ⟨_, .finished hverified hfinishes⟩
      | cons path behind =>
        cases hunit : unitIn machine.files path with
        | error fault => exact ⟨_, .unitless hverified hfiles hfinishes hunit⟩
        | ok unit =>
          obtain ⟨breakdown, hbroken⟩ := hstop path behind rfl unit hunit
          exact ⟨_, .broken hverified hfiles hfinishes hunit hbroken⟩
    · obtain ⟨before, path, behind, fault, hfiles, hbefore, hpath⟩ := exists_refused hverified
      exact ⟨_, .refused hfiles hbefore hpath⟩
  obtain ⟨ending, hending⟩ := hends
  rw [hending.ending_eq]
  exact hending

/-! ## Breakdowns -/

variable (configuration machine service state)

/-- The run of an invocation breaks down. The first file that is refused has a name
that is too long, or lies below a directory that may not be searched, or something
breaks down behind a job. -/
inductive BreaksDown : Prop where
  | nameTooLong {before behind : List String} {path : String} :
      configuration.files = before ++ path :: behind →
      (∀ earlier ∈ before, SourceFile.verify machine.files earlier = .ok ()) →
      machine.files.entry (Path.ofString path) = .nameTooLong → BreaksDown
  | forbidden {before behind : List String} {path : String} :
      configuration.files = before ++ path :: behind →
      (∀ earlier ∈ before, SourceFile.verify machine.files earlier = .ok ()) →
      machine.files.entry (Path.ofString path) = .forbidden → BreaksDown
  | behindJob {before behind : List String} {path : String} {units : List JavaUnit}
      {unit : JavaUnit} {breakdown : Breakdown} :
      (∀ path ∈ configuration.files, SourceFile.verify machine.files path = .ok ()) →
      configuration.files = before ++ path :: behind →
      Finishes configuration machine service state before units →
      unitIn machine.files path = .ok unit →
      BreaksOff configuration service machine.memory
        (service.stateAfter state (units.map (Job.ofUnit configuration))) unit breakdown →
      BreaksDown

variable {configuration machine service state}

theorem verify_of_nameTooLong {path : String}
    (h : machine.files.entry (Path.ofString path) = .nameTooLong) :
    SourceFile.verify machine.files path =
      .error (.breakdown (.nameTooLong (Path.ofString path))) := by
  simp only [SourceFile.verify, h]

theorem verify_of_forbidden {path : String}
    (h : machine.files.entry (Path.ofString path) = .forbidden) :
    SourceFile.verify machine.files path =
      .error (.breakdown (.forbidden (Path.ofString path))) := by
  simp only [SourceFile.verify, h]

theorem exists_bytes_of_verify {path : String} (h : SourceFile.verify machine.files path = .ok ()) :
    ∃ bytes, machine.files.entry (Path.ofString path) = .file bytes := by
  cases hentry : machine.files.entry (Path.ofString path) with
  | file bytes => exact ⟨bytes, rfl⟩
  | _ => simp [SourceFile.verify, hentry] at h

theorem entry_of_verify_breakdown {path : String} {breakdown : Breakdown}
    (h : SourceFile.verify machine.files path = .error (.breakdown breakdown)) :
    machine.files.entry (Path.ofString path) = .nameTooLong ∨
      machine.files.entry (Path.ofString path) = .forbidden := by
  cases hentry : machine.files.entry (Path.ofString path) with
  | nameTooLong => exact .inl rfl
  | forbidden => exact .inr rfl
  | file bytes =>
    simp only [SourceFile.verify, hentry] at h
    split_ifs at h
    simp at h
  | _ => simp [SourceFile.verify, hentry] at h

/-- What is wrong with a file that is not refused is never a breakdown. -/
theorem breakdown?_of_unitIn {path : String} {fault : Fault}
    (hverified : SourceFile.verify machine.files path = .ok ())
    (h : unitIn machine.files path = .error fault) :
    fault.breakdown? = none := by
  obtain ⟨bytes, hentry⟩ := exists_bytes_of_verify hverified
  cases hdecode : Utf8.decode bytes with
  | error cause =>
    simp only [unitIn, SourceFile.read, hentry, hdecode] at h
    cases h
    rfl
  | ok text =>
    simp only [unitIn, SourceFile.read, hentry, hdecode] at h
    cases hunit : JavaUnit.ofText (SourceFile.normalizeNewlines text) with
    | error defect =>
      rw [hunit] at h
      cases h
      rfl
    | ok unit =>
      rw [hunit] at h
      contradiction

/-- A run breaks down exactly if it ends in a fault that is a breakdown. -/
theorem breaksDown_iff :
    BreaksDown configuration machine service state ↔
      ∃ fault, (ofConfiguration configuration machine service state).ending = .error fault ∧
        fault.breakdown?.isSome = true := by
  constructor
  · intro h
    cases h with
    | nameTooLong hfiles hbefore hpath =>
      exact ⟨_, (Ends.refused hfiles hbefore (verify_of_nameTooLong hpath)).ending_eq, rfl⟩
    | forbidden hfiles hbefore hpath =>
      exact ⟨_, (Ends.refused hfiles hbefore (verify_of_forbidden hpath)).ending_eq, rfl⟩
    | behindJob hverified hfiles hfinishes hunit hbroken =>
      exact ⟨_, (Ends.broken hverified hfiles hfinishes hunit hbroken).ending_eq, rfl⟩
  · rintro ⟨fault, hending, hsome⟩
    have hends := ends_ofConfiguration configuration machine service state
    rw [hending] at hends
    cases hends with
    | @refused _ _ _ fault hfiles hbefore hpath =>
      cases fault with
      | breakdown cause =>
        rcases entry_of_verify_breakdown hpath with hlong | hclosed
        · exact .nameTooLong hfiles hbefore hlong
        · exact .forbidden hfiles hbefore hclosed
      | _ => contradiction
    | unitless hverified hfiles hfinishes hpath =>
      have hmem : _ ∈ configuration.files := hfiles ▸ List.mem_append_right _ List.mem_cons_self
      rw [breakdown?_of_unitIn (hverified _ hmem) hpath] at hsome
      contradiction
    | broken hverified hfiles hfinishes hunit hbroken =>
      exact .behindJob hverified hfiles hfinishes hunit hbroken

/-! ## Units and their files -/

/-- A file that is refused, or that holds no unit. -/
def Unusable (files : FileSystem) (path : String) : Prop :=
  (∃ fault, SourceFile.verify files path = .error fault) ∨
    ∃ fault, unitIn files path = .error fault

/-- The units of files that finish stand in the order of the files. -/
theorem Finishes.getElem?_units {paths : List String} {units : List JavaUnit}
    (h : Finishes configuration machine service state paths units) (n : Nat) :
    units[n]? = paths[n]?.bind fun path => (unitIn machine.files path).toOption := by
  induction h generalizing n with
  | nil => rfl
  | cons hunit _ _ ih =>
    cases n with
    | zero => simp [hunit, Except.toOption]
    | succ n => exact ih n

theorem Finishes.exists_unitIn {paths : List String} {units : List JavaUnit}
    (h : Finishes configuration machine service state paths units) :
    ∀ path ∈ paths, ∃ unit, unitIn machine.files path = .ok unit := by
  induction h with
  | nil => exact nofun
  | cons hunit _ _ ih => exact List.forall_mem_cons.mpr ⟨⟨_, hunit⟩, ih⟩

theorem Finishes.not_unusable {units : List JavaUnit}
    (hverified : ∀ path ∈ configuration.files, SourceFile.verify machine.files path = .ok ())
    (h : Finishes configuration machine service state configuration.files units) :
    ∀ path ∈ configuration.files, ¬Unusable machine.files path := by
  rintro path hmem (⟨fault, hrefused⟩ | ⟨fault, hfault⟩)
  · rw [hverified path hmem] at hrefused
    contradiction
  · obtain ⟨unit, hunit⟩ := h.exists_unitIn path hmem
    rw [hunit] at hfault
    contradiction

/-- A run that ends in a fault has a file to blame, unless it breaks down. -/
theorem exists_unusable {fault : Fault}
    (h : (ofConfiguration configuration machine service state).ending = .error fault)
    (hfine : fault.breakdown? = none) :
    ∃ path ∈ configuration.files, Unusable machine.files path := by
  have hends := ends_ofConfiguration configuration machine service state
  rw [h] at hends
  cases hends with
  | @refused before behind path cause hfiles hbefore hpath =>
    refine ⟨path, ?_, Or.inl ⟨cause, hpath⟩⟩
    rw [hfiles]
    exact List.mem_append_right _ List.mem_cons_self
  | @unitless before behind path units _ hverified hfiles hfinishes hpath =>
    refine ⟨path, ?_, Or.inr ⟨fault, hpath⟩⟩
    rw [hfiles]
    exact List.mem_append_right _ List.mem_cons_self
  | broken => contradiction

end Endings

end Run

/-! ## Sessions -/

namespace Host

variable (host : Host) (configuration : Configuration)

/-- Compiling the units of a configuration breaks down. -/
def BreaksDown : Prop :=
  Run.BreaksDown configuration host.toMachine (Javac.service host.setup)
    { executions := host.executions }

/-- The unit in a place of the list of files is accepted: the Java compiler can be
started for it, and the process in the same place ends well. -/
def Accepts (n : Nat) (unit : JavaUnit) : Prop :=
  (∃ executable path,
    Javac.Starts host.setup (Job.ofUnit configuration unit) executable path) ∧
      (host.executions.getD n {}).Accepts

/-- Every unit of a configuration is accepted. -/
def AcceptsAll : Prop :=
  ∀ n path unit, configuration.files[n]? = some path → Run.unitIn host.files path = .ok unit →
    host.Accepts configuration n unit

end Host

namespace Session

variable (host : Host) (configuration : Configuration)

theorem acceptsAll_iff {units : List JavaUnit}
    (h : Run.Finishes configuration host.toMachine (Javac.service host.setup)
      { executions := host.executions } configuration.files units) :
    ((Javac.service host.setup).results { executions := host.executions }
      (units.map (Job.ofUnit configuration))).all Run.isAccepted = true ↔
        host.AcceptsAll configuration := by
  rw [h.all_isAccepted_iff]
  constructor
  · intro hall n path unit hpath hunit
    refine hall n unit ?_
    rw [h.getElem?_units, hpath, Option.bind_some, hunit]
    rfl
  · intro hall n unit hunit
    rw [h.getElem?_units] at hunit
    obtain ⟨path, hpath, hoption⟩ := Option.bind_eq_some_iff.mp hunit
    refine hall n path unit hpath ?_
    cases hread : Run.unitIn host.files path with
    | error fault =>
      rw [hread] at hoption
      contradiction
    | ok other =>
      rw [hread] at hoption
      cases hoption
      rfl

/-- The status of compiling the units of a configuration. -/
inductive HasStatus : Status → Prop where
  | broken : host.BreaksDown configuration → HasStatus .failure
  | unusable : ¬host.BreaksDown configuration →
      (∃ path ∈ configuration.files, Run.Unusable host.files path) → HasStatus .problem
  | rejected : ¬host.BreaksDown configuration →
      (∀ path ∈ configuration.files, ¬Run.Unusable host.files path) →
      ¬host.AcceptsAll configuration → HasStatus .failure
  | accepted : ¬host.BreaksDown configuration →
      (∀ path ∈ configuration.files, ¬Run.Unusable host.files path) →
      host.AcceptsAll configuration → HasStatus .success

theorem hasStatus_ofConfiguration :
    HasStatus host configuration (ofConfiguration host configuration).status := by
  have hbreaks : host.BreaksDown configuration ↔ _ := Run.breaksDown_iff
  have hends := Run.ends_ofConfiguration configuration host.toMachine (Javac.service host.setup)
    { executions := host.executions }
  cases hending : (Run.ofConfiguration configuration host.toMachine (Javac.service host.setup)
      { executions := host.executions }).ending with
  | error fault =>
    have hstatus : (ofConfiguration host configuration).status = fault.status := by
      simp only [ofConfiguration, hending]
    rw [hstatus, Fault.status]
    split_ifs with hbroken
    · exact .broken (hbreaks.mpr ⟨fault, hending, hbroken⟩)
    · refine .unusable ?_ (Run.exists_unusable hending (by simpa using hbroken))
      rw [hbreaks]
      rintro ⟨other, hother, hsome⟩
      rw [hending] at hother
      cases hother
      exact hbroken hsome
  | ok status =>
    have hstatus : (ofConfiguration host configuration).status = status := by
      simp only [ofConfiguration, hending]
    have hfine : ¬host.BreaksDown configuration := by
      rw [hbreaks, hending]
      rintro ⟨fault, hfault, -⟩
      contradiction
    rw [hending] at hends
    rw [hstatus]
    cases hends with
    | finished hverified hfinishes =>
      have husable := hfinishes.not_unusable hverified
      have haccepts := acceptsAll_iff host configuration hfinishes
      rw [Run.statusFrom]
      split_ifs with hall
      · exact .accepted hfine husable (haccepts.mp hall)
      · exact .rejected hfine husable (fun h => hall (haccepts.mpr h))

/-- The exit code of a session is two exactly if the arguments make no invocation, or
some file of the invocation is refused or holds no unit, whatever came of the units in
front of it. It is one exactly if every file holds a unit but not every unit is
accepted, and zero in every remaining case, so also for help and information. The one
exception is a breakdown, whose code is one. -/
theorem exitCode_ofArguments (host : Host) (given : List String) :
    let asked := Configuration.ofArguments (withoutMarker given)
    let code := (ofArguments host given).exitCode
    (code = 2 ↔ (∃ fault, asked = .error fault) ∨
      ∃ configuration, asked = .ok configuration ∧ configuration.action = .compile ∧
        ¬host.BreaksDown configuration ∧
        ∃ path ∈ configuration.files, Run.Unusable host.files path) ∧
    (code = 1 ↔
      ∃ configuration, asked = .ok configuration ∧ configuration.action = .compile ∧
        (host.BreaksDown configuration ∨
          (∀ path ∈ configuration.files, ¬Run.Unusable host.files path) ∧
            ¬host.AcceptsAll configuration)) ∧
    (code = 0 ↔
      ∃ configuration, asked = .ok configuration ∧ (configuration.action = .compile →
        ¬host.BreaksDown configuration ∧
        (∀ path ∈ configuration.files, ¬Run.Unusable host.files path) ∧
          host.AcceptsAll configuration)) := by
  intro asked code
  cases hasked : Configuration.ofArguments (withoutMarker given) with
  | error fault =>
    have hcode : code = 2 := by
      simp only [code, exitCode, ofArguments, hasked]
      rfl
    simp [asked, hasked, hcode]
  | ok configuration =>
    cases haction : configuration.action with
    | help =>
      have hcode : code = 0 := by
        simp only [code, exitCode, ofArguments, hasked, haction]
        rfl
      simp [asked, hasked, hcode, haction]
    | info =>
      have hcode : code = 0 := by
        simp only [code, exitCode, ofArguments, hasked, haction]
        rfl
      simp [asked, hasked, hcode, haction]
    | compile =>
      have hcode : code = (ofConfiguration host configuration).status.code := by
        simp only [code, exitCode, ofArguments, hasked, haction]
      have hstatus := hasStatus_ofConfiguration host configuration
      generalize (ofConfiguration host configuration).status = status at hcode hstatus
      cases hstatus with
      | broken hbroken => simp [asked, hasked, hcode, haction, hbroken, Status.code]
      | unusable hfine hunusable =>
        have hsome : ¬∀ path ∈ configuration.files, ¬Run.Unusable host.files path := by
          simpa using hunusable
        simp [asked, hasked, hcode, haction, hfine, hunusable, hsome, Status.code]
      | rejected hfine husable hrejected =>
        simpa [asked, hasked, hcode, haction, hfine, hrejected, Status.code] using husable
      | accepted hfine husable haccepted =>
        simpa [asked, hasked, hcode, haction, hfine, haccepted, Status.code] using husable

/-- The characters of a name of a source file that is too long for a file system. -/
def longText : Text :=
  List.replicate 252 'a' ++ ".zep".toList

/-- The name of a source file that is too long for a file system. -/
def longName : String :=
  String.ofList longText

/-- A machine without files. -/
def emptyHost : Host where
  files := FileTree.toFileSystem {}
  memory := smallMemory
  workingDirectory := ⟨.slash, []⟩
  scratchDirectory := ⟨.slash, []⟩

/-- A machine on which no directory may be searched. -/
def closedHost : Host :=
  { emptyHost with files := ⟨fun _ => .forbidden⟩ }

/-- The arguments are one source file. -/
theorem ofArguments_of_sourceName {name : String} (hmarker : name ≠ "--")
    (hoption : Configuration.isOption name = false)
    (hsource : Configuration.isSourceName name = true) :
    Configuration.ofArguments (withoutMarker [name]) = .ok { files := [name] } := by
  have hgiven : withoutMarker [name] = [name] :=
    List.erase_of_not_mem fun h => hmarker (List.mem_singleton.mp h).symm
  rw [hgiven, Configuration.ofArguments, if_neg (List.cons_ne_nil _ _),
    Configuration.readOptions, if_neg (by simp [hoption]), Configuration.withFiles,
    List.find?_cons_of_neg (by simp [hsource]), List.find?_nil]

theorem entry_longName : emptyHost.files.entry (Path.ofString longName) = .nameTooLong := by
  -- The characters are read off by the lemma: to evaluate the string would decode it.
  have htext : longName.toList = longText := String.toList_ofList
  have hpath : Path.ofString longName = ⟨.relative, [longText]⟩ := by
    rw [Path.ofString, htext]
    decide +kernel
  have hzero : Path.hasZero ⟨.relative, [longText]⟩ = false := by decide +kernel
  have hfits : Path.nameFits longText = false := by decide +kernel
  simp [hpath, emptyHost, FileTree.toFileSystem, hzero, FileTree.walk, FileTree.entryAt,
    FileTree.entryBelow, hfits]

/-- A file whose name is too long, or that lies below a directory that may not be
searched, is refused, but the code is one. -/
theorem exitCode_ofArguments_of_unseen_files :
    (Run.Unusable emptyHost.files longName ∧
      (ofArguments emptyHost [longName]).exitCode = 1) ∧
    Run.Unusable closedHost.files "a.zep" ∧ (ofArguments closedHost ["a.zep"]).exitCode = 1 := by
  have htext : longName.toList = longText := String.toList_ofList
  have hlong : Configuration.ofArguments (withoutMarker [longName]) =
      .ok { files := [longName] } := by
    apply ofArguments_of_sourceName
    · intro h
      rw [h] at htext
      exact absurd (congrArg List.head? htext) (by decide)
    · rw [Configuration.isOption, htext]
      rfl
    · rw [Configuration.isSourceName, htext]
      exact decide_eq_true (List.suffix_append _ _)
  have hshort : Configuration.ofArguments (withoutMarker ["a.zep"]) =
      .ok { files := ["a.zep"] } :=
    ofArguments_of_sourceName (by decide) (by decide) (by decide)
  have hclosed : closedHost.toMachine.files.entry (Path.ofString "a.zep") = .forbidden := rfl
  have hbroken : emptyHost.BreaksDown { files := [longName] } :=
    .nameTooLong (show [longName] = [] ++ longName :: [] from rfl) (by simp) entry_longName
  have hbroken' : closedHost.BreaksDown { files := ["a.zep"] } :=
    .forbidden (show ["a.zep"] = [] ++ "a.zep" :: [] from rfl) (by simp) hclosed
  exact ⟨⟨.inl ⟨_, Run.verify_of_nameTooLong entry_longName⟩,
    (exitCode_ofArguments emptyHost [longName]).2.1.mpr ⟨_, hlong, rfl, .inl hbroken⟩⟩,
    .inl ⟨_, Run.verify_of_forbidden hclosed⟩,
    (exitCode_ofArguments closedHost ["a.zep"]).2.1.mpr ⟨_, hshort, rfl, .inl hbroken'⟩⟩

end Session

end Transcompiler
