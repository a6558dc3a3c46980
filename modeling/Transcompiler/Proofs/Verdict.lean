/-
# Verdicts on the front of the arguments

Arguments are read from left to right, so one expects that what is settled by the
first arguments stays settled, whatever follows. The one option that looks ahead is
`-javac`: it takes everything up to the next source file, and without one everything
up to the end. A list that stops inside of it, or before the first source file, has
no verdict yet that could stay.

`Settles` says what becomes of a verdict when arguments are added, and
`settles_readOptions` proves it along the recursion of the reader. The look-ahead
matters in one case only: behind a source file it stops where it stopped before, and
without one the verdict was open.
-/

import Transcompiler.Proofs.Invocation

namespace Transcompiler

/-- Whether an argument is to blame for the fault, rather than the end of the list or a
`-javac` with nothing to pass on. -/
def ArgumentFault.isSettled : ArgumentFault → Bool
  | .nothingGiven => false
  | .noFiles => false
  | .noJavacArguments => false
  | .conflict _ => true
  | .unknownOption _ => true
  | .optionAfterFiles _ => true
  | .wrongExtension _ => true

namespace Configuration

/-- What further arguments make of a verdict: faults that are settled and answers to
questions stay, and requests take the arguments as further files. -/
inductive Settles (more : List String) :
    Except ArgumentFault Configuration → Except ArgumentFault Configuration → Prop where
  /-- The verdict may change. -/
  | unsettled {fault : ArgumentFault} (verdict : Except ArgumentFault Configuration) :
      fault.isSettled = false → Settles more (.error fault) verdict
  | fault (fault : ArgumentFault) : Settles more (.error fault) (.error fault)
  | inquiry {configuration : Configuration} :
      configuration.action ≠ .compile → Settles more (.ok configuration) (.ok configuration)
  | request {configuration : Configuration} :
      configuration.action = .compile →
        Settles more (.ok configuration) (configuration.withFiles (configuration.files ++ more))

section Step

variable {configuration : Configuration} {argument : String} {rest more : List String}

theorem action_of_reduce {reduced : Configuration} {reduction : Verbosity.Reduction}
    (h : configuration.reduce reduction = .ok reduced) :
    reduced.action = configuration.action := by
  rw [reduce] at h
  split_ifs at h
  cases h
  rfl

/-- Only the first argument that names no source file counts. -/
theorem withFiles_of_first {front behind : List String}
    (hfront : ∀ other ∈ front, isSourceName other = true)
    (hargument : isSourceName argument = false) :
    configuration.withFiles (front ++ argument :: behind) =
      .error
        (if isOption argument then .optionAfterFiles argument else .wrongExtension argument) := by
  have hfind : (front ++ argument :: behind).find? (!isSourceName ·) = some argument := by
    rw [List.find?_append, List.find?_eq_none.mpr (by simpa using hfront)]
    simp [hargument]
  rw [withFiles, hfind]
  by_cases hoption : isOption argument = true
  · simp [hoption]
  · simp [hoption]

theorem settles_withFiles (h : configuration.action = .compile) (files more : List String) :
    Settles more (configuration.withFiles files) (configuration.withFiles (files ++ more)) := by
  by_cases hnamed : ∀ file ∈ files, isSourceName file = true
  · rw [withFiles_eq_ok_iff.mpr ⟨hnamed, rfl⟩]
    exact .request h
  · obtain ⟨front, rest, rfl, hfront, hrest⟩ := exists_longest isSourceName files
    cases rest with
    | nil =>
      rw [List.append_nil] at hnamed
      exact absurd hfront hnamed
    | cons argument behind =>
      have hargument : isSourceName argument = false := hrest argument rfl
      rw [List.append_assoc, List.cons_append, withFiles_of_first hfront hargument,
        withFiles_of_first hfront hargument]
      exact .fault _

/-- Behind a source file, what `-javac` passes on does not depend on what follows. -/
theorem readOptions_javac_append (hoption : isOption argument = true)
    (hflag : Flag.ofArgument? argument = some .javac)
    (hpassed : rest.takeWhile (!isSourceName ·) ≠ [])
    (hsource : rest.dropWhile (!isSourceName ·) ≠ []) :
    readOptions configuration (argument :: rest ++ more) =
      readOptions
        { configuration with
          javacArguments := configuration.javacArguments ++ rest.takeWhile (!isSourceName ·) }
        (rest.dropWhile (!isSourceName ·) ++ more) := by
  have hdrop : (rest ++ more).dropWhile (!isSourceName ·) =
      rest.dropWhile (!isSourceName ·) ++ more := by
    rw [List.dropWhile_append, if_neg (by simpa using hsource)]
  have htake : (rest ++ more).takeWhile (!isSourceName ·) = rest.takeWhile (!isSourceName ·) := by
    rw [List.takeWhile_append, if_neg]
    intro hlength
    have hwhole := congrArg List.length
      (List.takeWhile_append_dropWhile (p := (!isSourceName ·)) (l := rest))
    rw [List.length_append, hlength] at hwhole
    exact hsource (List.eq_nil_of_length_eq_zero (by omega))
  rw [List.cons_append, readOptions, if_pos hoption, hflag]
  simp only [hdrop, htake, hpassed, if_false]

end Step

/-- Adding arguments to those that are left to read. -/
theorem settles_readOptions (configuration : Configuration) (arguments more : List String) :
    configuration.action = .compile →
      Settles more (readOptions configuration arguments)
        (readOptions configuration (arguments ++ more)) := by
  fun_induction readOptions configuration arguments with
  | case1 => exact fun _ => .unsettled _ rfl
  | case2 configuration argument rest hoption hflag =>
    rw [List.cons_append, readOptions, if_pos hoption, hflag]
    exact fun _ => .fault _
  | case3 configuration argument rest hoption hflag ih
  | case4 configuration argument rest hoption hflag ih
  | case5 configuration argument rest hoption hflag ih =>
    rw [List.cons_append, readOptions, if_pos hoption, hflag]
    exact ih
  | case6 configuration argument rest hoption reduction hflag fault hreduce =>
    rw [List.cons_append, readOptions, if_pos hoption, hflag]
    simp only [hreduce]
    exact fun _ => .fault _
  | case7 configuration argument rest hoption reduction hflag reduced hreduce ih =>
    rw [List.cons_append, readOptions, if_pos hoption, hflag]
    simp only [hreduce]
    exact fun haction => ih ((action_of_reduce hreduce).trans haction)
  | case8 => exact fun _ => .unsettled _ rfl
  | case9 configuration argument rest hoption hflag passed hpassed ih =>
    by_cases hsource : rest.dropWhile (!isSourceName ·) = []
    · -- Everything was passed on, so the next argument may be too.
      rw [hsource, readOptions]
      exact fun _ => .unsettled _ rfl
    · rw [readOptions_javac_append hoption hflag hpassed hsource]
      exact ih
  | case10 configuration argument rest hoption hflag
  | case11 configuration argument rest hoption hflag =>
    rw [List.cons_append, readOptions, if_pos hoption, hflag]
    exact fun _ => .inquiry (by simp)
  | case12 configuration argument rest hoption =>
    rw [List.cons_append, readOptions, if_neg hoption]
    exact fun haction => settles_withFiles haction (argument :: rest) more

theorem settles_ofArguments (arguments more : List String) :
    Settles more (ofArguments arguments) (ofArguments (arguments ++ more)) := by
  by_cases hnothing : arguments = []
  · rw [hnothing]
    exact .unsettled _ rfl
  · have hmore : arguments ++ more ≠ [] := by simp [hnothing]
    rw [ofArguments, ofArguments, if_neg hnothing, if_neg hmore]
    exact settles_readOptions {} arguments more rfl

/-- The files of a request all are source files. -/
theorem isSourceName_of_ofArguments {arguments : List String} {configuration : Configuration}
    (h : ofArguments arguments = .ok configuration) (haction : configuration.action = .compile) :
    ∀ file ∈ configuration.files, isSourceName file = true := by
  rcases exists_shape_of_ofArguments h with ⟨request, -, rfl⟩ | ⟨inquiry, -, rfl⟩
  · exact request.sources_named
  · exact absurd haction inquiry.action_ne_compile

/-- A fault of an argument stays the fault when arguments are added, and a question
stays answered. A request takes further arguments as files if and only if
all of them name source files, and otherwise the first one that does not is the
fault. -/
theorem ofArguments_append (arguments more : List String) :
    (∀ fault, ofArguments arguments = .error fault → fault.isSettled = true →
      ofArguments (arguments ++ more) = .error fault) ∧
    (∀ configuration, ofArguments arguments = .ok configuration →
      configuration.action ≠ .compile →
      ofArguments (arguments ++ more) = .ok configuration) ∧
    ∀ configuration, ofArguments arguments = .ok configuration →
      configuration.action = .compile →
      (ofArguments (arguments ++ more) =
          .ok { configuration with files := configuration.files ++ more } ↔
        ∀ argument ∈ more, isSourceName argument = true) ∧
      ∀ named argument behind, more = named ++ argument :: behind →
        (∀ other ∈ named, isSourceName other = true) → isSourceName argument = false →
        ofArguments (arguments ++ more) =
          .error
            (if isOption argument then .optionAfterFiles argument
              else .wrongExtension argument) := by
  have hsettles := settles_ofArguments arguments more
  generalize ofArguments (arguments ++ more) = verdict at hsettles ⊢
  refine ⟨fun fault hfault hsettled => ?_, fun configuration hread haction => ?_,
    fun configuration hread haction => ?_⟩
  · rw [hfault] at hsettles
    cases hsettles with
    | unsettled verdict hopen => simp [hsettled] at hopen
    | fault => rfl
  · rw [hread] at hsettles
    cases hsettles with
    | inquiry => rfl
    | request hcompile => exact absurd hcompile haction
  · have hfiles := isSourceName_of_ofArguments hread haction
    have hmore : verdict = configuration.withFiles (configuration.files ++ more) := by
      rw [hread] at hsettles
      cases hsettles with
      | inquiry hinquiry => exact absurd haction hinquiry
      | request => rfl
    rw [hmore]
    refine ⟨?_, ?_⟩
    · rw [withFiles_eq_ok_iff, and_iff_left rfl, List.forall_mem_append, and_iff_right hfiles]
    · rintro named argument behind rfl hnamed hargument
      rw [← List.append_assoc]
      exact withFiles_of_first (List.forall_mem_append.mpr ⟨hfiles, hnamed⟩) hargument

/-- One argument passed on, and one file. -/
def passingRequest : Request where
  settings := []
  passed := ["-x"]
  sources := ["a.zep"]
  isSettings := isSettings_nil
  passed_not_source := by decide
  sources_ne_nil := by decide
  sources_named := by decide
  first_not_option := by decide

/-- Behind its file `-javac` does not look ahead any more: an option is not passed on. -/
theorem ofArguments_append_of_late_option :
    ofArguments ["-javac", "-x", "a.zep", "b.zep", "-time"] =
      .error (.optionAfterFiles "-time") :=
  ((ofArguments_append passingRequest.arguments ["b.zep", "-time"]).2.2
    _ passingRequest.ofArguments_eq rfl).2 ["b.zep"] "-time" [] rfl (by decide) (by decide)

end Configuration

end Transcompiler
