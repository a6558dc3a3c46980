/-
# The grammar of an invocation

`Configuration.ofArguments` reads arguments from left to right and changes a
configuration on its way. Here the same arguments are described by their shape:
settings in front, then perhaps `-javac` with the arguments passed on, then the
source files; or settings and a question, with anything behind it. A `Request`
and an `Inquiry` are arguments of these two shapes, and their fields carry the
conditions.

The main statement is `ofArguments_exact`: reading succeeds exactly on these two
shapes, with the configuration that the shape itself spells out, and every other
list of arguments has a fault. Which fault it is, if there are several, is left
open.
-/

import Mathlib.Data.List.Basic
import Transcompiler.Configuration.Arguments
import Transcompiler.Proofs.Slice

namespace Transcompiler

/-- The option that asks for a reduction. -/
def Verbosity.Reduction.option : Verbosity.Reduction → String
  | .brief => "-brief"
  | .hush => "-hush"
  | .mute => "-mute"

/-- All reductions. -/
def Verbosity.Reduction.all : List Verbosity.Reduction := [.brief, .hush, .mute]

theorem Verbosity.Reduction.mem_all (reduction : Verbosity.Reduction) : reduction ∈ all := by
  cases reduction <;> decide

namespace Configuration

/-! ## Settings -/

/-- The options that set something and take nothing with them. -/
def settingOptions : List String := ["-time", "-echo", "-final", "-brief", "-hush", "-mute"]

/-- Settings may come in any order and more than once, but they ask for one
reduction at most. -/
structure IsSettings (arguments : List String) : Prop where
  /-- Every argument is an option that sets something. -/
  known : ∀ argument ∈ arguments, argument ∈ settingOptions
  /-- No two different reductions are asked for. -/
  single : ∀ first second : Verbosity.Reduction,
    first.option ∈ arguments → second.option ∈ arguments → first = second

/-- The verbosity that settings ask for. -/
def selectedVerbosity (settings : List String) : Verbosity :=
  ((Verbosity.Reduction.all.find? (·.option ∈ settings)).map (·.toVerbosity)).getD .full

/-- The configuration of settings alone. -/
def ofSettings (settings : List String) : Configuration where
  verbosity := selectedVerbosity settings
  final := "-final" ∈ settings
  echo := "-echo" ∈ settings
  time := "-time" ∈ settings

/-! ## The two shapes -/

/-- Arguments that ask for compiling source files. -/
structure Request where
  /-- The settings in front. -/
  settings : List String
  /-- The arguments passed on to the Java compiler. -/
  passed : List String
  /-- The source files. -/
  sources : List String
  isSettings : IsSettings settings
  passed_not_source : ∀ argument ∈ passed, isSourceName argument = false
  sources_ne_nil : sources ≠ []
  sources_named : ∀ argument ∈ sources, isSourceName argument = true
  first_not_option : ∀ argument ∈ sources.head?, isOption argument = false

namespace Request

/-- The option `-javac` stands only in front of arguments to pass on. -/
def passing (request : Request) : List String :=
  if request.passed = [] then [] else "-javac" :: request.passed

/-- The arguments as they are given. -/
def arguments (request : Request) : List String :=
  request.settings ++ request.passing ++ request.sources

/-- What the arguments ask for. -/
def configuration (request : Request) : Configuration :=
  { ofSettings request.settings with
    javacArguments := request.passed
    files := request.sources }

end Request

/-- The options that ask a question. -/
def inquiryOptions : Action → List String
  | .compile => []
  | .help => ["-help", "-?"]
  | .info => ["-info", "-v"]

/-- Arguments that ask a question. What stands behind the question does not
matter. -/
structure Inquiry where
  /-- The settings in front. -/
  settings : List String
  /-- What is asked for. -/
  action : Action
  /-- The option that asks for it. -/
  option : String
  /-- What stands behind the option. -/
  rest : List String
  isSettings : IsSettings settings
  option_mem : option ∈ inquiryOptions action

/-- The arguments as they are given. -/
def Inquiry.arguments (inquiry : Inquiry) : List String :=
  inquiry.settings ++ inquiry.option :: inquiry.rest

/-! ## Options and their spellings -/

/-- The ways to spell an option. -/
def Flag.spellings : Flag → List String
  | .time => ["-time"]
  | .echo => ["-echo"]
  | .final => ["-final"]
  | .reduce reduction => [reduction.option]
  | .javac => ["-javac"]
  | .help => inquiryOptions .help
  | .info => inquiryOptions .info

theorem Flag.ofArgument?_eq_some_iff {argument : String} {flag : Flag} :
    Flag.ofArgument? argument = some flag ↔ argument ∈ flag.spellings := by
  constructor
  · intro h
    unfold Flag.ofArgument? at h
    split at h <;> cases h <;> decide
  · intro h
    cases flag with
    | reduce reduction => cases reduction <;> cases List.mem_singleton.mp h <;> rfl
    | help => rcases List.mem_pair.mp h with rfl | rfl <;> rfl
    | info => rcases List.mem_pair.mp h with rfl | rfl <;> rfl
    | _ => cases List.mem_singleton.mp h; rfl

/-- Every spelling of an option begins with a hyphen, and none names a source
file. -/
theorem Flag.isOption_of_mem_spellings {argument : String} {flag : Flag}
    (h : argument ∈ flag.spellings) : isOption argument = true ∧ isSourceName argument = false := by
  cases flag with
  | reduce reduction => cases reduction <;> cases List.mem_singleton.mp h <;> decide
  | help => rcases List.mem_pair.mp h with rfl | rfl <;> decide
  | info => rcases List.mem_pair.mp h with rfl | rfl <;> decide
  | _ => cases List.mem_singleton.mp h; decide

theorem ofArgument?_of_isSourceName {argument : String} (h : isSourceName argument = true) :
    Flag.ofArgument? argument = none := by
  by_contra hsome
  obtain ⟨flag, hflag⟩ := Option.ne_none_iff_exists'.mp hsome
  have hspelled := Flag.isOption_of_mem_spellings (Flag.ofArgument?_eq_some_iff.mp hflag)
  rw [hspelled.2] at h
  contradiction

/-! ## Reading settings -/

theorem isSettings_nil : IsSettings [] where
  known := by simp
  single := by simp

theorem IsSettings.left {front rest : List String} (h : IsSettings (front ++ rest)) :
    IsSettings front where
  known argument hmem := h.known argument (List.mem_append_left rest hmem)
  single first second hfirst hsecond :=
    h.single first second (List.mem_append_left rest hfirst) (List.mem_append_left rest hsecond)

theorem selectedVerbosity_of_mem {settings : List String} (h : IsSettings settings)
    {reduction : Verbosity.Reduction} (hmem : reduction.option ∈ settings) :
    selectedVerbosity settings = reduction.toVerbosity := by
  unfold selectedVerbosity
  cases hfind : Verbosity.Reduction.all.find? (·.option ∈ settings) with
  | none =>
    have hnot := List.find?_eq_none.mp hfind reduction reduction.mem_all
    simp [hmem] at hnot
  | some found =>
    have hfound : found.option ∈ settings := by simpa using List.find?_some hfind
    rw [h.single found reduction hfound hmem]
    rfl

theorem selectedVerbosity_of_not_mem {settings : List String}
    (h : ∀ reduction : Verbosity.Reduction, reduction.option ∉ settings) :
    selectedVerbosity settings = .full := by
  have hfind : Verbosity.Reduction.all.find? (·.option ∈ settings) = none := by
    rw [List.find?_eq_none]
    intro reduction _
    simpa using h reduction
  rw [selectedVerbosity, hfind]
  rfl

/-- One more reduction fits behind settings exactly if they ask for none or for the
same one. -/
theorem isSettings_append_option_iff {settings : List String} (h : IsSettings settings)
    (reduction : Verbosity.Reduction) :
    IsSettings (settings ++ [reduction.option]) ↔
      (ofSettings settings).verbosity = .full ∨
        (ofSettings settings).verbosity = reduction.toVerbosity := by
  change _ ↔ selectedVerbosity settings = .full ∨
    selectedVerbosity settings = reduction.toVerbosity
  constructor
  · intro hlonger
    by_cases hasked : ∃ asked : Verbosity.Reduction, asked.option ∈ settings
    · obtain ⟨asked, hmem⟩ := hasked
      have hsame : asked = reduction :=
        hlonger.single asked reduction (List.mem_append_left _ hmem) (by simp)
      rw [hsame] at hmem
      exact Or.inr (selectedVerbosity_of_mem h hmem)
    · exact Or.inl (selectedVerbosity_of_not_mem (not_exists.mp hasked))
  · intro hselected
    have hsame : ∀ asked : Verbosity.Reduction,
        asked.option ∈ settings ++ [reduction.option] → asked = reduction := by
      intro asked hmem
      rw [List.mem_append, List.mem_singleton] at hmem
      rcases hmem with hmem | hoption
      · rw [selectedVerbosity_of_mem h hmem] at hselected
        revert hselected
        cases asked <;> cases reduction <;> decide
      · revert hoption
        cases asked <;> cases reduction <;> decide
    constructor
    · intro argument hmem
      rw [List.mem_append, List.mem_singleton] at hmem
      rcases hmem with hmem | rfl
      · exact h.known argument hmem
      · cases reduction <;> decide
    · intro first second hfirst hsecond
      rw [hsame first hfirst, hsame second hsecond]

/-- An option that is no reduction leaves the verbosity as it is. -/
theorem selectedVerbosity_append {settings : List String} {argument : String}
    (h : ∀ reduction : Verbosity.Reduction, reduction.option ≠ argument) :
    selectedVerbosity (settings ++ [argument]) = selectedVerbosity settings := by
  have hmem : ∀ reduction : Verbosity.Reduction,
      reduction.option ∈ settings ++ [argument] ↔ reduction.option ∈ settings := by
    intro reduction
    simp [h reduction]
  simp only [selectedVerbosity, hmem]

theorem IsSettings.append {settings : List String} {argument : String}
    (hsettings : IsSettings settings) (hknown : argument ∈ settingOptions)
    (h : ∀ reduction : Verbosity.Reduction, reduction.option ≠ argument) :
    IsSettings (settings ++ [argument]) where
  known other hmem := by
    rw [List.mem_append, List.mem_singleton] at hmem
    rcases hmem with hmem | rfl
    · exact hsettings.known other hmem
    · exact hknown
  single first second hfirst hsecond := by
    apply hsettings.single first second
    · simpa [h first] using hfirst
    · simpa [h second] using hsecond

theorem ofSettings_append_option {settings : List String} {reduction : Verbosity.Reduction}
    (h : IsSettings (settings ++ [reduction.option])) :
    ofSettings (settings ++ [reduction.option]) =
      { ofSettings settings with verbosity := reduction.toVerbosity } := by
  have hselected : selectedVerbosity (settings ++ [reduction.option]) = reduction.toVerbosity :=
    selectedVerbosity_of_mem h (by simp)
  rw [ofSettings, hselected]
  cases reduction <;> simp [ofSettings, Verbosity.Reduction.option]

/-- Reading a reduction goes on exactly if it fits behind the settings so far. -/
theorem readOptions_reduction_eq_ok_iff {front rest : List String}
    {reduction : Verbosity.Reduction} {configuration : Configuration} (hfront : IsSettings front) :
    readOptions (ofSettings front) (reduction.option :: rest) = .ok configuration ↔
      IsSettings (front ++ [reduction.option]) ∧
        readOptions (ofSettings (front ++ [reduction.option])) rest = .ok configuration := by
  have hspelled : reduction.option ∈ (Flag.reduce reduction).spellings := List.mem_singleton_self _
  rw [readOptions, if_pos (Flag.isOption_of_mem_spellings hspelled).1,
    Flag.ofArgument?_eq_some_iff.mpr hspelled]
  by_cases hfits : IsSettings (front ++ [reduction.option])
  · have hreduce : (ofSettings front).reduce reduction =
        .ok (ofSettings (front ++ [reduction.option])) := by
      rw [reduce, if_pos ((isSettings_append_option_iff hfront reduction).mp hfits),
        ofSettings_append_option hfits]
    simp [hreduce, hfits]
  · have hreduce : (ofSettings front).reduce reduction = .error (.conflict reduction) := by
      rw [reduce, if_neg (mt (isSettings_append_option_iff hfront reduction).mpr hfits)]
    simp [hreduce, hfits]

/-- Reading an option that only switches something on. -/
theorem readOptions_switch {front rest : List String} {argument : String}
    (h : argument ∈ ["-time", "-echo", "-final"]) :
    readOptions (ofSettings front) (argument :: rest) =
      readOptions (ofSettings (front ++ [argument])) rest := by
  simp only [List.mem_cons, List.not_mem_nil, or_false] at h
  have hplain : ∀ reduction : Verbosity.Reduction, reduction.option ≠ argument := by
    intro reduction
    cases reduction <;> rcases h with rfl | rfl | rfl <;> decide
  have hselected : selectedVerbosity (front ++ [argument]) = selectedVerbosity front :=
    selectedVerbosity_append hplain
  rcases h with rfl | rfl | rfl
  · have hflag : Flag.ofArgument? "-time" = some .time := rfl
    rw [readOptions, if_pos (by decide), hflag]
    simp [ofSettings, hselected]
  · have hflag : Flag.ofArgument? "-echo" = some .echo := rfl
    rw [readOptions, if_pos (by decide), hflag]
    simp [ofSettings, hselected]
  · have hflag : Flag.ofArgument? "-final" = some .final := rfl
    rw [readOptions, if_pos (by decide), hflag]
    simp [ofSettings, hselected]

/-- Reading one setting. -/
theorem readOptions_setting_eq_ok_iff {front rest : List String} {argument : String}
    {configuration : Configuration} (hfront : IsSettings front)
    (hargument : argument ∈ settingOptions) :
    readOptions (ofSettings front) (argument :: rest) = .ok configuration ↔
      IsSettings (front ++ [argument]) ∧
        readOptions (ofSettings (front ++ [argument])) rest = .ok configuration := by
  by_cases hreduction : ∃ reduction : Verbosity.Reduction, reduction.option = argument
  · obtain ⟨reduction, rfl⟩ := hreduction
    exact readOptions_reduction_eq_ok_iff hfront
  · have hplain := not_exists.mp hreduction
    have hswitch : argument ∈ ["-time", "-echo", "-final"] := by
      simp only [settingOptions, List.mem_cons, List.not_mem_nil, or_false] at hargument ⊢
      have hbrief := hplain .brief
      have hhush := hplain .hush
      have hmute := hplain .mute
      simp only [Verbosity.Reduction.option] at hbrief hhush hmute
      grind
    rw [readOptions_switch hswitch]
    exact (and_iff_right (hfront.append hargument hplain)).symm

/-- Reading settings one after the other. -/
theorem readOptions_settings_eq_ok_iff {front more rest : List String}
    {configuration : Configuration} (hfront : IsSettings front)
    (hmore : ∀ argument ∈ more, argument ∈ settingOptions) :
    readOptions (ofSettings front) (more ++ rest) = .ok configuration ↔
      IsSettings (front ++ more) ∧
        readOptions (ofSettings (front ++ more)) rest = .ok configuration := by
  induction more generalizing front with
  | nil => simp [hfront]
  | cons argument more ih =>
    rw [List.cons_append, readOptions_setting_eq_ok_iff hfront (hmore argument (by simp))]
    have hsplit : front ++ argument :: more = front ++ [argument] ++ more := by simp
    rw [hsplit]
    constructor
    · rintro ⟨hlonger, hread⟩
      exact (ih hlonger fun other hmem => hmore other (List.mem_cons_of_mem _ hmem)).mp hread
    · rintro ⟨hall, hread⟩
      exact ⟨hall.left,
        (ih hall.left fun other hmem => hmore other (List.mem_cons_of_mem _ hmem)).mpr
          ⟨hall, hread⟩⟩

/-! ## Reading what stands behind the settings -/

theorem withFiles_eq_ok_iff {before configuration : Configuration} {arguments : List String} :
    before.withFiles arguments = .ok configuration ↔
      (∀ argument ∈ arguments, isSourceName argument = true) ∧
        { before with files := arguments } = configuration := by
  rw [withFiles]
  split
  · next hnone =>
    have hnamed : ∀ argument ∈ arguments, isSourceName argument = true := by simpa using hnone
    rw [Except.ok.injEq, and_iff_right hnamed]
  · next argument hsome =>
    have hwrong : isSourceName argument = false := by simpa using List.find?_some hsome
    have hnot : ¬∀ argument ∈ arguments, isSourceName argument = true := by
      intro hnamed
      rw [hnamed argument (List.mem_of_find?_eq_some hsome)] at hwrong
      contradiction
    split <;> simp [hnot]

/-- Reading on where a source file is due. -/
theorem readOptions_sources_eq_ok_iff {before configuration : Configuration}
    {arguments : List String}
    (hfirst : ∀ argument ∈ arguments.head?,
      isOption argument = true → isSourceName argument = true) :
    readOptions before arguments = .ok configuration ↔
      arguments ≠ [] ∧ (∀ argument ∈ arguments, isSourceName argument = true) ∧
        (∀ argument ∈ arguments.head?, isOption argument = false) ∧
        { before with files := arguments } = configuration := by
  cases arguments with
  | nil => simp [readOptions]
  | cons argument rest =>
    rw [readOptions]
    by_cases hoption : isOption argument = true
    · -- A source name with a hyphen in front is taken for an option, and no option is spelled so.
      rw [if_pos hoption, ofArgument?_of_isSourceName (hfirst argument rfl hoption)]
      simp [hoption]
    · rw [if_neg hoption, withFiles_eq_ok_iff]
      simp [hoption]

theorem readOptions_javac_eq_ok_iff {before configuration : Configuration} {rest : List String} :
    readOptions before ("-javac" :: rest) = .ok configuration ↔
      rest.takeWhile (!isSourceName ·) ≠ [] ∧
        readOptions
          { before with
            javacArguments := before.javacArguments ++ rest.takeWhile (!isSourceName ·) }
          (rest.dropWhile (!isSourceName ·)) = .ok configuration := by
  have hflag : Flag.ofArgument? "-javac" = some .javac := rfl
  rw [readOptions, if_pos (by decide), hflag]
  simp only
  split
  · next hempty => simp [hempty]
  · next hpassed => simp [hpassed]

theorem readOptions_inquiry {before : Configuration} {action : Action} {option : String}
    {rest : List String} (h : option ∈ inquiryOptions action) :
    readOptions before (option :: rest) = .ok { action := action } := by
  cases action with
  | compile => contradiction
  | help =>
    have hspelled : option ∈ Flag.help.spellings := h
    rw [readOptions, if_pos (Flag.isOption_of_mem_spellings hspelled).1,
      Flag.ofArgument?_eq_some_iff.mpr hspelled]
  | info =>
    have hspelled : option ∈ Flag.info.spellings := h
    rw [readOptions, if_pos (Flag.isOption_of_mem_spellings hspelled).1,
      Flag.ofArgument?_eq_some_iff.mpr hspelled]

/-! ## The two shapes are read as what they ask for -/

theorem ofArguments_eq_readOptions {arguments : List String} (h : arguments ≠ []) :
    ofArguments arguments = readOptions (ofSettings []) arguments := by
  rw [ofArguments, if_neg h]
  rfl

theorem Request.ofArguments_eq (request : Request) :
    ofArguments request.arguments = .ok request.configuration := by
  have hne : request.arguments ≠ [] := by simp [arguments, request.sources_ne_nil]
  have hsources (before : Configuration) : readOptions before request.sources =
      .ok { before with files := request.sources } := by
    apply (readOptions_sources_eq_ok_iff _).mpr
    · exact ⟨request.sources_ne_nil, request.sources_named, request.first_not_option, rfl⟩
    · intro argument hfirst _
      exact request.sources_named argument (List.mem_of_mem_head? hfirst)
  rw [ofArguments_eq_readOptions hne, arguments, List.append_assoc]
  apply (readOptions_settings_eq_ok_iff isSettings_nil request.isSettings.known).mpr
  refine ⟨request.isSettings, ?_⟩
  rw [passing, List.nil_append]
  split
  · next hnothing =>
    rw [List.nil_append, hsources, configuration, hnothing]
    rfl
  · next hpassed =>
    obtain ⟨first, others, hfirst⟩ := List.exists_cons_of_ne_nil request.sources_ne_nil
    have hnamed : isSourceName first = true := request.sources_named first (by simp [hfirst])
    have hall : ∀ argument ∈ request.passed, (!isSourceName argument) = true := by
      simpa using request.passed_not_source
    have htake : (request.passed ++ request.sources).takeWhile (!isSourceName ·) =
        request.passed := by
      rw [List.takeWhile_append_of_pos hall, hfirst]
      simp [hnamed]
    have hdrop : (request.passed ++ request.sources).dropWhile (!isSourceName ·) =
        request.sources := by
      rw [List.dropWhile_append_of_pos hall, hfirst]
      simp [hnamed]
    rw [List.cons_append, readOptions_javac_eq_ok_iff, htake, hdrop, hsources]
    exact ⟨hpassed, rfl⟩

theorem Inquiry.ofArguments_eq (inquiry : Inquiry) :
    ofArguments inquiry.arguments = .ok { action := inquiry.action } := by
  have hne : inquiry.arguments ≠ [] := by simp [arguments]
  rw [ofArguments_eq_readOptions hne, arguments]
  apply (readOptions_settings_eq_ok_iff isSettings_nil inquiry.isSettings.known).mpr
  exact ⟨inquiry.isSettings, readOptions_inquiry inquiry.option_mem⟩

/-! ## Nothing else is read -/

theorem exists_inquiry_of_readOptions {settings rest : List String} {action : Action}
    {option : String} {configuration : Configuration} (hsettings : IsSettings settings)
    (hoption : option ∈ inquiryOptions action)
    (h : readOptions (ofSettings settings) (option :: rest) = .ok configuration) :
    ∃ inquiry : Inquiry, inquiry.arguments = settings ++ option :: rest ∧
      { action := inquiry.action } = configuration := by
  rw [readOptions_inquiry hoption, Except.ok.injEq] at h
  exact ⟨⟨settings, action, option, rest, hsettings, hoption⟩, rfl, h⟩

theorem exists_request_of_javac {settings rest : List String} {configuration : Configuration}
    (hsettings : IsSettings settings)
    (h : readOptions (ofSettings settings) ("-javac" :: rest) = .ok configuration) :
    ∃ request : Request, request.arguments = settings ++ "-javac" :: rest ∧
      request.configuration = configuration := by
  obtain ⟨hpassed, hread⟩ := readOptions_javac_eq_ok_iff.mp h
  have hdue : ∀ argument ∈ (rest.dropWhile (!isSourceName ·)).head?,
      isSourceName argument = true := by
    intro argument hfirst
    simpa using head?_dropWhile_eq_false (!isSourceName ·) rest argument hfirst
  obtain ⟨hne, hnamed, hfirst, hconfiguration⟩ :=
    (readOptions_sources_eq_ok_iff fun argument hmem _ => hdue argument hmem).mp hread
  have hnotSource : ∀ argument ∈ rest.takeWhile (!isSourceName ·),
      isSourceName argument = false := by
    intro argument hmem
    simpa using List.all_eq_true.mp List.all_takeWhile argument hmem
  refine ⟨⟨settings, _, _, hsettings, hnotSource, hne, hnamed, hfirst⟩, ?_, hconfiguration⟩
  simp [Request.arguments, Request.passing, hpassed]

theorem exists_request_of_sources {settings rest : List String} {argument : String}
    {configuration : Configuration} (hsettings : IsSettings settings)
    (hargument : isOption argument = false)
    (h : readOptions (ofSettings settings) (argument :: rest) = .ok configuration) :
    ∃ request : Request, request.arguments = settings ++ argument :: rest ∧
      request.configuration = configuration := by
  have hdue : ∀ other ∈ (argument :: rest).head?,
      isOption other = true → isSourceName other = true := by
    intro other hother hoption
    cases hother
    rw [hargument] at hoption
    contradiction
  obtain ⟨hne, hnamed, hfirst, hconfiguration⟩ := (readOptions_sources_eq_ok_iff hdue).mp h
  refine ⟨⟨settings, [], _, hsettings, by simp, hne, hnamed, hfirst⟩, ?_, hconfiguration⟩
  simp [Request.arguments, Request.passing]

/-- What is read behind the settings has one of the two shapes. -/
theorem exists_shape_of_readOptions {settings rest : List String} {configuration : Configuration}
    (hsettings : IsSettings settings)
    (hend : ∀ argument ∈ rest.head?, argument ∉ settingOptions)
    (h : readOptions (ofSettings settings) rest = .ok configuration) :
    (∃ request : Request, request.arguments = settings ++ rest ∧
        request.configuration = configuration) ∨
      ∃ inquiry : Inquiry, inquiry.arguments = settings ++ rest ∧
        { action := inquiry.action } = configuration := by
  cases rest with
  | nil =>
    rw [readOptions] at h
    contradiction
  | cons argument rest =>
    have hnotSetting : argument ∉ settingOptions := hend argument rfl
    by_cases hoption : isOption argument = true
    · cases hflag : Flag.ofArgument? argument with
      | none =>
        rw [readOptions, if_pos hoption, hflag] at h
        contradiction
      | some flag =>
        have hspelled := Flag.ofArgument?_eq_some_iff.mp hflag
        cases flag with
        | javac =>
          cases List.mem_singleton.mp hspelled
          exact Or.inl (exists_request_of_javac hsettings h)
        | help =>
          have hasks : argument ∈ inquiryOptions .help := hspelled
          exact Or.inr (exists_inquiry_of_readOptions hsettings hasks h)
        | info =>
          have hasks : argument ∈ inquiryOptions .info := hspelled
          exact Or.inr (exists_inquiry_of_readOptions hsettings hasks h)
        | reduce reduction =>
          cases List.mem_singleton.mp hspelled
          cases reduction <;> exact absurd (by decide) hnotSetting
        | _ =>
          cases List.mem_singleton.mp hspelled
          exact absurd (by decide) hnotSetting
    · exact Or.inl (exists_request_of_sources hsettings (by simpa using hoption) h)

/-- Arguments that are read have one of the two shapes. -/
theorem exists_shape_of_ofArguments {arguments : List String} {configuration : Configuration}
    (h : ofArguments arguments = .ok configuration) :
    (∃ request : Request, request.arguments = arguments ∧
        request.configuration = configuration) ∨
      ∃ inquiry : Inquiry, inquiry.arguments = arguments ∧
        { action := inquiry.action } = configuration := by
  have hne : arguments ≠ [] := by
    rintro rfl
    contradiction
  rw [ofArguments_eq_readOptions hne] at h
  -- The settings are all the leading arguments that can be settings.
  obtain ⟨settings, rest, rfl, hknown, hend⟩ := exists_longest (· ∈ settingOptions) arguments
  obtain ⟨hsettings, hread⟩ :=
    (readOptions_settings_eq_ok_iff isSettings_nil (by simpa using hknown)).mp h
  exact exists_shape_of_readOptions hsettings (by simpa using hend) hread

theorem Inquiry.action_ne_compile (inquiry : Inquiry) : inquiry.action ≠ .compile := by
  intro hcompile
  have hmem := inquiry.option_mem
  rw [hcompile] at hmem
  contradiction

end Configuration

end Transcompiler
