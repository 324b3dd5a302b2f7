import SnakePosix.Foundation.GuardedRuns
import SnakePosix.Libargs.ArgParser
import SnakePosix.OptionTables

/-! The server reads its command line through the hash map as it would with a plain list
of options and their names: no argument vector makes a lookup fail that should succeed,
or one that does not return. -/
namespace SnakePosix.HashedOptions
open OptionTables GuardedRuns

/-! ## Computations that agree -/

/-- Both come to related results, or the process exits alike, where the code knows its
message. -/
inductive Agrees (related : α → β → Prop) : Except Libargs.ArgsStop α → Except ArgsExit β → Prop where
  | ok (same : related result plain) : Agrees related (.ok result) (.ok plain)
  | exit : Agrees related (.error (.exit stop)) (.error stop)
  | exitFreed (name : CString) :
    Agrees related (.error (.exitFreed before after)) (exitWithError (before ++ name ++ after))

section
variable {α β γ δ : Type} {related : α → β → Prop} {last : γ → δ → Prop}

theorem agrees_bind {hashed : Except Libargs.ArgsStop α} {plain : Except ArgsExit β} {next : α → Except Libargs.ArgsStop γ}
    {follow : β → Except ArgsExit δ} (first : Agrees related hashed plain)
    (later : ∀ result other, related result other → Agrees last (next result) (follow other)) :
    Agrees last (hashed >>= next) (plain >>= follow) := by
  cases first with
  | ok same => exact later _ _ same
  | exit => exact .exit
  | exitFreed name => exact .exitFreed name

end

/-! ## The two parsers -/

/-- The options stand in the vector in their order, and the map leads from each name to
its option. -/
structure Models (hashed : Libargs.ArgParser) (parser : ArgParser) : Prop where
  options : parser.options.map Prod.snd = hashed.optionVec
  names : ∃ dictionary, Stands hashed.optionMap dictionary ∧ ∀ name index,
    dictionary name = some index ↔ ∃ entry, parser.options[index]? = some entry ∧ name ∈ entry.1
  positionalArgs : hashed.positionalArgs = parser.positionalArgs
  helptext : hashed.helptext = parser.helptext
  version : hashed.version = parser.version

variable {hashed : Libargs.ArgParser} {parser : ArgParser} {name : CString}

/-- What a lookup finds: no option, or one that both parsers can be changed at. -/
inductive Finds (hashed : Libargs.ArgParser) (parser : ArgParser) (name : CString) : Prop where
  | absent (none_hashed : hashed.find name = .ok none) (none_plain : parser.find? name = none)
  | found (pointer : hashed.find name = .ok (some index)) (option_plain : parser.find? name = some option)
      (option_hashed : hashed.deref index = .ok option)
      (change : ∀ after, Models { hashed with optionVec := hashed.optionVec.set index after } (parser.update name after))

section
variable {entry : List CString × ArgOption} {index : Nat} (here : parser.options[index]? = some entry)
  (named : name ∈ entry.1)
  (only : ∀ (other : Nat) second, parser.options[other]? = some second → name ∈ second.1 → other = index)
include here named only

/-- The only option of a name is the one that is found. -/
theorem find_only : parser.find? name = some entry.2 := by
  have found : parser.options.find? (name ∈ ·.1) = some entry := by
    obtain ⟨inside, same⟩ := List.getElem?_eq_some_iff.mp here
    apply List.find?_eq_some_iff_getElem.mpr
    refine ⟨decide_eq_true named, index, inside, same, fun earlier before => ?_⟩
    rw [Bool.not_eq_true']
    apply decide_eq_false
    intro also
    have equal := only earlier _ (List.getElem?_eq_getElem (Nat.lt_trans before inside)) also
    omega
  rw [ArgParser.find?, found]
  rfl

/-- It is also the only one that is changed. -/
theorem update_only (after : ArgOption) :
    (parser.update name after).options.map Prod.snd = (parser.options.map Prod.snd).set index after := by
  apply List.ext_getElem?
  intro other
  rw [ArgParser.update, List.map_map, List.getElem?_map, List.getElem?_set, List.length_map, List.getElem?_map]
  by_cases same : index = other
  · subst same
    rw [if_pos rfl, if_pos (List.getElem?_eq_some_iff.mp here).1, here]
    simp [named]
  · rw [if_neg same]
    cases there : parser.options[other]? with
    | none => rfl
    | some second =>
      have unnamed : name ∉ second.1 := fun also => same (only other second there also).symm
      simp [unnamed]

end

/-- The names stay where they are. -/
theorem update_names (after : ArgOption) (word : CString) (index : Nat) :
    (∃ entry, (parser.update name after).options[index]? = some entry ∧ word ∈ entry.1) ↔
      ∃ entry, parser.options[index]? = some entry ∧ word ∈ entry.1 := by
  rw [ArgParser.update, List.getElem?_map]
  cases parser.options[index]? with
  | none => simp
  | some second =>
    by_cases renamed : name ∈ second.1
    · simp [renamed]
    · simp [renamed]

theorem find_models (models : Models hashed parser) (name : CString) : Finds hashed parser name := by
  obtain ⟨dictionary, stands, holds⟩ := models.names
  have looked : hashed.find name = .ok (dictionary name) := by
    rw [Libargs.ArgParser.find, get_stands stands]
  cases known : dictionary name with
  | none =>
    apply Finds.absent (known ▸ looked)
    have unnamed : ∀ entry ∈ parser.options, name ∉ entry.1 := by
      intro entry member named
      obtain ⟨index, here⟩ := List.mem_iff_getElem?.mp member
      rw [(holds name index).mpr ⟨entry, here, named⟩] at known
      cases known
    rw [ArgParser.find?, List.find?_eq_none.mpr fun entry member => by simpa using unnamed entry member]
    rfl
  | some index =>
    obtain ⟨entry, here, named⟩ := (holds name index).mp known
    have only : ∀ (other : Nat) second, parser.options[other]? = some second → name ∈ second.1 → other = index := by
      intro other second there also
      have twice := (holds name other).mpr ⟨second, there, also⟩
      exact (Option.some.inj (known.symm.trans twice)).symm
    have followed : hashed.deref index = .ok entry.2 := by
      rw [Libargs.ArgParser.deref, ← models.options, List.getElem?_map, here]
      rfl
    refine .found (known ▸ looked) (find_only here named only) followed fun after => ?_
    exact { models with
      options := by rw [update_only here named only, models.options]
      names := ⟨dictionary, stands, fun word other => (holds word other).trans (update_names after word other).symm⟩ }

/-! ## Parsing -/

/-- A value for an option is set at both parsers, or refused by both. -/
theorem trySet_agrees {γ δ : Type} {last : γ → δ → Prop} {index : Nat} {option : ArgOption}
    {next : Libargs.ArgParser → Except Libargs.ArgsStop γ} {follow : ArgOption → Except ArgsExit δ}
    (option_hashed : hashed.deref index = .ok option) (arg : CString)
    (later : ∀ after, Agrees last (next { hashed with optionVec := hashed.optionVec.set index after }) (follow after)) :
    Agrees last (hashed.trySet index arg >>= next) (optionTrySet option arg >>= follow) := by
  unfold Libargs.ArgParser.trySet
  rw [option_hashed]
  change Agrees last (((optionTrySet option arg).mapError .exit >>= fun after => .ok _) >>= next) _
  cases optionTrySet option arg with
  | error => exact .exit
  | ok after => exact later after

/-- The parser and what it has left of the arguments. -/
def ModelsWith (hashed : Libargs.ArgParser × List CString) (plain : ArgParser × List CString) : Prop :=
  Models hashed.1 plain.1 ∧ hashed.2 = plain.2

theorem handleEqualsOpt_agrees (models : Models hashed parser) (dashes arg : CString) :
    Agrees Models (Libargs.apHandleEqualsOpt hashed dashes arg) (apHandleEqualsOpt parser dashes arg) := by
  unfold Libargs.apHandleEqualsOpt apHandleEqualsOpt
  cases find_models models (arg.takeWhile (· ≠ '=')) with
  | absent none_hashed none_plain =>
    simp only [none_hashed, none_plain]
    exact .exitFreed _
  | found pointer option_plain option_hashed change =>
    simp only [pointer, option_plain]
    change Agrees Models (if _ then _ else _) (if _ then _ else _)
    split
    · rw [← List.append_nil ("missing argument for ".toList ++ dashes ++ _)]
      exact .exitFreed _
    · rw [← bind_pure (Libargs.ArgParser.trySet hashed _ _)]
      exact trySet_agrees option_hashed _ fun after => .ok (change after)

theorem handleLongOpt_agrees (models : Models hashed parser) (arg : CString) (stream : List CString) :
    Agrees ModelsWith (Libargs.apHandleLongOpt hashed arg stream) (apHandleLongOpt parser arg stream) := by
  unfold Libargs.apHandleLongOpt apHandleLongOpt
  cases find_models models arg with
  | absent none_hashed none_plain =>
    simp only [none_hashed, none_plain, models.helptext, models.version]
    change Agrees ModelsWith (if _ then _ else if _ then _ else _) (if _ then _ else if _ then _ else _)
    split
    · exact .exit
    · split <;> exact .exit
  | found pointer option_plain option_hashed change =>
    simp only [pointer, option_plain]
    cases stream with
    | nil => exact .exit
    | cons next stream => exact trySet_agrees option_hashed next fun after => .ok ⟨change after, rfl⟩

theorem handleShortOpt_agrees (arg : CString) (letters : CString) (models : Models hashed parser)
    (stream : List CString) :
    Agrees ModelsWith (Libargs.apHandleShortOpt arg letters hashed stream)
      (apHandleShortOpt arg letters parser stream) := by
  induction letters generalizing hashed parser stream with
  | nil => exact .ok ⟨models, rfl⟩
  | cons letter letters ih =>
    unfold Libargs.apHandleShortOpt apHandleShortOpt
    cases find_models models [letter] with
    | absent none_hashed none_plain =>
      simp only [none_hashed, none_plain, models.helptext, models.version]
      change Agrees ModelsWith (if _ then _ else if _ then _ else if _ then _ else _)
        (if _ then _ else if _ then _ else if _ then _ else _)
      split
      · exact .exit
      · split
        · exact .exit
        · split <;> exact .exit
    | found pointer option_plain option_hashed change =>
      simp only [pointer, option_plain]
      cases stream with
      | nil =>
        change Agrees ModelsWith (if _ then _ else _) (if _ then _ else _)
        split <;> exact .exit
      | cons next stream => exact trySet_agrees option_hashed next fun after => ih (change after) stream

theorem handleArg_agrees (models : Models hashed parser) (arg : CString) (stream : List CString) :
    Agrees ModelsWith (Libargs.apHandleArg hashed arg stream) (apHandleArg parser arg stream) := by
  have positional : ∀ args, Models { hashed with positionalArgs := hashed.positionalArgs ++ args }
      { parser with positionalArgs := parser.positionalArgs ++ args } := fun args =>
    { models with positionalArgs := by rw [models.positionalArgs] }
  have equals : ∀ dashes name, Agrees ModelsWith
      (Libargs.apHandleEqualsOpt hashed dashes name >>= fun hashed => .ok (hashed, stream))
      (apHandleEqualsOpt parser dashes name >>= fun parser => .ok (parser, stream)) := fun dashes name =>
    agrees_bind (handleEqualsOpt_agrees models dashes name) fun _ _ same => .ok ⟨same, rfl⟩
  unfold Libargs.apHandleArg
  split
  case h_1 => exact .ok ⟨positional stream, rfl⟩
  case h_2 name long =>
    rw [apHandleArg.eq_2 _ _ _ long]
    split
    · exact equals _ name
    · exact handleLongOpt_agrees models name stream
  case h_3 name short long =>
    rw [apHandleArg.eq_3 _ _ _ short long]
    split
    · exact .ok ⟨positional _, rfl⟩
    · split
      · exact equals _ name
      · exact handleShortOpt_agrees name name models stream
  case h_4 dashes long short =>
    rw [apHandleArg.eq_4 _ _ _ dashes long short]
    exact .ok ⟨positional _, rfl⟩

theorem parse_agrees (models : Models hashed parser) (argv : List CString) :
    Agrees Models (Libargs.apParse hashed argv) (apParse parser argv) := by
  unfold Libargs.apParse apParse
  generalize argv.tail.length = fuel
  generalize argv.tail = stream
  induction fuel generalizing hashed parser stream with
  | zero => exact .ok models
  | succ fuel ih =>
    cases stream with
    | nil => exact .ok models
    | cons arg stream =>
      apply agrees_bind (handleArg_agrees models arg stream)
      rintro ⟨hashed, rest⟩ ⟨parser, _⟩ ⟨same, rfl⟩
      exact ih same rest

/-! ## Values -/

theorem getOpt_agrees (models : Models hashed parser) (name : CString) :
    Agrees Eq (Libargs.apGetOpt hashed name) (apGetOpt parser name) := by
  unfold Libargs.apGetOpt apGetOpt
  cases find_models models name with
  | absent none_hashed none_plain =>
    rw [none_hashed, none_plain]
    exact .exit
  | found pointer option_plain option_hashed =>
    rw [pointer, option_plain]
    change Agrees Eq (hashed.deref _) _
    rw [option_hashed]
    exact .ok rfl

theorem found_agrees (models : Models hashed parser) (name : CString) :
    Agrees Eq (Libargs.apFound hashed name) (apFound parser name) := by
  apply agrees_bind (getOpt_agrees models name)
  rintro option _ rfl
  exact .ok rfl

theorem getStrValue_agrees (models : Models hashed parser) (name : CString) :
    Agrees Eq (Libargs.apGetStrValue hashed name) (apGetStrValue parser name) := by
  apply agrees_bind (getOpt_agrees models name)
  rintro option _ rfl
  cases option <;> exact .ok rfl

theorem getIntValue_agrees (models : Models hashed parser) (name : CString) :
    Agrees Eq (Libargs.apGetIntValue hashed name) (apGetIntValue parser name) := by
  apply agrees_bind (getOpt_agrees models name)
  rintro option _ rfl
  cases option <;> exact .ok rfl

theorem getStrCopy_agrees (models : Models hashed parser) (key : CString) :
    Agrees Eq (Libargs.argumentParserGetStrCopy hashed key) (argumentParserGetStrCopy parser key) := by
  apply agrees_bind (found_agrees models key)
  rintro found _ rfl
  cases found with
  | false => exact .ok rfl
  | true =>
    apply agrees_bind (getStrValue_agrees models key)
    rintro string _ rfl
    exact .ok rfl

/-! ## Registering options -/

theorem withKeys_eq (dictionary : CString → Option Nat) (keys : List CString) (value : Nat) (key : CString) :
    withKeys dictionary keys value key = if key ∈ keys then some value else dictionary key := by
  induction keys generalizing dictionary with
  | nil => simp [withKeys]
  | cons first rest ih =>
    rw [show withKeys dictionary (first :: rest) value =
      withKeys (Function.update dictionary first (some value)) rest value from rfl, ih]
    by_cases later : key ∈ rest
    · simp [later]
    · by_cases same : key = first
      · simp [same]
      · simp [later, same]

/-- Names that are new lead to the option behind the others. -/
theorem append_names {options : List (List CString × ArgOption)} {dictionary : CString → Option Nat} {words : List CString}
    (holds : ∀ name index, dictionary name = some index ↔ ∃ entry, options[index]? = some entry ∧ name ∈ entry.1)
    (fresh : ∀ word ∈ words, ∀ entry ∈ options, word ∉ entry.1) (option : ArgOption) (name : CString) (index : Nat) :
    withKeys dictionary words options.length name = some index ↔
      ∃ entry, (options ++ [(words, option)])[index]? = some entry ∧ name ∈ entry.1 := by
  rw [withKeys_eq]
  rcases Nat.lt_trichotomy index options.length with less | rfl | more
  · rw [List.getElem?_append_left less]
    split
    case isTrue member =>
      constructor
      · rintro ⟨⟩
        exact absurd less (Nat.lt_irrefl _)
      · rintro ⟨entry, there, named⟩
        exact absurd named (fresh name member entry (List.mem_of_getElem? there))
    case isFalse => exact holds name index
  · rw [List.getElem?_append_right (Nat.le_refl _), Nat.sub_self]
    split
    case isTrue member => simp [member]
    case isFalse absent =>
      constructor
      · intro known
        obtain ⟨entry, there, -⟩ := (holds name _).mp known
        rw [List.getElem?_eq_none (Nat.le_refl _)] at there
        cases there
      · rintro ⟨entry, ⟨⟩, named⟩
        exact absurd named absent
  · have outside : (options ++ [(words, option)])[index]? = none := by
      apply List.getElem?_eq_none
      simp only [List.length_append, List.length_singleton]
      omega
    rw [outside]
    split
    case isTrue =>
      constructor
      · rintro ⟨⟩
        exact absurd more (Nat.lt_irrefl _)
      · rintro ⟨_, ⟨⟩, _⟩
    case isFalse => rw [holds, List.getElem?_eq_none (Nat.le_of_lt more)]

/-- An option whose names are new comes behind the others. -/
theorem register_models (models : Models hashed parser) (name : CString) (option : ArgOption)
    (fresh : ∀ word ∈ wordsOf name, parser.find? word = none) :
    ∃ after, Libargs.apRegisterOption hashed name option = .ok after ∧ Models after (apRegisterOption parser name option) := by
  obtain ⟨dictionary, stands, holds⟩ := models.names
  obtain ⟨stored, map, reached, ran, after, -, all, failed⟩ :=
    setWords_stands stands hashed.optionVec.length (fun _ => ⟨true, true⟩) 0 name
  cases stored with
  | false =>
    rcases (failed rfl).2 with short | short <;> cases short
  | true =>
    have length : hashed.optionVec.length = parser.options.length := by
      rw [← models.options, List.length_map]
    have unnamed : ∀ word ∈ wordsOf name, ∀ entry ∈ parser.options, word ∉ entry.1 := by
      intro word member entry there named
      have found := fresh word member
      rw [ArgParser.find?, Option.map_eq_none_iff, List.find?_eq_none] at found
      exact found entry there (decide_eq_true named)
    rw [all rfl, List.take_length, length] at after
    refine ⟨{ hashed with optionVec := hashed.optionVec ++ [option], optionMap := map }, ?_, ?_⟩
    · simp [Libargs.apRegisterOption, Libargs.mapSetSplitkey, ran]
    · exact { models with
        options := by simp [apRegisterOption, models.options]
        names := ⟨_, after, append_names holds unnamed option⟩ }

theorem new_models : Models Libargs.apNewParser apNewParser where
  options := rfl
  names := by
    refine ⟨fun _ => none, new_stands, fun name index => ⟨fun known => ?_, ?_⟩⟩
    · cases known
    · rintro ⟨_, ⟨⟩, _⟩
  positionalArgs := rfl
  helptext := rfl
  version := rfl

/-- The names that the server registers are all different. -/
theorem serverArgParser_models :
    ∃ hashed, Libargs.serverArgParser = .ok hashed ∧ Models hashed serverArgParser := by
  have described : Models (Libargs.apSetHelptext Libargs.apNewParser "Hosts a snake game.".toList)
      (apSetHelptext apNewParser "Hosts a snake game.".toList) := { new_models with helptext := rfl }
  obtain ⟨_, one, first⟩ := register_models described "parent a".toList (.int [] settingNoParent) (by decide +kernel)
  obtain ⟨_, two, second⟩ := register_models first "name n".toList (.str [] []) (by decide +kernel)
  obtain ⟨_, three, third⟩ := register_models second "map m".toList (.str [] []) (by decide +kernel)
  obtain ⟨_, four, fourth⟩ := register_models third "width w".toList (.int [] 0) (by decide +kernel)
  obtain ⟨_, five, fifth⟩ := register_models fourth "height h".toList (.int [] 0) (by decide +kernel)
  obtain ⟨last, six, sixth⟩ := register_models fifth "port p".toList (.int [] 0) (by decide +kernel)
  exact ⟨last, bind_ok.mpr ⟨_, one, bind_ok.mpr ⟨_, two, bind_ok.mpr ⟨_, three, bind_ok.mpr ⟨_, four,
    bind_ok.mpr ⟨_, five, six⟩⟩⟩⟩⟩, sixth⟩

/-- Whatever the arguments are, the server that looks its options up in the hash map
takes the same settings from them, misses the same, or exits with the same code, as one
that has its options in a list. Its message is the same, too, up to a name that it reads
from freed memory. -/
theorem argumentParserParse_agrees (argv : List CString) :
    Agrees Eq (Libargs.argumentParserParse argv) (argumentParserParse argv) := by
  obtain ⟨hashed, built, models⟩ := serverArgParser_models
  unfold Libargs.argumentParserParse
  rw [built]
  apply agrees_bind (parse_agrees models argv)
  intro hashed parser same
  apply agrees_bind (found_agrees same _)
  rintro name _ rfl
  apply agrees_bind (found_agrees same _)
  rintro port _ rfl
  split
  · exact .ok rfl
  · apply agrees_bind (found_agrees same _)
    rintro map _ rfl
    apply agrees_bind (found_agrees same _)
    rintro width _ rfl
    apply agrees_bind (found_agrees same _)
    rintro height _ rfl
    split
    · exact .ok rfl
    · apply agrees_bind (getStrCopy_agrees same _)
      rintro roomName _ rfl
      apply agrees_bind (getStrCopy_agrees same _)
      rintro mapPath _ rfl
      apply agrees_bind (getIntValue_agrees same _)
      rintro width _ rfl
      apply agrees_bind (getIntValue_agrees same _)
      rintro height _ rfl
      apply agrees_bind (getIntValue_agrees same _)
      rintro parent _ rfl
      apply agrees_bind (getIntValue_agrees same _)
      rintro port _ rfl
      exact .ok rfl

end SnakePosix.HashedOptions
