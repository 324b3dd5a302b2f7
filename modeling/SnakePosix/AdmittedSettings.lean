import SnakePosix.Foundation.GuardedRuns
import SnakePosix.MapProofs
import SnakePosix.Server.ServerInit

/-! Which command lines lead to a map inside the arrays. A map file's dimensions
are checked by the loader; those of the options are not, so they have to be within
the limits as they are given. -/
namespace SnakePosix.AdmittedSettings
open MapProofs Torus GuardedRuns

variable {parser next : ArgParser} {environment : Environment} {settings : GameSettings}

/-! ## Integers the parser can return -/

/-- A value of `int`. -/
def InInt (value : Int) : Prop := intMin ≤ value ∧ value ≤ intMax

theorem tryStrToInt_inInt (read : tryStrToInt string = .ok value) : InInt value := by
  unfold tryStrToInt at read
  dsimp only at read
  split at read
  case isTrue => cases read
  case isFalse within =>
    split at read
    case isTrue => cases read
    case isFalse =>
      cases read
      simp only [not_or, not_lt] at within
      exact ⟨within.2.2, within.2.1⟩

def OptionInInt : ArgOption → Prop
  | .str .. => True
  | .int values fallback => InInt fallback ∧ ∀ value ∈ values, InInt value

/-- Every integer the parser holds is one of `int`. -/
def ParserInInt (parser : ArgParser) : Prop := ∀ entry ∈ parser.options, OptionInInt entry.2

theorem optionTrySet_inInt (before : OptionInInt option) (set : optionTrySet option arg = .ok after) :
    OptionInInt after := by
  cases option with
  | str values fallback =>
    cases set
    trivial
  | int values fallback =>
    obtain ⟨value, read, set⟩ := bind_ok.mp set
    cases set
    refine ⟨before.1, fun value' member => ?_⟩
    rcases List.mem_append.mp member with earlier | latest
    · exact before.2 value' earlier
    · rw [List.mem_singleton.mp latest]
      exact tryStrToInt_inInt read

theorem find_inInt (held : ParserInInt parser) (found : parser.find? name = some option) : OptionInInt option := by
  obtain ⟨entry, first, rfl⟩ := Option.map_eq_some_iff.mp found
  exact held entry (List.mem_of_find?_eq_some first)

theorem update_inInt (held : ParserInInt parser) (name : CString) (after : OptionInInt option) :
    ParserInInt (parser.update name option) := by
  intro entry member
  obtain ⟨entry', member', rfl⟩ := List.mem_map.mp member
  split
  · exact after
  · exact held entry' member'

/-- An option that is found and set. -/
theorem set_inInt (held : ParserInInt parser) (found : parser.find? name = some option)
    (set : optionTrySet option arg = .ok after) : ParserInInt (parser.update name after) :=
  update_inInt held name (optionTrySet_inInt (find_inInt held found) set)

theorem apHandleEqualsOpt_inInt (held : ParserInInt parser)
    (handled : apHandleEqualsOpt parser dashes arg = .ok next) : ParserInInt next := by
  unfold apHandleEqualsOpt at handled
  dsimp only at handled
  split at handled
  case h_1 => cases handled
  case h_2 option found =>
    split at handled
    case isTrue => cases handled
    case isFalse =>
      obtain ⟨after, set, handled⟩ := bind_ok.mp handled
      cases handled
      exact set_inInt held found set

/-- What a handler leaves: integers in range, and no longer stream. -/
structure Handled (parser : ArgParser) (stream : List CString) (next : ArgParser) (rest : List CString) : Prop where
  inInt : ParserInInt parser → ParserInInt next
  shorter : rest.length ≤ stream.length

theorem apHandleLongOpt_handled (handled : apHandleLongOpt parser arg stream = .ok (next, rest)) :
    Handled parser stream next rest := by
  unfold apHandleLongOpt at handled
  split at handled
  case h_1 option arg' stream' found =>
    obtain ⟨after, set, handled⟩ := bind_ok.mp handled
    cases handled
    exact ⟨fun held => set_inInt held found set, Nat.le_succ _⟩
  case h_2 => cases handled
  case h_3 =>
    split at handled
    case isTrue => cases handled
    case isFalse => split at handled <;> cases handled

theorem apHandleShortOpt_handled (letters : CString)
    (handled : apHandleShortOpt arg letters parser stream = .ok (next, rest)) :
    Handled parser stream next rest := by
  induction letters generalizing parser stream with
  | nil =>
    cases handled
    exact ⟨id, Nat.le_refl _⟩
  | cons letter letters ih =>
    unfold apHandleShortOpt at handled
    split at handled
    case h_1 option arg' stream' found =>
      obtain ⟨after, set, handled⟩ := bind_ok.mp handled
      have later := ih handled
      exact ⟨fun held => later.inInt (set_inInt held found set), Nat.le_succ_of_le later.shorter⟩
    case h_2 => split at handled <;> cases handled
    case h_3 =>
      split at handled
      case isTrue => cases handled
      case isFalse =>
        split at handled
        case isTrue => cases handled
        case isFalse => split at handled <;> cases handled

theorem apHandleArg_handled (handled : apHandleArg parser arg stream = .ok (next, rest)) :
    Handled parser stream next rest := by
  unfold apHandleArg at handled
  split at handled
  case h_1 =>
    cases handled
    exact ⟨id, Nat.zero_le _⟩
  case h_2 =>
    split at handled
    case isTrue =>
      obtain ⟨after, equals, handled⟩ := bind_ok.mp handled
      cases handled
      exact ⟨fun held => apHandleEqualsOpt_inInt held equals, Nat.le_refl _⟩
    case isFalse => exact apHandleLongOpt_handled handled
  case h_3 =>
    split at handled
    case isTrue =>
      cases handled
      exact ⟨id, Nat.le_refl _⟩
    case isFalse =>
      split at handled
      case isTrue =>
        obtain ⟨after, equals, handled⟩ := bind_ok.mp handled
        cases handled
        exact ⟨fun held => apHandleEqualsOpt_inInt held equals, Nat.le_refl _⟩
      case isFalse => exact apHandleShortOpt_handled _ handled
  case h_4 =>
    cases handled
    exact ⟨id, Nat.le_refl _⟩

/-- The fuel of the loop never runs out: any that is no less than the number of
arguments gives the same result. -/
theorem apParseStream_fuel (fuel extra : Nat) (enough : stream.length ≤ fuel) :
    apParseStream (fuel + extra) parser stream = apParseStream fuel parser stream := by
  induction fuel generalizing parser stream with
  | zero =>
    obtain rfl := List.length_eq_zero_iff.mp (Nat.le_zero.mp enough)
    cases extra <;> rfl
  | succ fuel ih =>
    cases stream with
    | nil => rw [Nat.add_right_comm]; rfl
    | cons arg stream =>
      rw [Nat.add_right_comm]
      unfold apParseStream
      cases handled : apHandleArg parser arg stream with
      | error exit => rfl
      | ok result =>
        obtain ⟨next, rest⟩ := result
        exact ih (Nat.le_trans (apHandleArg_handled handled).shorter (Nat.le_of_succ_le_succ enough))

theorem apParseStream_inInt (fuel : Nat) (held : ParserInInt parser)
    (parsed : apParseStream fuel parser stream = .ok next) : ParserInInt next := by
  induction fuel generalizing parser stream with
  | zero =>
    cases stream <;> cases parsed <;> exact held
  | succ fuel ih =>
    cases stream with
    | nil =>
      cases parsed
      exact held
    | cons arg stream =>
      obtain ⟨⟨middle, rest⟩, handled, parsed⟩ := bind_ok.mp parsed
      exact ih ((apHandleArg_handled handled).inInt held) parsed

theorem apGetIntValue_inInt (held : ParserInInt parser) (read : apGetIntValue parser name = .ok value) :
    InInt value := by
  obtain ⟨option, found, read⟩ := bind_ok.mp read
  unfold apGetOpt at found
  split at found
  case h_2 => cases found
  case h_1 option' known =>
    cases found
    have options := find_inInt held known
    cases option with
    | str =>
      cases read
      exact ⟨by decide, by decide⟩
    | int values fallback =>
      cases read
      have last : values.getLastD fallback ∈ fallback :: values := List.getLastD_mem_cons
      rcases List.mem_cons.mp last with same | member
      · rw [same]
        exact options.1
      · exact options.2 _ member

/-! ## The size of the map -/

private theorem inGrid_inArrays {c : Coordinates} {width height : Nat} (widthBound : width ≤ maxMapWidth)
    (heightBound : height ≤ maxMapHeight) (inside : c.InGrid width height) : c.InArrays :=
  ⟨Nat.lt_of_lt_of_le inside.1 heightBound, Nat.lt_of_lt_of_le inside.2 widthBound⟩

/-- Within the limits every index of the loops is in the arrays. -/
theorem requireInArrays_within {width height : Nat} (widthBound : width ≤ maxMapWidth)
    (heightBound : height ≤ maxMapHeight) : requireInArrays (cells width height) = .ok () := by
  have none : (cells width height).find? (fun index => decide ¬ index.InArrays) = none := by
    refine List.find?_eq_none.mpr fun c member => ?_
    simpa using inGrid_inArrays widthBound heightBound (mem_cells.mp member)
  unfold requireInArrays
  rw [none]

theorem mapTemplateInit_size (self : MapTemplate) (width height : Nat) :
    (mapTemplateInit self width height).width = width ∧ (mapTemplateInit self width height).height = height := by
  unfold mapTemplateInit
  generalize cells width height = list
  generalize walls : ({ self with width, height } : MapTemplate) = template
  have size : template.width = width ∧ template.height = height := by
    rw [← walls]
    exact ⟨rfl, rfl⟩
  clear walls
  induction list generalizing template with
  | nil => exact size
  | cons c rest ih => exact ih _ size

theorem loadTiles_size (environment : Environment) (list : List Coordinates) (loaded : MapTemplate × CString) :
    (list.foldl (loadTile environment) loaded).1.width = loaded.1.width ∧
      (list.foldl (loadTile environment) loaded).1.height = loaded.1.height := by
  induction list generalizing loaded with
  | nil => exact ⟨rfl, rfl⟩
  | cons c rest ih =>
    have step : (loadTile environment loaded c).1.width = loaded.1.width ∧
        (loadTile environment loaded c).1.height = loaded.1.height := by
      unfold loadTile
      dsimp only
      split <;> exact ⟨rfl, rfl⟩
    obtain ⟨width, height⟩ := ih (loadTile environment loaded c)
    exact ⟨width.trans step.1, height.trans step.2⟩

/-- The limits of `constants.h`. -/
def InLimits (width height : Nat) : Prop :=
  minMapWidth ≤ width ∧ width ≤ maxMapWidth ∧ minMapHeight ≤ height ∧ height ≤ maxMapHeight

instance (width height : Nat) : Decidable (InLimits width height) := by
  unfold InLimits
  infer_instance

/-- A template from a file is within the limits. -/
theorem mapLoaderLoadTemplateFromFile_inLimits (environment : Environment) (filePath : CString) :
    ∃ loaded, mapLoaderLoadTemplateFromFile environment filePath = .ok loaded ∧
      ∀ template, loaded = .ok template → InLimits template.width template.height := by
  unfold mapLoaderLoadTemplateFromFile
  split
  case h_1 => exact ⟨_, rfl, nofun⟩
  case h_2 input opened =>
    generalize scanDimensions environment input = scanned
    obtain ⟨⟨width, height⟩, rest⟩ := scanned
    dsimp only
    split
    case isTrue => exact ⟨_, rfl, nofun⟩
    case isFalse large =>
      split
      case isTrue => exact ⟨_, rfl, nofun⟩
      case isFalse small =>
        simp only [not_or, not_lt] at large small
        simp only [mapLoaderCreateEmptyTemplate, requireInArrays_within small.1 small.2, bind, Except.bind]
        refine ⟨_, rfl, fun template same => ?_⟩
        obtain rfl := Except.ok.inj same
        have loaded := loadTiles_size environment (cells width height)
          (mapTemplateInit environment.template width height, rest)
        have initial := mapTemplateInit_size environment.template width height
        unfold InLimits
        rw [loaded.1, loaded.2, initial.1, initial.2]
        exact ⟨large.1, small.1, large.2, small.2⟩

/-! ## From the command line to the map -/

/-- If there is a game state, its map is within the limits, and no index was
outside the arrays. -/
def Admitted : Except OutOfArrays ServerInit → Prop
  | .error _ => False
  | .ok (.refused _) => True
  | .ok (.initialised gameState _) => InLimits gameState.map.width gameState.map.height

/-- The arguments name a map file, or a size within the limits. -/
def AsksInLimits (parser : ArgParser) : Prop :=
  match apFound parser "map".toList, apGetIntValue parser "width".toList, apGetIntValue parser "height".toList with
  | .ok map, .ok width, .ok height =>
    map = true ∨ (minMapWidth ≤ width ∧ width ≤ maxMapWidth) ∧ minMapHeight ≤ height ∧ height ≤ maxMapHeight
  | _, _, _ => False

instance : (result : Except OutOfArrays ServerInit) → Decidable (Admitted result)
  | .error _ => isFalse id
  | .ok (.refused _) => isTrue trivial
  | .ok (.initialised ..) => inferInstanceAs (Decidable (InLimits ..))

instance (parser : ArgParser) : Decidable (AsksInLimits parser) := by
  unfold AsksInLimits
  split <;> infer_instance

/-- On a template of any size the rest of `server_init` is admitted exactly within
the limits. -/
private theorem admitted_template {template : MapTemplate} (ready : sharedMemoryReady environment settings = true)
    (loaded : serverInitTemplate environment settings = .ok (.ok template)) :
    Admitted (serverInit environment settings) ↔ InLimits template.width template.height := by
  have size := mapInitFromTemplate_size environment.map template
  unfold serverInit
  simp only [ready, loaded, not_true_eq_false, if_false, bind, Except.bind]
  cases required : requireInArrays (cells (mapTemplateGetWidth template) (mapTemplateGetHeight template)) with
  | error outside =>
    refine iff_of_false id fun limits => ?_
    have within : requireInArrays (cells template.width template.height) = .ok () :=
      requireInArrays_within limits.2.1 limits.2.2.2
    rw [show requireInArrays (cells template.width template.height) = .error outside from required] at within
    cases within
  | ok =>
    change InLimits (mapInitFromTemplate environment.map template).width
      (mapInitFromTemplate environment.map template).height ↔ _
    rw [size.1, size.2]

/-- The loader's checks are all a file needs. -/
theorem admitted_file (ready : sharedMemoryReady environment settings = true)
    (path : settings.mapPath = some mapPath) : Admitted (serverInit environment settings) := by
  obtain ⟨loaded, ran, within⟩ := mapLoaderLoadTemplateFromFile_inLimits environment mapPath
  have template : serverInitTemplate environment settings = .ok loaded := by
    unfold serverInitTemplate
    rw [path]
    exact ran
  cases loaded with
  | error message =>
    unfold serverInit
    simp only [ready, template, not_true_eq_false, if_false, bind, Except.bind]
    trivial
  | ok loaded => exact (admitted_template ready template).mpr (within loaded rfl)

/-- Nothing checks the size the options ask for. -/
theorem admitted_options (ready : sharedMemoryReady environment settings = true)
    (path : settings.mapPath = none) :
    Admitted (serverInit environment settings) ↔ InLimits settings.width settings.height := by
  have created : serverInitTemplate environment settings =
      (requireInArrays (cells settings.width settings.height)).map fun _ =>
        .ok (mapTemplateInit environment.template settings.width settings.height) := by
    unfold serverInitTemplate mapLoaderCreateEmptyTemplate
    rw [path]
    cases requireInArrays (cells settings.width settings.height) <;> rfl
  cases required : requireInArrays (cells settings.width settings.height) with
  | error outside =>
    rw [required] at created
    refine iff_of_false (fun admitted => ?_) fun limits => ?_
    · unfold serverInit at admitted
      simp only [ready, created, not_true_eq_false, if_false, bind, Except.bind, Except.map] at admitted
      exact admitted
    · rw [requireInArrays_within limits.2.1 limits.2.2.2] at required
      cases required
  | ok =>
    rw [required] at created
    have size := mapTemplateInit_size environment.template settings.width settings.height
    have admitted := admitted_template ready created
    rwa [size.1, size.2] at admitted

/-- Conversion to `unsigned int` keeps the limits. -/
theorem wrapInt_within {value : Int} {low high : Nat} (inInt : InInt value) (positive : 0 < low)
    (small : high < 2 ^ 31) :
    (low ≤ wrapInt 32 value ∧ wrapInt 32 value ≤ high) ↔ low ≤ value ∧ value ≤ high := by
  obtain ⟨least, most⟩ := inInt
  unfold intMin at least
  unfold intMax at most
  unfold wrapInt
  omega

private theorem apRegisterOption_inInt (held : ParserInInt parser) (name : CString) (option : OptionInInt option') :
    ParserInInt (apRegisterOption parser name option') := by
  intro entry member
  rcases List.mem_append.mp member with earlier | latest
  · exact held entry earlier
  · rw [List.mem_singleton.mp latest]
    exact option

theorem serverArgParser_inInt : ParserInInt serverArgParser := by
  have zero : OptionInInt (.int [] 0) := ⟨⟨by decide, by decide⟩, nofun⟩
  refine apRegisterOption_inInt ?_ _ zero
  refine apRegisterOption_inInt ?_ _ zero
  refine apRegisterOption_inInt ?_ _ zero
  refine apRegisterOption_inInt ?_ _ trivial
  refine apRegisterOption_inInt ?_ _ trivial
  refine apRegisterOption_inInt ?_ _ zero
  exact nofun

private theorem getStrCopy_isSome (copied : argumentParserGetStrCopy parser key = .ok copy) :
    apFound parser key = .ok copy.isSome := by
  obtain ⟨found, asked, copied⟩ := bind_ok.mp copied
  rw [asked]
  cases found with
  | true =>
    obtain ⟨string, -, copied⟩ := bind_ok.mp copied
    cases copied
    rfl
  | false =>
    cases copied
    rfl

/-- The settings are the options' values, converted. -/
theorem argumentParserParse_ok (parsed : apParse serverArgParser argv = .ok parser)
    (accepted : argumentParserParse argv = .ok (.ok settings)) :
    ∃ width height, apGetIntValue parser "width".toList = .ok width ∧
      apGetIntValue parser "height".toList = .ok height ∧
      apFound parser "map".toList = .ok settings.mapPath.isSome ∧
      settings.width = wrapInt 32 width ∧ settings.height = wrapInt 32 height := by
  unfold argumentParserParse at accepted
  obtain ⟨parser', parsed', accepted⟩ := bind_ok.mp accepted
  obtain rfl := Except.ok.inj (parsed.symm.trans parsed')
  obtain ⟨name, -, accepted⟩ := bind_ok.mp accepted
  obtain ⟨port, -, accepted⟩ := bind_ok.mp accepted
  split at accepted
  case isTrue => cases accepted
  case isFalse =>
    obtain ⟨map, -, accepted⟩ := bind_ok.mp accepted
    obtain ⟨width, -, accepted⟩ := bind_ok.mp accepted
    obtain ⟨height, -, accepted⟩ := bind_ok.mp accepted
    split at accepted
    case isTrue => cases accepted
    case isFalse =>
      obtain ⟨roomName, -, accepted⟩ := bind_ok.mp accepted
      obtain ⟨mapPath, copied, accepted⟩ := bind_ok.mp accepted
      obtain ⟨width, readWidth, accepted⟩ := bind_ok.mp accepted
      obtain ⟨height, readHeight, accepted⟩ := bind_ok.mp accepted
      obtain ⟨parent, -, accepted⟩ := bind_ok.mp accepted
      obtain ⟨port, -, accepted⟩ := bind_ok.mp accepted
      cases accepted
      exact ⟨width, height, readWidth, readHeight, getStrCopy_isSome copied, rfl, rfl⟩

/-- The map of an accepted command line is within the limits, and so are all
indices within the arrays, exactly if the arguments name a file or ask for such a
size. Without the shared memory there is no map. -/
theorem serverInit_admitted_iff (environment : Environment) (parsed : apParse serverArgParser argv = .ok parser)
    (accepted : argumentParserParse argv = .ok (.ok settings)) :
    Admitted (serverInit environment settings) ↔
      (sharedMemoryReady environment settings = true → AsksInLimits parser) := by
  obtain ⟨width, height, readWidth, readHeight, found, settingsWidth, settingsHeight⟩ :=
    argumentParserParse_ok parsed accepted
  have held := apParseStream_inInt _ serverArgParser_inInt parsed
  have asks : AsksInLimits parser ↔ settings.mapPath.isSome = true ∨ InLimits settings.width settings.height := by
    have inWidth := wrapInt_within (apGetIntValue_inInt held readWidth) (by decide : 0 < minMapWidth)
      (by decide : maxMapWidth < 2 ^ 31)
    have inHeight := wrapInt_within (apGetIntValue_inInt held readHeight) (by decide : 0 < minMapHeight)
      (by decide : maxMapHeight < 2 ^ 31)
    unfold AsksInLimits InLimits
    simp only [found, readWidth, readHeight, settingsWidth, settingsHeight]
    rw [← inWidth, ← inHeight, and_assoc]
  rw [asks]
  cases ready : sharedMemoryReady environment settings with
  | false =>
    refine iff_of_true ?_ nofun
    unfold serverInit
    simp only [ready, Bool.false_eq_true, not_false_eq_true, if_true]
    trivial
  | true =>
    rw [forall_prop_of_true rfl]
    cases path : settings.mapPath with
    | some mapPath => exact iff_of_true (admitted_file ready path) (Or.inl rfl)
    | none =>
      rw [Option.isSome_none, Bool.false_eq_true, false_or]
      exact admitted_options ready path

/-- No files, and everything else succeeds. -/
def bareEnvironment : Environment where
  files := fun _ => none
  sharedMemory := fun _ => true
  listens := fun _ => true
  template := { walls := fun _ => false, width := 0, height := 0 }
  map := { tiles := fun _ => { order := 0, type := .empty, player := 0 }, width := 0, height := 0 }
  directions := fun _ => .up
  width := 0
  height := 0
  character := fun _ => ' '
  unrepresentable := fun _ => 0

def commandLine (words : List String) : List CString := words.map String.toList

def smallMap : List CString := commandLine ["server", "-n", "room", "-w", "20", "--height=0xf"]

private theorem smallMap_asks : ∃ parser, apParse serverArgParser smallMap = .ok parser ∧ AsksInLimits parser := by
  decide +kernel

private theorem smallMap_accepted : ∃ result, argumentParserParse smallMap = .ok result ∧
    ∃ settings, result = .ok settings ∧ settings.width = 20 ∧ settings.height = 15 := by decide +kernel

theorem serverInit_admitted_iff_smallMap : ∃ settings, argumentParserParse smallMap = .ok (.ok settings) ∧
    settings.width = 20 ∧ settings.height = 15 ∧ Admitted (serverInit bareEnvironment settings) := by
  obtain ⟨parser, parsed, limits⟩ := smallMap_asks
  obtain ⟨_, accepted, settings, rfl, width, height⟩ := smallMap_accepted
  exact ⟨settings, accepted, width, height,
    (serverInit_admitted_iff bareEnvironment parsed accepted).mpr fun _ => limits⟩

private theorem not_admitted {argv : List CString} (outside : ∃ result, argumentParserParse argv = .ok result ∧
      ∃ settings, result = .ok settings ∧ ¬ Admitted (serverInit bareEnvironment settings)) :
    ∃ settings, argumentParserParse argv = .ok (.ok settings) ∧
      ¬ Admitted (serverInit bareEnvironment settings) := by
  obtain ⟨_, accepted, settings, rfl, unmet⟩ := outside
  exact ⟨settings, accepted, unmet⟩

/-- A map too large for the arrays, and one too small for the game. -/
theorem serverInit_admitted_iff_unchecked :
    (∃ settings, argumentParserParse (commandLine ["server", "-n", "room", "-w", "200", "-h", "60"]) =
        .ok (.ok settings) ∧ ¬ Admitted (serverInit bareEnvironment settings)) ∧
      ∃ settings, argumentParserParse (commandLine ["server", "-n", "room", "-w", "5", "-h", "5"]) =
        .ok (.ok settings) ∧ ¬ Admitted (serverInit bareEnvironment settings) :=
  ⟨not_admitted (by decide +kernel), not_admitted (by decide +kernel)⟩

end SnakePosix.AdmittedSettings
