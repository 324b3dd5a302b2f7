import SnakePosix.AdmittedSettings
import SnakePosix.Client.Menus
import SnakePosix.DigitStrings
import SnakePosix.PortPrompt
import SnakePosix.SharedRooms

/-! The client writes the settings of a game to a command line and the server reads
them from it. What is read are the settings that were written, whatever the names
of the room and of the map file look like. -/
namespace SnakePosix.HostedGames
open AdmittedSettings DigitStrings GuardedRuns Marks

variable {settings : GameSettings} {value : Int} {n : Nat}

/-! ## Decimals on the command line -/

/-- A decimal has no leading zero, which `strtol` would read as octal. -/
theorem toDigits_head (positive : 0 < n) : (Nat.toDigits 10 n).head? ≠ some '0' := by
  induction n using Nat.strongRecOn with
  | ind n ih =>
    rcases Nat.lt_or_ge n 10 with small | large
    · have nonzero : ∀ digit < 10, 0 < digit → digit.digitChar ≠ '0' := by decide
      rw [Nat.toDigits_of_lt_base small]
      exact fun same => nonzero n small positive (Option.some.inj same)
    · rw [Nat.toDigits_of_base_le (by decide) large,
        List.head?_append_of_ne_nil _ Nat.toDigits_ne_nil]
      exact ih (n / 10) (by omega) (by omega)

theorem findBase_decimal (positive : 0 < n) : findBase (Nat.toDigits 10 n) = (10, Nat.toDigits 10 n) := by
  have head := toDigits_head positive
  unfold findBase
  split
  · rename_i same
    rw [same] at head
    exact absurd rfl head
  · rename_i same
    rw [same] at head
    exact absurd rfl head
  · rfl

theorem spanDigits_decimal (n : Nat) : spanDigits 10 (Nat.toDigits 10 n) = (Nat.toDigits 10 n, []) := by
  have spanned : spanDigits 10 (Nat.toDigits 10 n ++ []) = (Nat.toDigits 10 n, []) :=
    spanDigits_append (toDigits_allDigits n) nofun
  rwa [List.append_nil] at spanned

/-- What `strtol` reads of a decimal, with or without a minus. -/
theorem strtol_formatInt (within : InInt value) :
    (strtol (formatInt value)).value = value ∧ (strtol (formatInt value)).rest = [] ∧
      (strtol (formatInt value)).outOfRange = false := by
  obtain ⟨least, most⟩ := within
  unfold intMin at least
  unfold intMax at most
  cases value with
  | ofNat n =>
    rw [Int.ofNat_eq_natCast] at least most
    rcases Nat.eq_zero_or_pos n with rfl | positive
    · decide
    · have skipped := skipSpaces_digits (toDigits_allDigits n) Nat.toDigits_ne_nil []
      have signless := spanSign_digits (toDigits_allDigits n) Nat.toDigits_ne_nil []
      rw [List.append_nil] at skipped signless
      have small : ¬ (n : Int) > longMax := by unfold longMax; omega
      have large : ¬ (n : Int) < longMin := by unfold longMin; omega
      unfold strtol formatInt
      simp only [skipped, signless, findBase_decimal positive, spanDigits_decimal, digitsValue_toDigits,
        Nat.toDigits_ne_nil, Bool.false_eq_true, if_false, small, large]
      exact ⟨rfl, trivial, trivial⟩
  | negSucc n =>
    have skipped : skipSpaces ('-' :: Nat.toDigits 10 (n + 1)) = '-' :: Nat.toDigits 10 (n + 1) := rfl
    have small : ¬ -((n + 1 : Nat) : Int) > longMax := by unfold longMax; omega
    have large : ¬ -((n + 1 : Nat) : Int) < longMin := by unfold longMin; omega
    unfold strtol formatInt
    simp only [skipped, spanSign, findBase_decimal (Nat.succ_pos n), spanDigits_decimal, digitsValue_toDigits,
      Nat.toDigits_ne_nil, if_true, if_false, small, large]
    exact ⟨rfl, trivial, trivial⟩

theorem tryStrToInt_formatInt (within : InInt value) : tryStrToInt (formatInt value) = .ok value := by
  obtain ⟨same, whole, inRange⟩ := strtol_formatInt within
  have low : ¬ value > intMax := Int.not_lt.mpr within.2
  have high : ¬ value < intMin := Int.not_lt.mpr within.1
  unfold tryStrToInt
  simp only [same, whole, inRange, Bool.false_eq_true, low, high, or_self, if_false, ne_eq, not_true_eq_false]

/-! ## The parser and what it has been given -/

/-- The values of every option of the server, in the order they came. -/
structure Given where
  parent : List Int
  name : List CString
  map : List CString
  width : List Int
  height : List Int
  port : List Int

/-- The server's parser with these values. -/
def Given.parser (given : Given) : ArgParser where
  options :=
    [(["parent".toList, "a".toList], .int given.parent settingNoParent),
      (["name".toList, "n".toList], .str given.name []),
      (["map".toList, "m".toList], .str given.map []),
      (["width".toList, "w".toList], .int given.width 0),
      (["height".toList, "h".toList], .int given.height 0),
      (["port".toList, "p".toList], .int given.port 0)]
  positionalArgs := []
  helptext := some "Hosts a snake game.".toList
  version := none

def nothingGiven : Given := ⟨[], [], [], [], [], []⟩

/-- The loop over as many arguments as there are. -/
def parseArgs (parser : ArgParser) (stream : List CString) : Except ArgsExit ArgParser :=
  apParseStream stream.length parser stream

/-- A letter that is an option takes the next argument, whatever that looks like. -/
theorem parseArgs_option {parser : ArgParser} {option after : ArgOption} {arg : CString} (letter : Char)
    (plain : letter ≠ '-' ∧ letter ≠ '=' ∧ isDigit letter = false) (found : parser.find? [letter] = some option)
    (set : optionTrySet option arg = .ok after) (stream : List CString) :
    parseArgs parser (['-', letter] :: arg :: stream) = parseArgs (parser.update [letter] after) stream := by
  obtain ⟨noDash, noEquals, noDigit⟩ := plain
  have handled : apHandleArg parser ['-', letter] (arg :: stream) = .ok (parser.update [letter] after, stream) := by
    unfold apHandleArg
    split
    · rename_i same
      cases same
      exact absurd rfl noDash
    · rename_i same
      cases same
      exact absurd rfl noDash
    · rename_i name same
      cases same
      rw [if_neg (by simp [noDigit]), if_neg (by simpa using Ne.symm noEquals)]
      simp only [apHandleShortOpt, found, set, bind, Except.bind]
    · rename_i other
      exact absurd rfl (other [letter])
  unfold parseArgs
  rw [List.length_cons, apParseStream, handled]
  exact apParseStream_fuel stream.length 1 (Nat.le_refl _)

theorem optionTrySet_formatInt (within : InInt value) (values : List Int) (fallback : Int) :
    optionTrySet (.int values fallback) (formatInt value) = .ok (.int (values ++ [value]) fallback) := by
  unfold optionTrySet
  rw [tryStrToInt_formatInt within]
  rfl

/-! ## The arguments of the launcher -/

/-- The settings that the launcher can hand over. -/
structure Hostable (settings : GameSettings) : Prop where
  reachable : settings.roomName ≠ none ∨ settings.port ≠ settingNoPort
  port : settings.port < 2 ^ 16
  parent : InInt settings.parent
  file : settings.mapPath ≠ none → settings.width = 0 ∧ settings.height = 0
  size : settings.mapPath = none → InLimits settings.width settings.height

theorem inInt_of_small {size : Nat} (small : size < 2 ^ 31) : InInt size := by
  unfold InInt intMin intMax
  omega

variable (given : Given) (stream : List CString)

theorem parseArgs_room (settings : GameSettings) :
    parseArgs given.parser (serverLauncherRoomArgs settings ++ stream) =
      parseArgs { given with name := given.name ++ settings.roomName.toList }.parser stream := by
  unfold serverLauncherRoomArgs
  cases settings.roomName with
  | none => rw [Option.toList_none, List.append_nil, List.nil_append]
  | some roomName => exact parseArgs_option 'n' (by decide) rfl rfl stream

theorem parseArgs_port (small : settings.port < 2 ^ 16) :
    parseArgs given.parser (serverLauncherPortArgs settings ++ stream) =
      parseArgs { given with
        port := given.port ++ if settings.port ≠ settingNoPort then [(settings.port : Int)] else [] }.parser stream := by
  unfold serverLauncherPortArgs
  split
  · exact parseArgs_option 'p' (by decide) rfl (optionTrySet_formatInt (inInt_of_small (by omega)) _ _) stream
  · rw [List.append_nil, List.nil_append]

theorem parseArgs_parent (within : InInt value) :
    parseArgs given.parser ("-a".toList :: formatInt value :: stream) =
      parseArgs { given with parent := given.parent ++ [value] }.parser stream :=
  parseArgs_option 'a' (by decide) rfl (optionTrySet_formatInt within _ _) stream

theorem parseArgs_file (mapPath : CString) :
    parseArgs given.parser ("-m".toList :: mapPath :: stream) =
      parseArgs { given with map := given.map ++ [mapPath] }.parser stream :=
  parseArgs_option 'm' (by decide) rfl rfl stream

theorem parseArgs_size {width height : Nat} (limits : InLimits width height) :
    parseArgs given.parser ("-w".toList :: formatInt width :: "-h".toList :: formatInt height :: stream) =
      parseArgs { given with width := given.width ++ [(width : Int)], height := given.height ++ [(height : Int)] }.parser
        stream := by
  obtain ⟨-, widthBound, -, heightBound⟩ := limits
  have inWidth : InInt width := inInt_of_small (Nat.lt_of_le_of_lt widthBound (by decide))
  have inHeight : InInt height := inInt_of_small (Nat.lt_of_le_of_lt heightBound (by decide))
  apply Eq.trans (b := parseArgs { given with width := given.width ++ [(width : Int)] }.parser
    ("-h".toList :: formatInt height :: stream))
  · exact parseArgs_option 'w' (by decide) rfl (optionTrySet_formatInt inWidth _ _) _
  · exact parseArgs_option 'h' (by decide) rfl (optionTrySet_formatInt inHeight _ _) stream

/-- What the launcher's arguments give the parser. -/
def launchGiven (settings : GameSettings) : Given where
  parent := [settings.parent]
  name := settings.roomName.toList
  map := settings.mapPath.toList
  width := if settings.mapPath = none then [(settings.width : Int)] else []
  height := if settings.mapPath = none then [(settings.height : Int)] else []
  port := if settings.port ≠ settingNoPort then [(settings.port : Int)] else []

theorem apParse_launch (hostable : Hostable settings) :
    apParse serverArgParser (serverLauncherArgs settings) = .ok (launchGiven settings).parser := by
  have parent := fun given => parseArgs_parent given [] hostable.parent
  change parseArgs nothingGiven.parser (serverLauncherRoomArgs settings ++ serverLauncherPortArgs settings ++
    serverLauncherMapArgs settings ++ ["-a".toList, formatInt settings.parent]) = _
  rw [List.append_assoc, List.append_assoc, parseArgs_room, parseArgs_port _ _ hostable.port]
  unfold serverLauncherMapArgs launchGiven
  cases path : settings.mapPath with
  | some mapPath =>
    simp only [List.cons_append, List.nil_append]
    rw [parseArgs_file, parent]
    rfl
  | none =>
    simp only [List.cons_append, List.nil_append]
    rw [parseArgs_size _ _ (hostable.size path), parent]
    rfl

/-! ## The settings the server reads -/

variable {parser : ArgParser} {name : CString}

theorem apFound_of_find {option : ArgOption} (found : parser.find? name = some option) :
    apFound parser name = .ok (decide (option.count > 0)) := by
  unfold apFound apGetOpt
  rw [found]
  rfl

theorem getStrCopy_of_find {string : Option CString} {fallback : CString}
    (found : parser.find? name = some (.str string.toList fallback)) :
    argumentParserGetStrCopy parser name = .ok string := by
  unfold argumentParserGetStrCopy apGetStrValue apGetOpt
  rw [apFound_of_find found, found]
  cases string <;> rfl

theorem getIntValue_of_find {values : List Int} {fallback : Int}
    (found : parser.find? name = some (.int values fallback)) :
    apGetIntValue parser name = .ok (values.getLastD fallback) := by
  unfold apGetIntValue apGetOpt
  rw [found]
  rfl

theorem wrapInt_of_small {bits size : Nat} (small : size < 2 ^ bits) : wrapInt bits size = size := by
  unfold wrapInt
  have small : (size : Int) < 2 ^ bits := by exact_mod_cast small
  rw [Int.emod_eq_of_lt (Int.natCast_nonneg size) small, Int.toNat_natCast]

/-- The port that is read is the port that was written, if one was. -/
theorem launch_port (hostable : Hostable settings) :
    wrapInt 16 ((launchGiven settings).port.getLastD 0) = settings.port := by
  unfold launchGiven
  dsimp only
  split
  · exact wrapInt_of_small hostable.port
  · rename_i none
    exact (Classical.not_not.mp none).symm

/-- Without a size on the command line both coordinates are zero, as in the menu. -/
theorem launch_size (hostable : Hostable settings) :
    wrapInt 32 ((launchGiven settings).width.getLastD 0) = settings.width ∧
      wrapInt 32 ((launchGiven settings).height.getLastD 0) = settings.height := by
  unfold launchGiven
  dsimp only
  split
  · rename_i path
    obtain ⟨-, widthBound, -, heightBound⟩ := hostable.size path
    exact ⟨wrapInt_of_small (Nat.lt_of_le_of_lt widthBound (by decide)),
      wrapInt_of_small (Nat.lt_of_le_of_lt heightBound (by decide))⟩
  · rename_i path
    obtain ⟨width, height⟩ := hostable.file path
    exact ⟨width.symm, height.symm⟩

/-- The server reads the settings that the client has written. -/
theorem argumentParserParse_launch (hostable : Hostable settings) :
    argumentParserParse (serverLauncherArgs settings) = .ok (.ok settings) := by
  have name : (launchGiven settings).parser.find? "name".toList = some (.str settings.roomName.toList []) := rfl
  have map : (launchGiven settings).parser.find? "map".toList = some (.str settings.mapPath.toList []) := rfl
  have port : (launchGiven settings).parser.find? "port".toList = some (.int (launchGiven settings).port 0) := rfl
  have width : (launchGiven settings).parser.find? "width".toList = some (.int (launchGiven settings).width 0) := rfl
  have height : (launchGiven settings).parser.find? "height".toList = some (.int (launchGiven settings).height 0) := rfl
  have parent : (launchGiven settings).parser.find? "parent".toList =
    some (.int [settings.parent] settingNoParent) := rfl
  have reachable : ¬ (¬ 0 < settings.roomName.toList.length ∧ ¬ 0 < (launchGiven settings).port.length) := by
    rintro ⟨noName, noPort⟩
    rcases hostable.reachable with named | ported
    · obtain ⟨roomName, same⟩ := Option.ne_none_iff_exists'.mp named
      rw [same] at noName
      exact noName Nat.one_pos
    · unfold launchGiven at noPort
      rw [if_pos ported] at noPort
      exact noPort Nat.one_pos
  have sized : ¬ (¬ 0 < settings.mapPath.toList.length ∧
      (¬ 0 < (launchGiven settings).width.length ∨ ¬ 0 < (launchGiven settings).height.length)) := by
    rintro ⟨noPath, noSize⟩
    unfold launchGiven at noSize
    cases path : settings.mapPath with
    | none => simp [path] at noSize
    | some mapPath =>
      rw [path] at noPath
      exact noPath Nat.one_pos
  obtain ⟨widthRead, heightRead⟩ := launch_size hostable
  unfold argumentParserParse
  simp only [apParse_launch hostable, apFound_of_find name, apFound_of_find port, apFound_of_find map,
    apFound_of_find width, apFound_of_find height, getStrCopy_of_find name, getStrCopy_of_find map,
    getIntValue_of_find width, getIntValue_of_find height, getIntValue_of_find parent, getIntValue_of_find port,
    ArgOption.count, bind, Except.bind, decide_eq_true_eq, gt_iff_lt, reachable, sized, if_false, widthRead,
    heightRead, launch_port hostable]
  rfl

/-! ## What the menu comes to -/

variable {memory : MenuMemory} {events rest : List TbEvent}

/-- A menu that comes to its end has come to the end of its first part. -/
theorem menu_bind {menu : Menu α} {next : α → Menu β} {result : β} :
    (menu >>= next) events = .ok (result, rest) ↔
      ∃ first middle, menu events = .ok (first, middle) ∧ next first middle = .ok (result, rest) := by
  change (menu events >>= fun read => next read.1 read.2) = _ ↔ _
  rw [bind_ok]
  constructor
  · rintro ⟨⟨first, middle⟩, ran, later⟩
    exact ⟨first, middle, ran, later⟩
  · rintro ⟨first, middle, ran, later⟩
    exact ⟨(first, middle), ran, later⟩

theorem terminalReadPort_small {outPort port : Nat} {result : TerminalReadResult} (small : outPort < 2 ^ 16)
    (read : terminalReadPort buffer outPort events = .ok (some (result, port))) : port < 2 ^ 16 := by
  obtain ⟨reading, -, read⟩ := bind_ok.mp read
  cases reading with
  | waiting => cases read
  | cancelled =>
    cases read
    exact small
  | entered =>
    dsimp only at read
    split at read
    · cases read
      exact small
    · split at read
      · cases read
        exact small
      · rename_i inRange
        cases read
        omega

theorem promptPort_small {outPort port : Nat} {result : TerminalReadResult} (small : outPort < 2 ^ 16) (fuel : Nat)
    (read : promptPort buffer outPort fuel events = .ok ((result, port), rest)) : port < 2 ^ 16 := by
  induction fuel generalizing events with
  | zero => cases read
  | succ fuel ih =>
    obtain ⟨⟨first, entered⟩, middle, prompted, read⟩ := menu_bind.mp read
    dsimp only at read
    split at read
    · obtain ⟨-, later, -, read⟩ := menu_bind.mp read
      exact ih read
    · cases read
      unfold prompting at prompted
      split at prompted
      · cases prompted
      · cases prompted
      · rename_i ended
        cases prompted
        exact terminalReadPort_small small ended

theorem hostMenuPort_small {options : HostMenuOptions} {port : Nat}
    (read : hostMenuPort options memory events = .ok (some port, rest)) : port < 2 ^ 16 := by
  cases options with
  | privateGame =>
    cases read
    decide
  | publicGame =>
    obtain ⟨keys, middle, -, read⟩ := menu_bind.mp read
    obtain ⟨⟨result, entered⟩, later, prompted, read⟩ := menu_bind.mp read
    have small := promptPort_small (by decide) _ prompted
    cases result with
    | cancelled => cases read
    | empty =>
      cases read
      decide
    | invalid | success =>
      cases read
      exact small

theorem hostMenuClampCoordinate_within {min max : Nat} (ordered : min ≤ max) (val : Nat) :
    min ≤ hostMenuClampCoordinate min val max ∧ hostMenuClampCoordinate min val max ≤ max := by
  unfold hostMenuClampCoordinate
  split
  · exact ⟨Nat.le_refl _, ordered⟩
  · split <;> omega

theorem hostMenuSize_within {size : Nat × Nat} (read : hostMenuSize memory events = .ok (some size, rest)) :
    InLimits size.1 size.2 := by
  obtain ⟨⟨first, width⟩, middle, -, read⟩ := menu_bind.mp read
  dsimp only at read
  split at read
  · cases read
  · obtain ⟨⟨second, height⟩, later, -, read⟩ := menu_bind.mp read
    dsimp only at read
    split at read
    · cases read
    · cases read
      have inWidth := hostMenuClampCoordinate_within (by decide : minMapWidth ≤ maxMapWidth) width
      have inHeight := hostMenuClampCoordinate_within (by decide : minMapHeight ≤ maxMapHeight) height
      exact ⟨inWidth.1, inWidth.2, inHeight.1, inHeight.2⟩

theorem hostMenuMap_within {mapPath : Option CString} {width height : Nat}
    (read : hostMenuMap memory buffer events = .ok (some (mapPath, width, height), rest)) :
    (mapPath ≠ none → width = 0 ∧ height = 0) ∧ (mapPath = none → InLimits width height) := by
  obtain ⟨⟨result, text⟩, middle, -, read⟩ := menu_bind.mp read
  dsimp only at read
  split at read
  · cases read
  · cases typed : nonemptyString text with
    | some path =>
      rw [typed] at read
      cases read
      exact ⟨fun _ => ⟨rfl, rfl⟩, nofun⟩
    | none =>
      rw [typed] at read
      obtain ⟨size, later, asked, read⟩ := menu_bind.mp read
      cases size with
      | none => cases read
      | some size =>
        cases read
        exact ⟨fun path => absurd rfl path, fun _ => hostMenuSize_within asked⟩

/-- Whatever is typed into the menu, its settings can be handed over. -/
theorem hostMenu_hostable {options : HostMenuOptions} {pid : Int} (within : InInt pid)
    (chosen : hostMenu options memory events = .ok (some settings, rest)) :
    Hostable { settings with parent := pid } := by
  obtain ⟨buffer, middle, -, chosen⟩ := menu_bind.mp chosen
  cases buffer with
  | none => cases chosen
  | some buffer =>
    obtain ⟨port, later, portRead, chosen⟩ := menu_bind.mp chosen
    cases port with
    | none => cases chosen
    | some port =>
      dsimp only at chosen
      split at chosen
      · obtain ⟨pressed, last, waited, refused⟩ := menu_bind.mp chosen
        cases refused
      · rename_i reachable
        obtain ⟨map, last, mapRead, chosen⟩ := menu_bind.mp chosen
        cases map with
        | none => cases chosen
        | some map =>
          cases chosen
          obtain ⟨file, size⟩ := hostMenuMap_within mapRead
          constructor
          · exact Classical.not_and_iff_not_or_not.mp reachable
          · exact hostMenuPort_small portRead
          · exact within
          · exact file
          · exact size

/-! ## One turn of the client -/

/-- The client enters the room of these settings: by its name, or else by its port. -/
def Enters (settings : GameSettings) : ClientGame → Prop
  | .sharedMemory roomName => settings.roomName = some roomName
  | .socket hostname port => settings.roomName = none ∧ hostname = "localhost".toList ∧ settings.port = port ∧
    port ≠ settingNoPort

theorem hostedGame_enters (hostable : Hostable settings) : Enters settings (hostedGame settings) := by
  unfold hostedGame
  cases room : settings.roomName with
  | some roomName => exact room
  | none => exact ⟨room, rfl, rfl, hostable.reachable.resolve_left fun named => named room⟩

theorem serverInit_hostable (hostable : Hostable settings) (environment : Environment) :
    Admitted (serverInit environment settings) := by
  cases ready : sharedMemoryReady environment settings with
  | false =>
    unfold serverInit
    simp only [ready, Bool.false_eq_true, not_false_eq_true, if_true]
    trivial
  | true =>
    cases path : settings.mapPath with
    | some mapPath => exact admitted_file ready path
    | none => exact (admitted_options ready path).mpr (hostable.size path)

/-- The buffer for the name of the shared memory holds the room's name. -/
def NameFits (settings : GameSettings) : Prop :=
  ∀ roomName, settings.roomName = some roomName → roomName.length ≤ 237

/-- `server_init` goes on behind the name exactly if its buffer holds it. -/
theorem serverInitNamed_ok {environment : Environment} {outcome : Except OutOfArrays ServerInit} :
    serverInitNamed environment settings = .ok outcome ↔
      outcome = serverInit environment settings ∧ NameFits settings := by
  unfold serverInitNamed NameFits
  cases settings.roomName with
  | none =>
    constructor
    · exact fun same => ⟨(Except.ok.inj same).symm, nofun⟩
    · exact fun ⟨same, _⟩ => congrArg Except.ok same.symm
  | some roomName =>
    constructor
    · intro ran
      obtain ⟨name, formatted, same⟩ := bind_ok.mp ran
      refine ⟨(Except.ok.inj same).symm, ?_⟩
      rintro _ ⟨⟩
      exact (SharedRooms.allocateAndFormatName_iff.mp formatted).2
    · rintro ⟨rfl, fits⟩
      have formatted := SharedRooms.allocateAndFormatName_iff.mpr ⟨rfl, fits roomName rfl⟩
      exact bind_ok.mpr ⟨_, formatted, rfl⟩

/-- Without a name that is too long, no environment makes it leave its arrays. -/
theorem serverInitNamed_hostable (hostable : Hostable settings) (environment : Environment) :
    (∃ outcome, serverInitNamed environment settings = .ok outcome ∧ Admitted outcome) ↔ NameFits settings := by
  constructor
  · rintro ⟨outcome, ran, -⟩
    exact (serverInitNamed_ok.mp ran).2
  · intro fits
    exact ⟨_, serverInitNamed_ok.mpr ⟨rfl, fits⟩, serverInit_hostable hostable environment⟩

/-- What the player has chosen in the menus. -/
inductive Chooses (memory : MenuMemory) (events : List TbEvent) (settings : GameSettings) (rest : List TbEvent) :
    Prop where
  | privateGame (entered : mainMenu events = .ok (.privateGame, middle))
    (chosen : hostMenu .privateGame memory middle = .ok (some settings, rest))
  | host (entered : mainMenu events = .ok (.host, middle))
    (chosen : hostMenu .publicGame memory middle = .ok (some settings, rest))

theorem clientHost_hosts {options : HostMenuOptions} {pid : Int}
    (hosted : clientHost options memory pid events = .ok (.hosted argv game, rest)) :
    ∃ settings, hostMenu options memory events = .ok (some settings, rest) ∧
      argv = serverLauncherArgs { settings with parent := pid } ∧ game = hostedGame settings := by
  obtain ⟨chosen, middle, ran, hosted⟩ := menu_bind.mp hosted
  cases chosen with
  | none => cases hosted
  | some settings =>
    cases hosted
    exact ⟨settings, ran, rfl, rfl⟩

theorem clientTurn_chooses {pid : Int} (hosted : clientTurn memory pid events = .ok (.hosted argv game, rest)) :
    ∃ settings, Chooses memory events settings rest ∧
      argv = serverLauncherArgs { settings with parent := pid } ∧ game = hostedGame settings := by
  obtain ⟨choice, middle, entered, hosted⟩ := menu_bind.mp hosted
  cases choice with
  | exit => cases hosted
  | privateGame =>
    obtain ⟨settings, chosen, built⟩ := clientHost_hosts hosted
    exact ⟨settings, .privateGame entered chosen, built⟩
  | host =>
    obtain ⟨settings, chosen, built⟩ := clientHost_hosts hosted
    exact ⟨settings, .host entered chosen, built⟩
  | joinLocal =>
    obtain ⟨roomName, later, -, hosted⟩ := menu_bind.mp hosted
    cases roomName <;> cases hosted
  | joinRemote =>
    obtain ⟨server, later, -, hosted⟩ := menu_bind.mp hosted
    cases server <;> cases hosted

/-- Whatever the player types, a game the client hosts is one its server can start: it
reads the settings the menu came to and whom to signal, and the client enters the room
it opens. It leaves none of its arrays, either, unless the room's name is too long for
the name of its shared memory. -/
theorem clientTurn_hosts {pid : Int} (within : InInt pid)
    (hosted : clientTurn memory pid events = .ok (.hosted argv game, rest)) :
    ∃ settings, Chooses memory events settings rest ∧
      argumentParserParse argv = .ok (.ok { settings with parent := pid }) ∧ Enters settings game ∧
      ∀ environment, (∃ outcome, serverInitNamed environment { settings with parent := pid } = .ok outcome ∧
        Admitted outcome) ↔ NameFits settings := by
  obtain ⟨settings, chosen, rfl, rfl⟩ := clientTurn_chooses hosted
  have hostable : Hostable { settings with parent := pid } := by
    cases chosen with
    | privateGame _ chosen | host _ chosen => exact hostMenu_hostable within chosen
  have enters : Enters { settings with parent := pid } (hostedGame { settings with parent := pid }) :=
    hostedGame_enters hostable
  exact ⟨settings, chosen, argumentParserParse_launch hostable, enters, serverInitNamed_hostable hostable⟩

def hostMemory : MenuMemory where
  buffer := fun _ => 'x'
  rng := { draws := fun _ => 0, used := 0 }
  parent := 0
  port := 0

/-- Host a game: a room, a port, no map file, a width and a height. -/
def hostingKeys : List TbEvent :=
  ["2", "den\r", "4242\r", "\r", "7\r", "15\r"].flatMap fun text =>
    text.toList.map fun c => if c = '\r' then PortPrompt.enterKey else PortPrompt.characterKey c

private theorem hostingKeys_turn : clientTurn hostMemory 4711 hostingKeys =
    .ok (.hosted (commandLine ["./server", "-n", "den", "-p", "4242", "-w", "10", "-h", "15", "-a", "4711"])
      (.sharedMemory "den".toList), []) := by decide +kernel

/-- The width that was too small is the least that is allowed. -/
theorem clientTurn_hosts_den :
    ∃ settings, Chooses hostMemory hostingKeys settings [] ∧ argumentParserParse (commandLine
        ["./server", "-n", "den", "-p", "4242", "-w", "10", "-h", "15", "-a", "4711"]) =
          .ok (.ok { settings with parent := 4711 }) ∧
      ∀ environment, ∃ outcome, serverInitNamed environment { settings with parent := 4711 } = .ok outcome ∧
        Admitted outcome := by
  obtain ⟨settings, chosen, parsed, enters, starts⟩ := clientTurn_hosts ⟨by decide, by decide⟩ hostingKeys_turn
  refine ⟨settings, chosen, parsed, fun environment => (starts environment).mpr fun roomName named => ?_⟩
  have room : settings.roomName = some "den".toList := enters
  cases room.symm.trans named
  decide

end SnakePosix.HostedGames
