import SnakePosix.Libargs.Args
import SnakePosix.Libsnake.GameState
import SnakePosix.Libsnake.ShmGameState
import SnakePosix.Libsnake.SocketMessage

/-! From the command line to a game: `argument_parser.c`, `map_loader.c` and
`server_init`. What these find outside the program, and what the C standard
leaves open, is an `Environment`. -/
namespace SnakePosix

/-! ## `argument_parser.c` -/

/-- The value an unsigned type of that many bits keeps of an `int`. -/
def wrapInt (bits : Nat) (value : Int) : Nat := (value % 2 ^ bits).toNat

/-- `game_settings_t` -/
structure GameSettings where
  roomName : Option CString
  mapPath : Option CString
  width : Nat
  height : Nat
  parent : Int
  port : Nat

def settingNoParent : Int := 0
def settingNoPort : Nat := 0

def argumentParserGetStrCopy (parser : ArgParser) (key : CString) : Except ArgsExit (Option CString) := do
  if ← apFound parser key then
    let string ← apGetStrValue parser key
    .ok (some string)
  else .ok none

/-- The parser before it has seen the arguments. -/
def serverArgParser : ArgParser :=
  let parser := apSetHelptext apNewParser "Hosts a snake game.".toList
  let parser := apAddIntOpt parser "parent a".toList settingNoParent
  let parser := apAddStrOpt parser "name n".toList []
  let parser := apAddStrOpt parser "map m".toList []
  let parser := apAddIntOpt parser "width w".toList 0
  let parser := apAddIntOpt parser "height h".toList 0
  apAddIntOpt parser "port p".toList 0

/-- The settings an argument vector gives, or the result `NULL` and its message. -/
def argumentParserParse (argv : List CString) : Except ArgsExit (Except CString GameSettings) := do
  let parser ← apParse serverArgParser argv
  let name ← apFound parser "name".toList
  let port ← apFound parser "port".toList
  if ¬ name ∧ ¬ port then .ok (.error "IPC to use is required".toList)
  else
    let map ← apFound parser "map".toList
    let width ← apFound parser "width".toList
    let height ← apFound parser "height".toList
    if ¬ map ∧ (¬ width ∨ ¬ height) then .ok (.error "Map settings are required".toList)
    else
      let roomName ← argumentParserGetStrCopy parser "name".toList
      let mapPath ← argumentParserGetStrCopy parser "map".toList
      let width ← apGetIntValue parser "width".toList
      let height ← apGetIntValue parser "height".toList
      let parent ← apGetIntValue parser "parent".toList
      let port ← apGetIntValue parser "port".toList
      .ok (.ok
        { roomName
          mapPath
          width := wrapInt 32 width
          height := wrapInt 32 height
          parent
          port := wrapInt 16 port })

/-! ## The world outside -/

structure Environment where
  /-- The contents of the files that can be opened. -/
  files : CString → Option CString
  /-- `shm_game_state_init` succeeds, with a name that its buffer holds. -/
  sharedMemory : CString → Bool
  /-- `socket_init_listen` succeeds. -/
  listens : Nat → Bool
  /-- What the memory held where a template, a map and the players come to lie. -/
  template : MapTemplate
  map : Map
  directions : Nat → Direction
  /-- The values of the loader's locals where nothing is read into them. -/
  width : Nat
  height : Nat
  character : Coordinates → Char
  /-- What `fscanf` makes of a number that `unsigned int` does not hold. -/
  unrepresentable : CString → Nat

/-! ## `map_loader.c` -/

/-- An index is outside `walls_[MAX_MAP_HEIGHT][MAX_MAP_WIDTH]` or
`tiles_[MAX_MAP_HEIGHT][MAX_MAP_WIDTH]`. -/
structure OutOfArrays where
  index : Coordinates

/-- The indices of a loop, all of which have to be in the arrays. -/
def requireInArrays (indices : List Coordinates) : Except OutOfArrays Unit :=
  match indices.find? (¬ ·.InArrays) with
  | none => .ok ()
  | some index => .error { index }

/-- `map_template_init` writes `walls_` in a loop over all cells. -/
def mapLoaderCreateEmptyTemplate (environment : Environment) (width height : Nat) :
    Except OutOfArrays MapTemplate := do
  requireInArrays (cells width height)
  .ok (mapTemplateInit environment.template width height)

/-- `%u`: the number, if there is one, and the rest of the input. -/
def scanUnsigned (environment : Environment) (input : CString) : Option Nat × CString :=
  let (negative, unsigned) := spanSign (skipSpaces input)
  let (digits, rest) := spanDigits 10 unsigned
  if digits = [] then (none, rest)
  else
    let value := digitsValue 10 digits
    let converted := if negative then (2 ^ 64 - value) % 2 ^ 64 else value
    (some (if value < 2 ^ 64 ∧ converted < 2 ^ 32 then converted else environment.unrepresentable input), rest)

/-- `fscanf(file, "%u %u ", &width, &height)` -/
def scanDimensions (environment : Environment) (input : CString) : (Nat × Nat) × CString :=
  match scanUnsigned environment input with
  | (none, rest) => ((environment.width, environment.height), rest)
  | (some width, rest) =>
    match scanUnsigned environment (skipSpaces rest) with
    | (none, rest) => ((width, environment.height), rest)
    | (some height, rest) => ((width, height), skipSpaces rest)

/-- `fscanf(file, "%c ", &c)` -/
def scanChar (environment : Environment) (coordinates : Coordinates) (input : CString) : Char × CString :=
  match input with
  | [] => (environment.character coordinates, [])
  | c :: rest => (c, skipSpaces rest)

/-- The body of the loop over the cells. -/
def loadTile (environment : Environment) (loaded : MapTemplate × CString) (coordinates : Coordinates) :
    MapTemplate × CString :=
  let (c, rest) := scanChar environment coordinates loaded.2
  (if c = '#' then mapTemplateSetWall loaded.1 coordinates else loaded.1, rest)

/-- The template of a file, or the result `NULL` and its message. The loop sets
walls among the cells `map_template_init` has visited. -/
def mapLoaderLoadTemplateFromFile (environment : Environment) (filePath : CString) :
    Except OutOfArrays (Except CString MapTemplate) :=
  match environment.files filePath with
  | none => .ok (.error ("Cannot open file at path: ".toList ++ filePath))
  | some input =>
    let ((width, height), rest) := scanDimensions environment input
    if width < minMapWidth ∨ height < minMapHeight then
      .ok (.error "Dimensions of map are smaller than minimum allowed".toList)
    else if width > maxMapWidth ∨ height > maxMapHeight then
      .ok (.error "Dimensions of map are bigger than maximum allowed".toList)
    else do
      let template ← mapLoaderCreateEmptyTemplate environment width height
      let (template, _) := (cells width height).foldl (loadTile environment) (template, rest)
      .ok (.ok template)

/-! ## `server_init` -/

/-- What `server_init` comes to: `false` before the game state, with its messages,
or a game state and whether the result is `true`. -/
inductive ServerInit where
  | refused (messages : List CString)
  | initialised (gameState : GameState) (result : Bool)

def serverInitTemplate (environment : Environment) (settings : GameSettings) :
    Except OutOfArrays (Except CString MapTemplate) :=
  match settings.mapPath with
  | some mapPath => mapLoaderLoadTemplateFromFile environment mapPath
  | none => do
    let template ← mapLoaderCreateEmptyTemplate environment settings.width settings.height
    .ok (.ok template)

/-- The shared memory comes up, if there is a room name. -/
def sharedMemoryReady (environment : Environment) (settings : GameSettings) : Bool :=
  match settings.roomName with
  | some roomName => environment.sharedMemory roomName
  | none => true

/-- `map_init_from_template` reads `walls_` and writes `tiles_` in a loop over all
cells. -/
def serverInit (environment : Environment) (settings : GameSettings) : Except OutOfArrays ServerInit :=
  if ¬ sharedMemoryReady environment settings then .ok (.refused ["Failed to create shared game state".toList])
  else do
    match ← serverInitTemplate environment settings with
    | .error message => .ok (.refused [message, "Failed to load map template".toList])
    | .ok template =>
      requireInArrays (cells (mapTemplateGetWidth template) (mapTemplateGetHeight template))
      let gameState := gameStateInit environment.map environment.directions template
      .ok (.initialised gameState (settings.port = settingNoPort ∨ environment.listens settings.port))

/-- `server_init` from the name of the shared memory on, which is formatted first. -/
def serverInitNamed (environment : Environment) (settings : GameSettings) :
    Except BufferOverflow (Except OutOfArrays ServerInit) :=
  match settings.roomName with
  | some roomName => do
    let _ ← allocateAndFormatName roomName
    .ok (serverInit environment settings)
  | none => .ok (serverInit environment settings)

end SnakePosix
