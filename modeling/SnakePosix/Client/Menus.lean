import SnakePosix.Client.Terminal
import SnakePosix.Server.ServerInit

/-! The client's `main.c` with its menus and `server_launcher.c`: from the keys to the
game that is entered. What the menus draw is left out. -/
namespace SnakePosix

/-! ## Menus -/

/-- Why a menu has not come to its end. -/
inductive MenuFault where
  /-- The events so far do not end a prompt. -/
  | waiting
  | overflow (overflow : BufferOverflow)
  deriving DecidableEq, Repr

/-- A menu polls one event after the other. -/
abbrev Menu (α : Type) := StateT (List TbEvent) (Except MenuFault) α

/-- The events up to the one that ends a prompt, and the rest. -/
def spanPrompt : List TbEvent → List TbEvent × List TbEvent
  | [] => ([], [])
  | event :: events =>
    if event.type = tbEventKey ∧ (event.key = tbKeyEnter ∨ event.key = tbKeyEsc) then ([event], events)
    else (event :: (spanPrompt events).1, (spanPrompt events).2)

/-- A prompt takes its own events only. -/
def prompting (read : List TbEvent → Except BufferOverflow (Option α)) : Menu α := fun events =>
  match read (spanPrompt events).1 with
  | .error overflow => .error (.overflow overflow)
  | .ok none => .error .waiting
  | .ok (some result) => .ok (result, (spanPrompt events).2)

/-- `terminal_wait_for_key_press`, which `terminal_show_error` ends with. -/
def terminalWaitForKeyPress : Menu Unit := fun events =>
  match events.dropWhile (·.type ≠ tbEventKey) with
  | [] => .error .waiting
  | _ :: events => .ok ((), events)

/-- The loop around the prompt for a port, which asks again after an invalid one. Every
turn takes an event at least, so their number is enough fuel. -/
def promptPort (memory : Nat → Char) (outPort : Nat) : Nat → Menu (TerminalReadResult × Nat)
  | 0 => fun _ => .error .waiting
  | fuel + 1 => do
    let (result, port) ← prompting (terminalReadPort memory outPort)
    if result = .invalid then do
      terminalWaitForKeyPress
      promptPort memory outPort fuel
    else pure (result, port)

/-! ## `main_menu.c` -/

inductive MainMenuResult where
  | exit
  | privateGame
  | host
  | joinLocal
  | joinRemote
  deriving DecidableEq, Repr

/-- The choice a key stands for. -/
def mainMenuChoice (event : TbEvent) : Option MainMenuResult :=
  if event.type ≠ tbEventKey then none
  else if event.key = tbKeyEsc ∨ event.ch = '5'.toNat then some .exit
  else if event.ch = '1'.toNat then some .privateGame
  else if event.ch = '2'.toNat then some .host
  else if event.ch = '3'.toNat then some .joinLocal
  else if event.ch = '4'.toNat then some .joinRemote
  else none

def mainMenu : Menu MainMenuResult
  | [] => .error .waiting
  | event :: events =>
    match mainMenuChoice event with
    | some result => .ok (result, events)
    | none => mainMenu events

/-! ## `host_menu.c` -/

inductive HostMenuOptions where
  | publicGame
  | privateGame
  deriving DecidableEq, Repr

/-- `RAND_MAX` -/
def randMax : Nat := 2 ^ 31 - 1

/-- What the menu finds: the memory of its buffers, the generator, and the value of
`parent_`, which it leaves alone. -/
structure MenuMemory where
  buffer : Nat → Char
  rng : Rng
  parent : Int
  port : Nat

def hostMenuClampCoordinate (min val max : Nat) : Nat :=
  if val < min then min else if val > max then max else val

/-- `"$--private_%d_%d"` -/
def privateRoomName (rng : Rng) : CString :=
  let (first, rng) := rngUniformDist 0 randMax rng
  let (second, _) := rngUniformDist 0 randMax rng
  "$--private_".toList ++ Nat.toDigits 10 first ++ "_".toList ++ Nat.toDigits 10 second

/-- `sprintf` into a buffer: the text, its null and what was behind. -/
def printBuffer (buffer text : CString) : CString := text ++ '\x00' :: buffer.drop (text.length + 1)

/-- The buffer with the room's name. -/
def hostMenuRoomName (options : HostMenuOptions) (memory : MenuMemory) : Menu (Option CString) := do
  match options with
  | .publicGame =>
    let (result, buffer) ← prompting (terminalReadString (localBuffer memory.buffer))
    pure (if result = .cancelled then none else some buffer)
  | .privateGame => pure (some (printBuffer (localBuffer memory.buffer) (privateRoomName memory.rng)))

def hostMenuPort (options : HostMenuOptions) (memory : MenuMemory) : Menu (Option Nat) := do
  match options with
  | .privateGame => pure (some settingNoPort)
  | .publicGame =>
    let events ← get
    let (result, port) ← promptPort memory.buffer settingNoPort (events.length + 1)
    pure (match result with
      | .cancelled => none
      | .empty => some settingNoPort
      | _ => some port)

/-- The prompts for the size of a map without walls. -/
def hostMenuSize (memory : MenuMemory) : Menu (Option (Nat × Nat)) := do
  let (result, width) ← prompting (terminalReadCoordinate memory.buffer 0)
  if result = .cancelled then pure none
  else do
    let (result, height) ← prompting (terminalReadCoordinate memory.buffer 0)
    if result = .cancelled then pure none
    else pure (some (hostMenuClampCoordinate minMapWidth width maxMapWidth,
      hostMenuClampCoordinate minMapHeight height maxMapHeight))

/-- A string in a buffer, if it is not empty. -/
def nonemptyString (buffer : CString) : Option CString :=
  if (bufferString buffer).length > 0 then some (bufferString buffer) else none

/-- The map's path or its size, from the buffer the room's name was in. -/
def hostMenuMap (memory : MenuMemory) (buffer : CString) : Menu (Option (Option CString × Nat × Nat)) := do
  let (result, buffer) ← prompting (terminalReadString buffer)
  if result = .cancelled then pure none
  else
    match nonemptyString buffer with
    | some mapPath => pure (some (some mapPath, 0, 0))
    | none => do
      let size ← hostMenuSize memory
      pure (size.map fun (width, height) => (none, width, height))

/-- `none` is the result `NULL`. -/
def hostMenu (options : HostMenuOptions) (memory : MenuMemory) : Menu (Option GameSettings) := do
  match ← hostMenuRoomName options memory with
  | none => pure none
  | some buffer =>
    let roomName := nonemptyString buffer
    match ← hostMenuPort options memory with
    | none => pure none
    | some port =>
      if roomName = none ∧ port = settingNoPort then do
        terminalWaitForKeyPress
        pure none
      else
        match ← hostMenuMap memory buffer with
        | none => pure none
        | some (mapPath, width, height) =>
          pure (some { roomName, mapPath, width, height, parent := memory.parent, port })

/-! ## `connect_menu.c` -/

def connectMenuLocal (memory : MenuMemory) : Menu (Option CString) := do
  let (result, buffer) ← prompting (terminalReadString (localBuffer memory.buffer))
  pure (if result = .cancelled then none else nonemptyString buffer)

def connectMenuRemote (memory : MenuMemory) : Menu (Option (CString × Nat)) := do
  let (result, buffer) ← prompting (terminalReadString (localBuffer memory.buffer))
  if result = .cancelled then pure none
  else
    match nonemptyString buffer with
    | none => pure none
    | some hostname => do
      let events ← get
      let (result, port) ← promptPort memory.buffer memory.port (events.length + 1)
      pure (if result = .cancelled ∨ result = .empty then none else some (hostname, port))

/-! ## `server_launcher.c` -/

/-- `"%d"` -/
def formatInt : Int → CString
  | .ofNat value => Nat.toDigits 10 value
  | .negSucc value => '-' :: Nat.toDigits 10 (value + 1)

def serverLauncherRoomArgs (settings : GameSettings) : List CString :=
  match settings.roomName with
  | some roomName => ["-n".toList, roomName]
  | none => []

def serverLauncherPortArgs (settings : GameSettings) : List CString :=
  if settings.port ≠ settingNoPort then ["-p".toList, formatInt settings.port] else []

def serverLauncherMapArgs (settings : GameSettings) : List CString :=
  match settings.mapPath with
  | some mapPath => ["-m".toList, mapPath]
  | none => ["-w".toList, formatInt settings.width, "-h".toList, formatInt settings.height]

/-- The argument vector of the server process, up to its null. -/
def serverLauncherArgs (settings : GameSettings) : List CString :=
  "./server".toList :: (serverLauncherRoomArgs settings ++ serverLauncherPortArgs settings ++
    serverLauncherMapArgs settings ++ ["-a".toList, formatInt settings.parent])

/-! ## `main.c` -/

/-- A game the client enters. -/
inductive ClientGame where
  /-- `shm_client_run` -/
  | sharedMemory (roomName : CString)
  /-- `socket_client_run` -/
  | socket (hostname : CString) (port : Nat)
  deriving DecidableEq, Repr

/-- What one turn of the main loop comes to. -/
inductive ClientTurn where
  | exit
  | menu
  /-- A server is launched with these arguments; if it says that it is up, the client
  enters the game. -/
  | hosted (argv : List CString) (game : ClientGame)
  | joined (game : ClientGame)
  deriving DecidableEq, Repr

/-- The game that was hosted. -/
def hostedGame (settings : GameSettings) : ClientGame :=
  match settings.roomName with
  | some roomName => .sharedMemory roomName
  | none => .socket "localhost".toList settings.port

/-- `server_launcher_launch_server_process` sets `parent_` to the client's own
process id. -/
def clientHost (options : HostMenuOptions) (memory : MenuMemory) (pid : Int) : Menu ClientTurn := do
  match ← hostMenu options memory with
  | none => pure .menu
  | some settings => pure (.hosted (serverLauncherArgs { settings with parent := pid }) (hostedGame settings))

def clientTurn (memory : MenuMemory) (pid : Int) : Menu ClientTurn := do
  match ← mainMenu with
  | .exit => pure .exit
  | .privateGame => clientHost .privateGame memory pid
  | .host => clientHost .publicGame memory pid
  | .joinLocal =>
    let roomName ← connectMenuLocal memory
    pure (match roomName with
      | some roomName => .joined (.sharedMemory roomName)
      | none => .menu)
  | .joinRemote =>
    let server ← connectMenuRemote memory
    pure (match server with
      | some (hostname, port) => .joined (.socket hostname port)
      | none => .menu)

end SnakePosix
