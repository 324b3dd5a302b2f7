import SnakePosix.Client.SocketClient
import SnakePosix.Foundation.Monitors

/-! The renderer of `renderer.c`: its thread, the command queue it shares with the
main and the input thread, and the two buffers of `termbox2.h` it draws with. -/
namespace SnakePosix
open Monitors

/-! ## `termbox2.h` -/

inductive Color where
  | default
  | red
  | green
  | yellow
  | blue
  | magenta
  | cyan
  | white
  deriving DecidableEq, Repr

structure Cell where
  character : Char
  foreground : Color
  background : Color
  deriving DecidableEq, Repr

/-- The back buffer and the front buffer, which is what the terminal shows. -/
structure Screen where
  width : Nat
  height : Nat
  back : Nat → Nat → Cell
  front : Nat → Nat → Cell

def tbSetCell (self : Screen) (x y : Nat) (character : Char) (foreground background : Color) : Screen :=
  if x < self.width ∧ y < self.height then
    { self with back := Function.update self.back x (Function.update (self.back x) y
        { character, foreground, background }) }
  else self

def tbClear (self : Screen) : Screen :=
  { self with back := fun _ _ => { character := ' ', foreground := .default, background := .default } }

/-- A text of printable ASCII characters. -/
def tbPrint (self : Screen) (x y : Nat) (foreground background : Color) (text : String) : Screen :=
  text.toList.zipIdx.foldl
    (fun screen entry => tbSetCell screen (x + entry.2) y entry.1 foreground background) self

def tbPresent (self : Screen) : Screen := { self with front := self.back }

/-! ## Drawing -/

def foregroundColors : List Color := [.red, .green, .yellow, .blue, .magenta, .cyan]

def rendererGetTileCharacter : MapTileType → Char
  | .player => '*'
  | .wall => '#'
  | .fruit => 'O'
  | _ => ' '

def rendererGetTileColor (tile : MapTile) : Color :=
  if tile.type = .player then foregroundColors.getD (tile.player % foregroundColors.length) .default
  else .default

def rendererUpdateTile (self : Screen) (row column : Nat) (tile : MapTile) : Screen :=
  tbSetCell self (column + 1) (row + 1) (rendererGetTileCharacter tile.type) (rendererGetTileColor tile) .default

/-- The loops of `renderer_redraw_screen` under the map's mutex. -/
def rendererRedrawTiles (self : Screen) (map : Map) : Screen :=
  (cells (mapGetWidth map) (mapGetHeight map)).foldl
    (fun screen cell => rendererUpdateTile screen cell.row cell.column (mapGetTileState map cell)) self

def rendererRedrawBorder (self : Screen) (width height : Nat) : Screen :=
  let horizontal := (List.range (width + 2)).foldl (fun screen i =>
    tbSetCell (tbSetCell screen i 0 ' ' .white .blue) i (height + 1) ' ' .white .blue) self
  (List.range' 1 height).foldl (fun screen i =>
    tbSetCell (tbSetCell screen 0 i ' ' .white .blue) (width + 1) i ' ' .white .blue) horizontal

/-- `PRINT_CONTROL`. -/
def printControl (self : Screen) (height : Nat) (key description : String) (index : Nat) : Screen :=
  let dash := tbPrint self 1 (height + 5 + index) .default .default "-"
  let named := tbPrint dash 3 (height + 5 + index) .yellow .default key
  tbPrint named (5 + key.length) (height + 5 + index) .default .default ("- " ++ description)

def rendererRedrawControls (self : Screen) (height : Nat) (status : PlayerStatus) : Screen :=
  let heading := tbPrint self 0 (height + 4) .default .default "Controls:"
  let dash := tbPrint heading 1 (height + 5) .default .default "-"
  let leave := printControl dash height "ESC" "leave the game" 0
  if status = .dead then
    printControl leave height "R" "respawn" 1
  else if status = .playing then
    printControl (printControl leave height "arrows" "control the snake movement" 1)
      height "P" "pause the game" 2
  else if status = .paused then
    printControl leave height "U" "unpause the game" 1
  else leave

/-! ## Commands -/

/-- Every redraw is of the client's one map. -/
inductive RendererCommand where
  | redraw (status : PlayerStatus)
  | update (row column : Nat) (tile : MapTile)

/-- The queue after the critical section of `renderer_redraw` or `renderer_update`. -/
def rendererEnqueue (queue : List RendererCommand) : RendererCommand → List RendererCommand
  | .redraw status => [] ++ [.redraw status]
  | .update row column tile => queue ++ [.update row column tile]

/-- One turn of the inner loop. What a redraw would paint there, where the other
member of the union is read, is left open. -/
def rendererUpdateCommand (self : Screen) : RendererCommand → Screen
  | .redraw _ => self
  | .update row column tile => rendererUpdateTile self row column tile

/-! ## Threads -/

/-- Where `renderer_main` is. -/
inductive RendererStage where
  | testing
  | locking
  /-- At the condition of the loop around the wait. -/
  | checking
  /-- The queue was empty and `pthread_cond_wait` comes next. -/
  | resolved
  | waiting
  /-- At the test of `shutdown_` after the loop. -/
  | awake
  | popping
  | redrawing (status : PlayerStatus)
  | cleared (status : PlayerStatus)
  | painted (width height : Nat) (status : PlayerStatus)
  | updating (command : RendererCommand)
  | presenting
  | unlocking
  /-- At the unlock before the `break`. -/
  | leaving
  | ended

/-- The threads that call `renderer_redraw` and `renderer_update`. -/
inductive RendererUser where
  | main
  | input
  deriving DecidableEq, Repr

inductive CallStage where
  | idle
  | calling (command : RendererCommand)
  | locked (command : RendererCommand)
  | enqueued
  | signalled

/-- Where `renderer_destroy` is; the main thread calls it once the input thread has
been joined. -/
inductive DestroyStage where
  | absent
  /-- `shutdown_` is set and the signal comes next. -/
  | flagged
  | joining
  | joined
  deriving DecidableEq, Repr

structure Renderer where
  queue : List RendererCommand
  /-- `queue_mutex_` and `queue_cond_`; `none` is the renderer's own thread. -/
  monitor : Monitor (Option RendererUser)
  shutdown : Bool
  screen : Screen
  stage : RendererStage
  calls : RendererUser → CallStage
  destroying : DestroyStage

inductive RendererStep where
  /-- `renderer_main` goes on; `map` is what the shared map holds. -/
  | render (map : Map)
  | call (user : RendererUser) (command : RendererCommand)
  /-- A call goes on. -/
  | proceed (user : RendererUser)
  | destroy
  /-- `pthread_cond_wait` may return without a signal. -/
  | spuriousWake

def Renderer.render (self : Renderer) (map : Map) : Renderer :=
  match self.stage with
  | .testing => { self with stage := if self.shutdown then .ended else .locking }
  | .locking =>
    match self.monitor.lock none with
    | some monitor => { self with monitor, stage := .checking }
    | none => self
  | .checking => { self with stage := if self.shutdown = false ∧ self.queue.isEmpty then .resolved else .awake }
  | .resolved => { self with monitor := self.monitor.wait none, stage := .waiting }
  | .waiting =>
    match self.monitor.resume none with
    | some monitor => { self with monitor, stage := .checking }
    | none => self
  | .awake => { self with stage := if self.shutdown then .leaving else .popping }
  | .popping =>
    match self.queue with
    -- The loop before has seen a command, and nobody else takes any.
    | [] => self
    | .redraw status :: queue => { self with queue, stage := .redrawing status }
    | command :: queue => { self with queue, stage := .updating command }
  | .redrawing status => { self with screen := tbClear self.screen, stage := .cleared status }
  | .cleared status =>
    { self with
      screen := rendererRedrawTiles self.screen map
      stage := .painted (mapGetWidth map) (mapGetHeight map) status }
  | .painted width height status =>
    { self with
      screen := rendererRedrawControls (rendererRedrawBorder self.screen width height) height status
      stage := .presenting }
  | .updating command =>
    match self.queue with
    | [] => { self with screen := rendererUpdateCommand self.screen command, stage := .presenting }
    | next :: queue => { self with queue, screen := rendererUpdateCommand self.screen command, stage := .updating next }
  | .presenting => { self with screen := tbPresent self.screen, stage := .unlocking }
  | .unlocking => { self with monitor := self.monitor.unlock, stage := .testing }
  | .leaving => { self with monitor := self.monitor.unlock, stage := .ended }
  | .ended => self

def Renderer.withCall (self : Renderer) (user : RendererUser) (stage : CallStage) : Renderer :=
  { self with calls := Function.update self.calls user stage }

def Renderer.call (self : Renderer) (user : RendererUser) (command : RendererCommand) : Renderer :=
  match self.destroying, self.calls user with
  | .absent, .idle => self.withCall user (.calling command)
  | _, _ => self

/-- `pthread_cond_signal`: only the renderer's own thread waits. -/
def Renderer.signal (self : Renderer) : Renderer := { self with monitor := self.monitor.wake none }

def Renderer.proceed (self : Renderer) (user : RendererUser) : Renderer :=
  match self.calls user with
  | .idle => self
  | .calling command =>
    match self.monitor.lock (some user) with
    | some monitor => { self with monitor }.withCall user (.locked command)
    | none => self
  | .locked command => { self with queue := rendererEnqueue self.queue command }.withCall user .enqueued
  | .enqueued => self.signal.withCall user .signalled
  | .signalled => { self with monitor := self.monitor.unlock }.withCall user .idle

def Renderer.destroy (self : Renderer) : Renderer :=
  match self.destroying with
  | .absent =>
    match self.calls .main, self.calls .input with
    | .idle, .idle => { self with shutdown := true, destroying := .flagged }
    | _, _ => self
  | .flagged => { self.signal with destroying := .joining }
  | .joining =>
    match self.stage with
    | .ended => { self with destroying := .joined }
    | _ => self
  | .joined => self

def Renderer.step (self : Renderer) : RendererStep → Renderer
  | .render map => self.render map
  | .call user command => self.call user command
  | .proceed user => self.proceed user
  | .destroy => self.destroy
  | .spuriousWake => self.signal

/-- After `renderer_init`, on a terminal of any size and content. -/
def Renderer.start (screen : Screen) : Renderer where
  queue := []
  monitor := .free
  shutdown := false
  screen := screen
  stage := .testing
  calls := fun _ => .idle
  destroying := .absent

end SnakePosix
