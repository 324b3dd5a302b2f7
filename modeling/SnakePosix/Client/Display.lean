import SnakePosix.Client.Renderer

/-! The threads of `socket_client_run` that the screen depends on: the main thread
with its loop over the server's messages, the input thread, which redraws after a
resize, and the renderer. -/
namespace SnakePosix

/-- The calls of the renderer in the loop of `socket_client_run`. -/
inductive CallSite where
  | map
  | tileChange
  | playerState
  deriving DecidableEq, Repr

structure Display where
  client : SocketClient
  /-- The main thread's last call of the renderer. -/
  site : CallSite
  renderer : Renderer

inductive DisplayStep where
  | message (message : SocketMessage)
  | resize
  | render
  | proceed (user : RendererUser)
  | destroy
  | spuriousWake

/-- The main thread calls the renderer. -/
def Display.callAt (self : Display) (site : CallSite) (command : RendererCommand) : Display :=
  { self with site, renderer := self.renderer.call .main command }

/-- A message, read while the main thread is in no call and its loop goes on; `none`
is an access out of range. -/
def Display.receive (self : Display) (message : SocketMessage) : Option Display :=
  match self.renderer.destroying, self.renderer.calls .main, self.client.state with
  | .absent, .idle, .connecting | .absent, .idle, .playing => do
    let client ← socketClientProcess self.client message
    match message with
    | .map _ => some ({ self with client }.callAt .map (.redraw client.lastStatus))
    | .tileChange data =>
      some ({ self with client }.callAt .tileChange (.update data.row data.column data.tile))
    | .playerState status _ =>
      if status ≠ self.client.lastStatus then
        some ({ self with client }.callAt .playerState (.redraw client.lastStatus))
      else some { self with client }
    | _ => some { self with client }
  | _, _, _ => some self

def Display.step (self : Display) : DisplayStep → Except Unit Display
  | .message message =>
    match self.receive message with
    | some next => .ok next
    | none => .error ()
  | .resize => .ok { self with renderer := self.renderer.call .input (.redraw self.client.lastStatus) }
  | .render => .ok { self with renderer := self.renderer.render self.client.map }
  | .proceed user => .ok { self with renderer := self.renderer.proceed user }
  | .destroy => .ok { self with renderer := self.renderer.destroy }
  | .spuriousWake => .ok { self with renderer := self.renderer.signal }

def Display.run (self : Display) (steps : List DisplayStep) : Except Unit Display :=
  steps.foldlM Display.step self

/-- Before the first message; `tiles` is what the memory of the map held. -/
def Display.start (tiles : Coordinates → MapTile) (screen : Screen) : Display where
  client :=
    { state := .connecting
      map := mapInit { tiles, width := 0, height := 0 } 5 5
      lastStatus := .notConnected
      lastDirection := .up }
  site := .playerState
  renderer := .start screen

end SnakePosix
