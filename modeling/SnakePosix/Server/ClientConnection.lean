import SnakePosix.Client.SocketClient
import SnakePosix.Server.Game

/-! One connection's send thread beside the server's ticking, after
`client_connection.c` and `ticker.c`. A step is what one of them does under a
lock, or one message read by the client. Only the messages that carry tiles are
kept; a player's state on its way to the client changes no map. -/
namespace SnakePosix

/-! ## `client_connection.c` -/

def clientConnectionSendMap (wire : List SocketMessage) (map : Map) : List SocketMessage :=
  wire ++ [socketMessageInitMap map]

def clientConnectionSendChangelog (wire : List SocketMessage) (changelog : Changelog) : List SocketMessage :=
  wire ++ changelog.map fun change =>
    socketMessageInitTileChange change.coordinates.row change.coordinates.column change.tileData

/-- Where `client_connection_send_thread_main` is: before `ticker_observer_init`,
before the copy of the first map, at the loop's wait, or past it with the number
of ticks passed and the copy of the map or the changelog still to come. -/
inductive SendThread where
  | connected
  | observing
  | waiting
  | woken (ticksPassed : Nat)
  deriving DecidableEq, Repr

/-! ## Server, connection and client -/

/-- What an observer of the whole system writes down; no step reads it. -/
structure Record where
  /-- The map before the first locked section and after each. -/
  history : List Map
  /-- The ticker's turns so far. -/
  ticks : Nat
  /-- The locked sections before the connection's last copy. -/
  copied : Nat
  /-- The ticker's turns before the wait last returned. -/
  wokenAt : Nat
  /-- The same for the last iteration that is finished. -/
  served : Option Nat

/-- The locked sections so far. -/
def Record.sections (self : Record) : Nat := self.history.length - 1

structure Connection where
  game : Game
  /-- The server has left the locked section of `server_tick` and not yet called
  `ticker_tick`. -/
  ticking : Bool
  thread : SendThread
  observer : TickerObserver
  wire : List SocketMessage
  client : Option SocketClient
  record : Record

inductive ConnectionStep where
  | lockedSection (rng : Rng)
  | tickerTick
  | operate (action : Action)
  | observerInit
  | mapCopy
  | waitReturn
  | changelogCopy
  | receive

/-- A copy of the map or the changelog is made, and its messages are sent. -/
def Connection.send (self : Connection) (wire : List SocketMessage) : Connection :=
  { self with
    thread := .waiting
    wire
    record := { self.record with copied := self.record.sections } }

def Connection.sendMap (self : Connection) : Connection :=
  self.send (clientConnectionSendMap self.wire self.game.server.gameState.map)

def Connection.sendChangelog (self : Connection) : Connection :=
  self.send (clientConnectionSendChangelog self.wire self.game.server.gameState.changelog)

/-- The end of an iteration is written down. -/
def Connection.served (self : Connection) : Connection :=
  { self with record := { self.record with served := some self.record.wokenAt } }

/-- A step that is not the next one of its thread does nothing. -/
def Connection.step (self : Connection) : ConnectionStep → Except Halt Connection
  | .lockedSection rng =>
    if self.ticking then .ok self
    else do
      let (server, _) ← serverTickLocked self.game.server rng
      .ok { self with
        game := { self.game with server }
        ticking := true
        record := { self.record with history := self.record.history ++ [server.gameState.map] } }
  | .tickerTick =>
    if self.ticking then
      .ok { self with
        game := { self.game with server := self.game.server.tick }
        ticking := false
        record := { self.record with ticks := self.record.ticks + 1 } }
    else .ok self
  | .operate action => .ok { self with game := self.game.operate action }
  | .observerInit =>
    match self.thread with
    | .connected =>
      .ok { self with thread := .observing, observer := tickerObserverInit self.game.server.gameState.ticker }
    | _ => .ok self
  | .mapCopy =>
    match self.thread with
    | .observing => .ok self.sendMap
    | .woken ticksPassed => if ticksPassed > 1 then .ok self.sendMap.served else .ok self
    | _ => .ok self
  | .waitReturn =>
    match self.thread with
    | .waiting =>
      match tickerObserverWaitForNextTick self.observer self.game.server.gameState.ticker with
      | none => .ok self
      | some (ticksPassed, observer) =>
        .ok { self with
          thread := .woken ticksPassed
          observer
          record := { self.record with wokenAt := self.record.ticks } }
    | _ => .ok self
  | .changelogCopy =>
    match self.thread with
    | .woken ticksPassed => if ticksPassed > 1 then .ok self else .ok self.sendChangelog.served
    | _ => .ok self
  | .receive =>
    match self.wire with
    | [] => .ok self
    | message :: rest =>
      .ok { self with client := self.client.bind (socketClientProcess · message), wire := rest }

def Connection.run (self : Connection) (steps : List ConnectionStep) : Except Halt Connection :=
  steps.foldlM Connection.step self

/-- A server just initialised and a connection whose CONNECTED message has been
sent; `tiles` is what the memory of the client's map held. -/
def Connection.start (game : Game) (tiles : Coordinates → MapTile) : Connection where
  game := game
  ticking := false
  thread := .connected
  observer := { lastTick := 0 }
  wire := [socketMessageInitConnected]
  client := some
    { state := .connecting
      map := mapInit { tiles, width := 0, height := 0 } 5 5
      lastStatus := .notConnected
      lastDirection := .up }
  record := { history := [game.server.gameState.map], ticks := 0, copied := 0, wokenAt := 0, served := none }

/-- The client once it has read everything that is on its way to it. -/
def Connection.delivered (self : Connection) : Option SocketClient :=
  self.client.bind fun client => self.wire.foldlM socketClientProcess client

end SnakePosix
