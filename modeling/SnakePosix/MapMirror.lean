import SnakePosix.MapSnapshot
import SnakePosix.SnakeRuns
import SnakePosix.Server.ClientConnection

/-! A remote client's map follows the server's. The invariant ties the client's
map, once it has read what is on its way, to the server's map at the connection's
last copy; a copy of the changelog keeps it as long as the changelog has not been
replaced twice since then. -/
namespace SnakePosix.MapMirror
open MapProofs MapSnapshot Torus TickTurns ChangelogReplay GameRuns SnakeRuns GuardedRuns

variable {width height : Nat} {self next : Connection} {client : SocketClient}

/-! ## What the client makes of the messages -/

/-- A map message leaves the client with the map it was made from. -/
theorem process_map (map : Map) (widthBound : map.width ≤ maxMapWidth) (heightBound : map.height ≤ maxMapHeight)
    (client : SocketClient) :
    ∃ copy, socketClientProcess client (socketMessageInitMap map) = some { client with map := copy } ∧
      Agree copy map := by
  obtain ⟨copy, applied, size, same⟩ := deserializeToMap_initMap map client.map widthBound heightBound
  refine ⟨copy, ?_, size, same⟩
  simp only [socketMessageInitMap] at applied ⊢
  simp only [socketClientProcess, applied, Option.bind_eq_bind, Option.bind_some]

/-- Tile changes leave the client with its map after a replay. -/
theorem process_changes (changelog : Changelog) (inside : ∀ change ∈ changelog, change.coordinates.InArrays)
    (client : SocketClient) :
    (changelog.map fun change => socketMessageInitTileChange change.coordinates.row change.coordinates.column
        change.tileData).foldlM socketClientProcess client =
      some { client with map := replayChanges client.map changelog } := by
  induction changelog generalizing client with
  | nil => rfl
  | cons change rest ih =>
    have here := inside change List.mem_cons_self
    have processed : socketClientProcess client (socketMessageInitTileChange change.coordinates.row
        change.coordinates.column change.tileData) =
          some { client with map := mapSetTileState client.map change.coordinates change.tileData } := by
      simp only [socketMessageInitTileChange, socketClientProcess, mapTilesWrite, if_pos here,
        Option.bind_eq_bind, Option.bind_some]
    rw [List.map_cons, List.foldlM_cons, processed]
    exact ih (fun change member => inside change (List.mem_cons_of_mem _ member)) _

/-- A message that is read was on its way before. -/
theorem delivered_receive (client : Option SocketClient) (message : SocketMessage) (rest : List SocketMessage) :
    ((client.bind (socketClientProcess · message)).bind fun client => rest.foldlM socketClientProcess client) =
      client.bind fun client => (message :: rest).foldlM socketClientProcess client := by
  cases client with
  | none => rfl
  | some client => rfl

/-! ## The server's side -/

/-- The history ends with the server's map, and the changelog carries a copy of
either of the last two maps to it. -/
structure ServerSide (width height : Nat) (game : Game) (ticking : Bool) (history : List Map) (ticks : Nat) :
    Prop where
  steady : Steady width height game
  current : history.getLast? = some game.server.gameState.map
  counted : history.length = ticks + (if ticking then 1 else 0) + 1
  inside : ∀ change ∈ game.server.gameState.changelog, change.coordinates.InGrid width height
  carried : ∀ k old map, history[k]? = some old → history.length ≤ k + 2 → Agree map old →
    Agree (replayChanges map game.server.gameState.changelog) game.server.gameState.map

variable {game : Game} {ticking : Bool} {history : List Map} {ticks : Nat}

private theorem agree_between {map server old : Map} {after : Coordinates → MapTile} (same : Agree map old)
    (size : SameSize old server)
    (between : ∀ c, server.InBounds c → old.tiles c = server.tiles c ∨ old.tiles c = after c) (c : Coordinates)
    (inside : server.InBounds c) : map.tiles c = server.tiles c ∨ map.tiles c = after c := by
  rw [same.2 c ((inBounds_sameSize size).mpr inside)]
  exact between c inside

/-- A locked section adds its map to the history. -/
theorem serverSide_section (sizes : Sizes width height) (side : ServerSide width height game false history ticks)
    (ran : serverTickLocked game.server rng = .ok (server', alive)) :
    ServerSide width height { game with server := server' } true (history ++ [server'.gameState.map]) ticks where
  steady := serverTickLocked_steady (playable_of_sizes sizes side.steady.sized) side.steady ran
  current := List.getLast?_concat
  counted := by
    have counted := side.counted
    simp only [List.length_append, List.length_singleton, Bool.false_eq_true, if_false] at counted ⊢
    simp only [if_true]
    omega
  inside := serverTickLocked_changes sizes side.steady ran
  carried := by
    intro k old map position recent same
    have playable := playable_of_sizes sizes side.steady.sized
    have size := (serverTickLocked_logged playable side.steady.cached ran).1
    have replay := replay_between_ticks playable side.steady.cached ran map
    rw [List.length_append, List.length_singleton] at recent
    have current := side.current
    rw [List.getLast?_eq_getElem?] at current
    rcases Nat.lt_or_ge k history.length with before | after
    · rw [List.getElem?_append_left before] at position
      have last : history.length - 1 = k := by omega
      rw [last, position] at current
      obtain rfl := Option.some.inj current
      exact replay same.1 (agree_between same ⟨rfl, rfl⟩ fun _ _ => Or.inl rfl)
    · rw [List.getElem?_append_right after] at position
      rw [List.getElem?_singleton] at position
      split at position
      case isFalse => cases position
      obtain rfl := Option.some.inj position
      have resized : SameSize map game.server.gameState.map := same.1.trans size
      exact replay resized (agree_between same size fun _ _ => Or.inr rfl)

theorem serverSide_tick (side : ServerSide width height game true history ticks) :
    ServerSide width height { game with server := game.server.tick } false history (ticks + 1) where
  steady := tick_steady side.steady
  current := side.current
  counted := side.counted
  inside := side.inside
  carried := side.carried

theorem serverSide_operate (side : ServerSide width height game ticking history ticks) (action : Action) :
    ServerSide width height (game.operate action) ticking history ticks where
  steady := operate_steady side.steady action
  current := by
    rw [operate_map]
    exact side.current
  counted := side.counted
  inside := by
    rw [operate_changelog]
    exact side.inside
  carried := by
    rw [operate_changelog, operate_map]
    exact side.carried

/-! ## The connection's side -/

/-- Once the client has read what is on its way, its map is the server's at the
connection's last copy; and that copy is no older than the wait that led to it. -/
structure ClientSide (connection : Connection) : Prop where
  reading : ∃ client, connection.delivered = some client
  copied : connection.thread ≠ .connected → connection.thread ≠ .observing → ∃ client copy,
    connection.delivered = some client ∧
      connection.record.history[connection.record.copied]? = some copy ∧ Agree client.map copy
  awake : ∀ ticksPassed, connection.thread = .woken ticksPassed → connection.record.wokenAt ≤ connection.record.ticks
  served : ∀ t, connection.record.served = some t →
    t ≤ connection.record.copied ∧ connection.thread ≠ .connected ∧ connection.thread ≠ .observing

/-- The send thread's next step is the copy of the changelog. -/
def SendsChangelog (self : Connection) : Prop :=
  match self.thread with
  | .woken ticksPassed => ¬ ticksPassed > 1
  | _ => False

/-- A copy of the changelog comes no later than the second locked section after
the connection's last copy: until then the changelog of the first is not lost. -/
def Timely (self : Connection) : ConnectionStep → Prop
  | .changelogCopy => SendsChangelog self → self.record.sections ≤ self.record.copied + 1
  | _ => True

instance (self : Connection) : Decidable (SendsChangelog self) := by
  unfold SendsChangelog
  split <;> infer_instance

instance (self : Connection) : DecidablePred (Timely self) := by
  intro step
  unfold Timely
  split <;> infer_instance

/-- Server and connection together. -/
structure Mirrored (width height : Nat) (connection : Connection) : Prop where
  server : ServerSide width height connection.game connection.ticking connection.record.history
    connection.record.ticks
  client : ClientSide connection

/-- A step of the server only adds to the record. -/
private theorem clientSide_later (side : ClientSide self) (thread : next.thread = self.thread)
    (delivered : next.delivered = self.delivered) (copied : next.record.copied = self.record.copied)
    (wokenAt : next.record.wokenAt = self.record.wokenAt) (served : next.record.served = self.record.served)
    (ticks : self.record.ticks ≤ next.record.ticks)
    (history : ∀ (k : Nat) (map : Map), self.record.history[k]? = some map → next.record.history[k]? = some map) :
    ClientSide next where
  reading := by
    rw [delivered]
    exact side.reading
  copied := by
    intro opened observed
    rw [thread] at opened observed
    obtain ⟨client, copy, read, position, same⟩ := side.copied opened observed
    rw [delivered, copied]
    exact ⟨client, copy, read, history _ _ position, same⟩
  awake := by
    intro ticksPassed woken
    rw [thread] at woken
    rw [wokenAt]
    exact Nat.le_trans (side.awake ticksPassed woken) ticks
  served := by
    intro t finished
    rw [served] at finished
    rw [copied, thread]
    exact side.served t finished

/-- What is on its way grows at its end. -/
private theorem delivered_append (client : Option SocketClient) (wire more : List SocketMessage) :
    (client.bind fun client => (wire ++ more).foldlM socketClientProcess client) =
      (client.bind fun client => wire.foldlM socketClientProcess client).bind fun client =>
        more.foldlM socketClientProcess client := by
  cases client with
  | none => rfl
  | some client => exact List.foldlM_append

/-! ## Steps of the send thread -/

/-- An iteration was finished at a copy, and the copy at a locked section. -/
private theorem served_sections (mirrored : Mirrored width height self) (finished : self.record.served = some t) :
    t ≤ self.record.sections := by
  obtain ⟨within, opened, observed⟩ := mirrored.client.served t finished
  obtain ⟨client, copy, read, position, same⟩ := mirrored.client.copied opened observed
  obtain ⟨present, -⟩ := List.getElem?_eq_some_iff.mp position
  unfold Record.sections
  omega

private theorem ticks_sections (mirrored : Mirrored width height self) :
    self.record.ticks ≤ self.record.sections := by
  have counted := mirrored.server.counted
  unfold Record.sections
  omega

/-- What is sent keeps the mirror if it leaves the client with the server's map. -/
private theorem send_mirrored (mirrored : Mirrored width height self) (wire : List SocketMessage)
    (delivered : ∃ client, (self.send wire).delivered = some client ∧
      Agree client.map self.game.server.gameState.map) : Mirrored width height (self.send wire) where
  server := mirrored.server
  client := by
    obtain ⟨client, read, same⟩ := delivered
    have current := mirrored.server.current
    rw [List.getLast?_eq_getElem?] at current
    exact ⟨⟨client, read⟩, fun _ _ => ⟨client, _, read, current, same⟩, nofun,
      fun t finished => ⟨served_sections mirrored finished, nofun, nofun⟩⟩

private theorem sendMap_mirrored (widthBound : width ≤ maxMapWidth) (heightBound : height ≤ maxMapHeight)
    (mirrored : Mirrored width height self) : Mirrored width height self.sendMap := by
  have sized := mirrored.server.steady.sized
  obtain ⟨client, read⟩ := mirrored.client.reading
  obtain ⟨copy, processed, same⟩ := process_map self.game.server.gameState.map (sized.1 ▸ widthBound)
    (sized.2 ▸ heightBound) client
  refine send_mirrored mirrored _ ⟨{ client with map := copy }, ?_, same⟩
  refine (delivered_append self.client self.wire _).trans ?_
  rw [show (self.client.bind fun client => self.wire.foldlM socketClientProcess client) = some client from read,
    Option.bind_some, List.foldlM_cons, processed]
  rfl

/-- The changelog is the difference to the map of the last copy, unless two
locked sections have run since. -/
private theorem sendChangelog_mirrored (widthBound : width ≤ maxMapWidth) (heightBound : height ≤ maxMapHeight)
    (mirrored : Mirrored width height self) (opened : self.thread ≠ .connected) (observed : self.thread ≠ .observing)
    (timely : self.record.sections ≤ self.record.copied + 1) : Mirrored width height self.sendChangelog := by
  obtain ⟨client, copy, read, position, same⟩ := mirrored.client.copied opened observed
  have inside : ∀ change ∈ self.game.server.gameState.changelog, change.coordinates.InArrays := by
    intro change member
    have grid := mirrored.server.inside change member
    exact ⟨Nat.lt_of_lt_of_le grid.1 heightBound, Nat.lt_of_lt_of_le grid.2 widthBound⟩
  have recent : self.record.history.length ≤ self.record.copied + 2 := by
    unfold Record.sections at timely
    omega
  have carried := mirrored.server.carried _ copy client.map position recent same
  refine send_mirrored mirrored _
    ⟨{ client with map := replayChanges client.map self.game.server.gameState.changelog }, ?_, carried⟩
  refine (delivered_append self.client self.wire _).trans ?_
  rw [show (self.client.bind fun client => self.wire.foldlM socketClientProcess client) = some client from read,
    Option.bind_some]
  exact process_changes _ inside client

/-- An iteration of the loop ends with a copy, and the wait it began with is
then behind. -/
private theorem served_mirrored (mirrored : Mirrored width height self) (waiting : self.thread = .waiting)
    (awake : self.record.wokenAt ≤ self.record.copied) : Mirrored width height self.served where
  server := mirrored.server
  client := by
    refine ⟨mirrored.client.reading, mirrored.client.copied, mirrored.client.awake, fun t finished => ?_⟩
    obtain rfl := Option.some.inj finished
    exact ⟨awake, by simp [Connection.served, waiting], by simp [Connection.served, waiting]⟩

/-! ## Whole runs -/

/-- The three steps of the server. -/
private theorem section_mirrored (sizes : Sizes width height) (mirrored : Mirrored width height self)
    (ran : self.step (.lockedSection rng) = .ok next) : Mirrored width height next := by
  simp only [Connection.step] at ran
  split at ran
  case isTrue =>
    cases ran
    exact mirrored
  case isFalse idle =>
    obtain ⟨⟨server', alive⟩, ticked, ran⟩ := bind_ok.mp ran
    cases ran
    have side := mirrored.server
    rw [Bool.eq_false_of_not_eq_true idle] at side
    refine ⟨serverSide_section sizes side ticked, clientSide_later mirrored.client rfl rfl rfl rfl rfl
      (Nat.le_refl _) fun k map position => ?_⟩
    obtain ⟨present, -⟩ := List.getElem?_eq_some_iff.mp position
    exact (List.getElem?_append_left present).trans position

private theorem tick_mirrored (mirrored : Mirrored width height self)
    (ran : self.step .tickerTick = .ok next) : Mirrored width height next := by
  simp only [Connection.step] at ran
  split at ran
  case isTrue busy =>
    cases ran
    have side := mirrored.server
    rw [busy] at side
    exact ⟨serverSide_tick side, clientSide_later mirrored.client rfl rfl rfl rfl rfl (Nat.le_succ _)
      fun _ _ position => position⟩
  case isFalse =>
    cases ran
    exact mirrored

private theorem operate_mirrored (mirrored : Mirrored width height self) (action : Action) :
    Mirrored width height { self with game := self.game.operate action } :=
  ⟨serverSide_operate mirrored.server action, clientSide_later mirrored.client rfl rfl rfl rfl rfl
    (Nat.le_refl _) fun _ _ position => position⟩

/-- The steps of the send thread. -/
private theorem mapCopy_mirrored (widthBound : width ≤ maxMapWidth) (heightBound : height ≤ maxMapHeight)
    (mirrored : Mirrored width height self) (ran : self.step .mapCopy = .ok next) : Mirrored width height next := by
  simp only [Connection.step] at ran
  have sent := sendMap_mirrored widthBound heightBound mirrored
  split at ran
  case h_1 =>
    cases ran
    exact sent
  case h_2 ticksPassed woken =>
    split at ran
    case isTrue =>
      cases ran
      exact served_mirrored sent rfl
        (Nat.le_trans (mirrored.client.awake ticksPassed woken) (ticks_sections mirrored))
    case isFalse =>
      cases ran
      exact mirrored
  case h_3 =>
    cases ran
    exact mirrored

private theorem waitReturn_mirrored (mirrored : Mirrored width height self)
    (ran : self.step .waitReturn = .ok next) : Mirrored width height next := by
  simp only [Connection.step] at ran
  split at ran
  case h_1 waiting =>
    split at ran
    case h_1 =>
      cases ran
      exact mirrored
    case h_2 ticksPassed observer returned =>
      cases ran
      have side := mirrored.client
      have opened : self.thread ≠ .connected := by simp [waiting]
      have observed : self.thread ≠ .observing := by simp [waiting]
      exact ⟨mirrored.server, side.reading, fun _ _ => side.copied opened observed, fun _ _ => Nat.le_refl _,
        fun t finished => ⟨(side.served t finished).1, nofun, nofun⟩⟩
  case h_2 =>
    cases ran
    exact mirrored

private theorem changelogCopy_mirrored (widthBound : width ≤ maxMapWidth) (heightBound : height ≤ maxMapHeight)
    (mirrored : Mirrored width height self) (timely : Timely self .changelogCopy)
    (ran : self.step .changelogCopy = .ok next) : Mirrored width height next := by
  simp only [Connection.step] at ran
  split at ran
  case h_1 ticksPassed woken =>
    split at ran
    case isTrue =>
      cases ran
      exact mirrored
    case isFalse single =>
      cases ran
      have sends : SendsChangelog self := by
        unfold SendsChangelog
        rw [woken]
        exact single
      have sent := sendChangelog_mirrored widthBound heightBound mirrored (by simp [woken]) (by simp [woken])
        (timely sends)
      exact served_mirrored sent rfl
        (Nat.le_trans (mirrored.client.awake ticksPassed woken) (ticks_sections mirrored))
  case h_2 =>
    cases ran
    exact mirrored

/-- No step loses a change of the map, as long as the changelog is copied in time. -/
theorem step_mirrored (sizes : Sizes width height) (widthBound : width ≤ maxMapWidth)
    (heightBound : height ≤ maxMapHeight) (mirrored : Mirrored width height self) (step : ConnectionStep)
    (timely : Timely self step) (ran : self.step step = .ok next) : Mirrored width height next := by
  cases step with
  | lockedSection rng => exact section_mirrored sizes mirrored ran
  | tickerTick => exact tick_mirrored mirrored ran
  | operate action =>
    cases ran
    exact operate_mirrored mirrored action
  | observerInit =>
    simp only [Connection.step] at ran
    split at ran
    case h_1 connected =>
      cases ran
      exact ⟨mirrored.server, mirrored.client.reading, fun _ observed => absurd rfl observed, nofun,
        fun t finished => absurd connected (mirrored.client.served t finished).2.1⟩
    case h_2 =>
      cases ran
      exact mirrored
  | mapCopy => exact mapCopy_mirrored widthBound heightBound mirrored ran
  | waitReturn => exact waitReturn_mirrored mirrored ran
  | changelogCopy => exact changelogCopy_mirrored widthBound heightBound mirrored timely ran
  | receive =>
    simp only [Connection.step] at ran
    split at ran
    case h_1 =>
      cases ran
      exact mirrored
    case h_2 message rest onWire =>
      cases ran
      refine ⟨mirrored.server, clientSide_later mirrored.client rfl ?_ rfl rfl rfl (Nat.le_refl _)
        fun _ _ position => position⟩
      have read := delivered_receive self.client message rest
      rw [← onWire] at read
      exact read

theorem start_mirrored (map : Map) (directions : Nat → Direction) (cache : PlayerDataCache)
    (template : MapTemplate) (tiles : Coordinates → MapTile) :
    Mirrored template.width template.height
      (Connection.start (Game.start map directions cache template) tiles) where
  server := by
    refine ⟨start_steady map directions cache template, rfl, rfl, nofun, fun k old copy position _ same => ?_⟩
    rcases k with - | k
    · obtain rfl := Option.some.inj position
      exact same
    · cases position
  client := ⟨⟨_, rfl⟩, fun opened => absurd rfl opened, nofun, nofun⟩

/-- The client's map, once it has read what is on its way, is the server's after
some tick numbered `t` or later. -/
def Reflects (self : Connection) (t : Nat) : Prop :=
  ∃ client copy k, self.delivered = some client ∧ t ≤ k ∧ self.record.history[k]? = some copy ∧
    Agree client.map copy

/-- In a run whose changelogs are copied in time, the client of a connection
follows the server's map: every prefix of such a run is one. -/
theorem run_reflects (wide : minMapWidth ≤ template.width) (widthBound : template.width ≤ maxMapWidth)
    (high : minMapHeight ≤ template.height) (heightBound : template.height ≤ maxMapHeight)
    (guarded : Guarded Connection.step Timely
      (Connection.start (Game.start map directions cache template) tiles) steps)
    (ran : (Connection.start (Game.start map directions cache template) tiles).run steps = .ok final) :
    ∀ t, final.record.served = some t → Reflects final t := by
  intro t finished
  have sizes := sizes_of_limits wide widthBound high heightBound
  have mirrored := run_preserves (Mirrored template.width template.height) steps
    (fun state step _ next held met stepped =>
      step_mirrored sizes widthBound heightBound held step met stepped)
    (start_mirrored map directions cache template tiles) guarded ran
  obtain ⟨within, opened, observed⟩ := mirrored.client.served t finished
  obtain ⟨client, copy, read, position, same⟩ := mirrored.client.copied opened observed
  exact ⟨client, copy, _, read, within, position, same⟩

/-- A connection to the empty server, before it has done anything. -/
def freshConnection : Connection := Connection.start emptyGame fun _ => { order := 0, type := .empty, player := 0 }

/-- One iteration of the loop: a player's snake and its fruit are put on the map. -/
def firstTick : List ConnectionStep :=
  [.operate .register, .observerInit, .mapCopy, .receive, .lockedSection (drawing [2, 2, 9, 9]), .tickerTick,
    .waitReturn, .changelogCopy, .receive]

private theorem firstTick_timely : Guarded Connection.step Timely freshConnection firstTick := by decide +kernel

private theorem firstTick_served : ∃ final, freshConnection.run firstTick = .ok final ∧
    final.record.served = some 1 := by decide +kernel

theorem run_reflects_firstTick : ∃ final, freshConnection.run firstTick = .ok final ∧
    final.record.served = some 1 ∧ Reflects final 1 := by
  obtain ⟨final, ran, finished⟩ := firstTick_served
  exact ⟨final, ran, finished, run_reflects (by decide) (by decide) (by decide) (by decide) firstTick_timely ran
    1 finished⟩

/-- The second tick comes between the end of the wait and the copy of the
changelog, and clears it. -/
def tickBetween : List ConnectionStep :=
  [.operate .register, .observerInit, .mapCopy, .lockedSection (drawing [2, 2, 9, 9]), .tickerTick, .waitReturn,
    .lockedSection (drawing []), .changelogCopy]

private theorem tickBetween_loses : ∃ final, freshConnection.run tickBetween = .ok final ∧
    final.record.served = some 1 ∧ ∀ client ∈ final.delivered, ∀ copy ∈ final.record.history.drop 1,
      copy.InBounds ⟨9, 9⟩ ∧ client.map.tiles ⟨9, 9⟩ ≠ copy.tiles ⟨9, 9⟩ := by decide +kernel

/-- The client never hears of the fruit at the cell (9, 9). -/
theorem run_reflects_tickBetween : ∃ final, freshConnection.run tickBetween = .ok final ∧
    final.record.served = some 1 ∧ ¬ Reflects final 1 := by
  obtain ⟨final, ran, finished, lost⟩ := tickBetween_loses
  refine ⟨final, ran, finished, ?_⟩
  rintro ⟨client, copy, k, read, later, position, same⟩
  have member : copy ∈ final.record.history.drop 1 := by
    refine List.mem_of_getElem? (i := k - 1) ?_
    rw [List.getElem?_drop, show 1 + (k - 1) = k by omega]
    exact position
  obtain ⟨inside, differ⟩ := lost client read copy member
  exact differ (same.2 _ inside)

end SnakePosix.MapMirror
