import SnakePosix.Client.RemoteDisplay
import SnakePosix.MapMirror
import SnakePosix.ScreenMirror
import SnakePosix.SocketPieces
import SnakePosix.TileRanges

/-! A remote player's screen follows the server's map. What the send thread has not sent
yet and what the client has not read yet bring the client's map to the server's, and
what the renderer has not drawn yet brings the screen to the client's map. Between the
two threads there are bytes, which read as the messages they were written for when
reads and writes are exact. -/
namespace SnakePosix.RemoteScreen
open GuardedRuns MapProofs Torus TickTurns ChangelogReplay GameRuns LockedSections TileRanges RendererShutdown
open ScreenMirror SocketPieces SocketRoundTrip MapSnapshot

variable {width height : Nat} {map copy before after : Map} {message read : SocketMessage} {bytes rest : List UInt8}
  {messages : List SocketMessage} {delivered : Map} {changes : List Change}

/-! ## Exact reads -/

/-- Where the pieces of every read land in their places, the client's calls of `read`
take the message from the bytes that `RemoteDisplay.receive` takes. -/
theorem deserialize_inPlace {memory : Nat → UInt8} {rounds : Nat} {socket after : ReadSide}
    {received : Option SocketMessage} (reliable : Reliable socket)
    (inPlace : ReadsInPlace memory socketMessageReads socket)
    (ran : socketMessageDeserializeCalls memory rounds socket = some (received, after)) :
    received.map (·, after.stream) = socketMessageDeserializeFromSocket socket.stream := by
  rw [← socketMessageReads_exact]
  exact reads_inPlace reliable inPlace ran

/-! ## Messages and what they do to a map -/

/-- The part of `socketClientProcess` that concerns the map. -/
def messageMap (map : Map) : SocketMessage → Option Map
  | .map data => socketMessageDeserializeToMap (.map data) map
  | .tileChange data => mapTilesWrite (mapSetTileState · · data.tile) map { row := data.row, column := data.column }
  | _ => some map

theorem process_messageMap (client : SocketClient) (message : SocketMessage) :
    (socketClientProcess client message).map SocketClient.map = messageMap client.map message := by
  cases message with
  | map data =>
    simp only [socketClientProcess, messageMap]
    cases socketMessageDeserializeToMap (.map data) client.map <;> rfl
  | tileChange data =>
    simp only [socketClientProcess, messageMap]
    cases mapTilesWrite (mapSetTileState · · data.tile) client.map { row := data.row, column := data.column } <;> rfl
  | _ => rfl

/-- What the send thread sends; a direction a client has chosen may be without a name. -/
inductive Sent : SocketMessage → Prop where
  | built {any : SocketMessage} (built : Built any) : Sent any
  | playerState (status : PlayerStatus) (direction : Direction) : Sent (socketMessageInitPlayerState status direction)

def IsMap : SocketMessage → Prop
  | .map _ => True
  | _ => False

private theorem read_playerState (status : PlayerStatus) (direction : Direction) (rest : List UInt8) :
    ∃ status' direction', socketMessageDeserializeFromSocket
      (socketMessageSerialize (socketMessageInitPlayerState status direction) ++ rest) =
        some (.playerState status' direction', rest) := ⟨_, _, rfl⟩

/-- A message is read as one with the same effect on the map. -/
theorem read_sent (sent : Sent message) (rest : List UInt8) :
    ∃ read, socketMessageDeserializeFromSocket (socketMessageSerialize message ++ rest) = some (read, rest) ∧
      (∀ map, messageMap map read = messageMap map message) ∧ (IsMap read ↔ IsMap message) := by
  cases sent with
  | built built => exact ⟨message, deserialize_serialize built rest, fun _ => rfl, Iff.rfl⟩
  | playerState status direction =>
    obtain ⟨status', direction', read⟩ := read_playerState status direction rest
    exact ⟨_, read, fun _ => rfl, Iff.rfl⟩

/-- The bytes of some messages, which lead from one map to another. -/
structure Carries (messages : List SocketMessage) (bytes : List UInt8) (map delivered : Map) : Prop where
  bytes : bytes = messages.flatMap socketMessageSerialize
  sent : ∀ message ∈ messages, Sent message
  delivers : messages.foldlM messageMap map = some delivered

theorem carries_nil (map : Map) : Carries [] [] map map := ⟨rfl, nofun, rfl⟩

theorem carries_write (carries : Carries messages bytes map delivered) (sent : Sent message)
    (effect : messageMap delivered message = some after) :
    Carries (messages ++ [message]) (bytes ++ socketMessageSerialize message) map after where
  bytes := by rw [carries.bytes, List.flatMap_append, List.flatMap_singleton]
  sent := by
    intro other member
    rcases List.mem_append.mp member with earlier | last
    · exact carries.sent other earlier
    · rw [List.mem_singleton.mp last]
      exact sent
  delivers := by
    rw [List.foldlM_append, carries.delivers]
    exact congrArg (Option.bind · some) effect

theorem serialize_nonempty (sent : Sent message) : socketMessageSerialize message ≠ [] := by
  intro empty
  obtain ⟨read, taken, -⟩ := read_sent sent []
  rw [empty] at taken
  cases taken

/-- Nothing to read is nothing on the way. -/
theorem carries_empty (carries : Carries messages [] map delivered) : messages = [] ∧ delivered = map := by
  cases messages with
  | nil => exact ⟨rfl, (Option.some.inj carries.delivers).symm⟩
  | cons message rest =>
    have bytes := carries.bytes
    rw [List.flatMap_cons] at bytes
    have empty := (List.append_eq_nil_iff.mp bytes.symm).1
    exact absurd empty (serialize_nonempty (carries.sent message List.mem_cons_self))

/-- Reading takes the first message. -/
theorem carries_read (carries : Carries messages bytes map delivered)
    (taken : socketMessageDeserializeFromSocket bytes = some (read, rest)) :
    ∃ first later, messages = first :: later ∧ (IsMap read ↔ IsMap first) ∧
      ∀ next, messageMap map read = some next → Carries later rest next delivered := by
  cases messages with
  | nil =>
    rw [show bytes = [] from carries.bytes] at taken
    cases taken
  | cons first later =>
    obtain ⟨read', taken', same, kind⟩ := read_sent (carries.sent first List.mem_cons_self)
      (later.flatMap socketMessageSerialize)
    rw [carries.bytes, List.flatMap_cons, taken'] at taken
    cases taken
    refine ⟨first, later, rfl, kind, fun next effect => ⟨rfl, fun message member =>
      carries.sent message (List.mem_cons_of_mem _ member), ?_⟩⟩
    have delivers := carries.delivers
    rw [List.foldlM_cons, ← same, effect] at delivers
    exact delivers

/-! ## The effect of what is sent -/

theorem messageMap_initMap (map server : Map) (wide : server.width ≤ maxMapWidth)
    (high : server.height ≤ maxMapHeight) :
    ∃ copy, messageMap map (socketMessageInitMap server) = some copy ∧ Agree copy server := by
  obtain ⟨copy, applied, size, same⟩ := deserializeToMap_initMap server map wide high
  exact ⟨copy, applied, size, same⟩

theorem messageMap_tileChange (map : Map) {change : Change} (inside : change.coordinates.InArrays) :
    messageMap map (socketMessageInitTileChange change.coordinates.row change.coordinates.column change.tileData) =
      some (mapSetTileState map change.coordinates change.tileData) := if_pos inside

/-- The changes of a locked section lead a copy of the map before it to the map after it. -/
theorem agree_section (same : Agree copy before) (size : SameSize before after)
    (carries : ∀ c, after.InBounds c → (replayChanges before changes).tiles c = after.tiles c) :
    Agree (replayChanges copy changes) after := by
  refine ⟨(replayChanges_size copy changes).trans (same.1.trans size), fun c inside => ?_⟩
  have carried := carries c inside
  rw [replayChanges_tiles] at carried ⊢
  exact WriteLogs.replay_between carried (Or.inl (same.2 c ((inBounds_sameSize size).mpr inside)))

/-! ## The client -/

variable {display next : Display}

/-- The screen will show the client's map: what is left to draw does so already, or the
redraw that came with a map is on its way into the queue. -/
def Pictured (display : Display) : Prop :=
  Mirrored display ∨
    display.site = .map ∧ ∃ status, pending? (display.renderer.calls .main) = some (.redraw status)

theorem reads_idle (reads : display.reads = true) : display.renderer.destroying = .absent ∧
    display.renderer.calls .main = .idle := by
  unfold Display.reads at reads
  split at reads
  · exact ⟨by assumption, by assumption⟩
  · exact ⟨by assumption, by assumption⟩
  · cases reads

/-- The step of a read takes the message's effect. -/
theorem receive_reads (reads : display.reads = true) (ran : display.receive message = some next) :
    messageMap display.client.map message = some next.client.map ∧ (IsMap message → next.site = .map ∧
      ∃ status, pending? (next.renderer.calls .main) = some (.redraw status)) := by
  obtain ⟨absent, idle⟩ := reads_idle reads
  have called : ∀ command, display.renderer.call .main command =
      display.renderer.withCall .main (.calling command) := by
    intro command
    simp [Renderer.call, absent, idle]
  unfold Display.reads at reads
  unfold Display.receive at ran
  rw [← process_messageMap]
  split at reads
  case h_3 => cases reads
  all_goals
    rename_i state
    simp only [absent, idle, state] at ran
    obtain ⟨client, processed, ran⟩ := Option.bind_eq_some_iff.mp ran
    rw [processed]
    cases message with
    | map data =>
      cases ran
      refine ⟨rfl, fun _ => ⟨rfl, client.lastStatus, ?_⟩⟩
      simp only [Display.callAt, called]
      rfl
    | tileChange data =>
      cases ran
      exact ⟨rfl, False.elim⟩
    | playerState status direction =>
      dsimp only at ran
      split at ran
      · cases ran
        exact ⟨rfl, False.elim⟩
      · cases ran
        exact ⟨rfl, False.elim⟩
    | _ =>
      cases ran
      exact ⟨rfl, False.elim⟩

theorem receive_pictured (reads : display.reads = true)
    (ran : display.receive message = some next) (pictured : Pictured display ∨ IsMap message) : Pictured next := by
  obtain ⟨absent, idle⟩ := reads_idle reads
  rcases pictured with (mirrored | ⟨-, status, pending⟩) | isMap
  · exact Or.inl (receive_mirrored mirrored (receive_received ran))
  · rw [idle] at pending
    cases pending
  · exact Or.inr ((receive_reads reads ran).2 isMap)

/-- The main thread's redraw stays on its way, or enters the queue. -/
theorem proceed_pictured {status : PlayerStatus} (sound : Sound display) (site : display.site = .map)
    (pending : pending? (display.renderer.calls .main) = some (.redraw status)) (user : RendererUser) :
    Pictured { display with renderer := display.renderer.proceed user } := by
  have later := proceed_sound sound user
  cases user with
  | input =>
    refine Or.inr ⟨site, status, ?_⟩
    unfold Renderer.proceed
    cases display.renderer.calls .input with
    | calling command =>
      dsimp only
      split
      · exact pending
      · exact pending
    | _ => exact pending
  | main =>
    cases stage : display.renderer.calls .main with
    | calling command =>
      rw [stage] at pending
      cases pending
      refine Or.inr ⟨site, status, ?_⟩
      simp only [Renderer.proceed, stage]
      split
      · simp [Renderer.withCall, pending?]
      · rw [stage]
        rfl
    | locked command =>
      rw [stage] at pending
      cases pending
      refine Or.inl (@mirrored_of_redraw _ status later.ordered ?_)
      simp only [Renderer.proceed, stage]
      rfl
    | _ =>
      rw [stage] at pending
      cases pending

/-- A step of the client that reads nothing. -/
theorem step_pictured {step : DisplayStep} (sound : Sound display) (pictured : Pictured display)
    (silent : ∀ message, step ≠ .message message) (ran : display.step step = .ok next) : Pictured next := by
  rcases pictured with mirrored | ⟨site, status, pending⟩
  · exact Or.inl (step_mirrored step sound mirrored ran)
  · cases step with
    | message message => exact absurd rfl (silent message)
    | resize =>
      cases ran
      refine Or.inr ⟨site, status, ?_⟩
      simp only [Renderer.call]
      split
      · exact pending
      · exact pending
    | render =>
      cases ran
      obtain ⟨-, calls, -⟩ := render_rest display.renderer display.client.map
      exact Or.inr ⟨site, status, (congrArg (fun calls => pending? (calls .main)) calls).trans pending⟩
    | proceed user =>
      cases ran
      exact proceed_pictured sound site pending user
    | destroy =>
      cases ran
      obtain ⟨calls, -⟩ := destroy_calls display.renderer
      exact Or.inr ⟨site, status, (congrArg (fun calls => pending? (calls .main)) calls).trans pending⟩
    | spuriousWake =>
      cases ran
      exact Or.inr ⟨site, status, pending⟩

theorem step_client {step : DisplayStep} (silent : ∀ message, step ≠ .message message)
    (ran : display.step step = .ok next) : next.client = display.client := by
  cases step with
  | message message => exact absurd rfl (silent message)
  | _ =>
    cases ran
    rfl

/-- With everything drawn the screen shows the client's map. -/
theorem pictured_shows {c : Coordinates} (pictured : Pictured display)
    (idle : display.renderer.calls .main = .idle) (empty : display.renderer.queue = [])
    (outside : ¬ Busy display.renderer.stage) (inside : display.client.map.InBounds c)
    (visible : Visible display.renderer.screen c) :
    display.renderer.screen.front (c.column + 1) (c.row + 1) = tileCell (mapGetTileState display.client.map c) := by
  rcases pictured with mirrored | ⟨-, status, pending⟩
  · have sent : ¬ Unsent display c := by simp [Unsent, idle, pending?]
    have hand : inHand display.renderer.stage = [] := by
      cases stage : display.renderer.stage <;> first | rfl | exact absurd (by rw [stage]; trivial) outside
    have drawn := mirrored.cells c inside visible sent
    rw [mirrored.shown outside empty]
    simpa [outcome, hand, empty] using drawn
  · rw [idle] at pending
    cases pending

/-! ## The send thread -/

/-- From the first map to the end of the loop. -/
def Opened : SendThreadStage → Prop
  | .looking | .testing | .waiting | .woken _ | .reading _ | .copying _ | .sending _ => True
  | _ => False

/-- The changes copied and not yet sent. -/
def unsent : SendThreadStage → List Change
  | .sending changes => changes
  | _ => []

/-- The ticks the send thread has seen are of locked sections it has sent or is about to. -/
def Counts (stage : SendThreadStage) (lastTick : Nat) (record : FollowerRecord) (gameEnded : Bool) : Prop :=
  match stage with
  | .looking | .testing | .sending _ => gameEnded = false → lastTick + record.behind ≤ record.sections
  | .waiting => lastTick + record.behind ≤ record.sections
  | .observing | .woken _ | .reading _ | .copying _ => gameEnded = false → lastTick ≤ record.sections
  | _ => True

/-- What is on its way and what is left to send lead the client's map to the server's;
and a map is on its way, or the client has one to show. -/
structure Stream (map : Map) (missed : List Change) (stage : SendThreadStage) (bytes : List UInt8) (display : Display)
    (messages : List SocketMessage) (delivered : Map) : Prop where
  carries : Carries messages bytes display.client.map delivered
  agrees : Opened stage → Agree (replayChanges delivered (unsent stage ++ missed)) map
  pictured : Opened stage → (∃ message ∈ messages, IsMap message) ∨ Pictured display

def Sendable (width height : Nat) (change : Change) : Prop :=
  change.coordinates.InGrid width height ∧ TileInRange change.tileData

structure Follows (width height : Nat) (remote : RemoteDisplay) : Prop where
  server : ServerSide width height remote.server
  inRange : InRange remote.server
  sound : Sound remote.display
  sendable : ∀ change ∈ unsent remote.stage, Sendable width height change
  counts : remote.server.record.ticks < 2 ^ 64 →
    Counts remote.stage remote.observer.lastTick remote.server.record remote.server.gameState.gameEnded
  stream : remote.shutdown = false →
    ∃ messages delivered, Stream remote.server.gameState.map remote.server.record.missed remote.stage remote.bytes
      remote.display messages delivered

theorem start_follows (map : Map) (directions : Nat → Direction) (cache : PlayerDataCache) (template : MapTemplate)
    (tiles : Coordinates → MapTile) (screen : Screen) : Follows template.width template.height
      (RemoteDisplay.start (Game.start map directions cache template) tiles screen) where
  server := start_side map directions cache template
  inRange := start_inRange map directions cache template
  sound := start_sound tiles screen
  sendable := nofun
  counts := fun _ => trivial
  stream := fun _ => ⟨[], _, carries_nil _, nofun, nofun⟩

/-! ## Steps of the server -/

variable {remote later : RemoteDisplay} {server : RunningServer} {stage : SendThreadStage} {lastTick : Nat}
  {record record' : FollowerRecord} {gameEnded : Bool} {rng : Rng}

theorem section_counts (counts : Counts stage lastTick record gameEnded)
    (behind : record'.behind = record.behind + 1) (sections : record'.sections = record.sections + 1) :
    Counts stage lastTick record' gameEnded := by
  unfold Counts at counts ⊢
  rw [behind, sections]
  cases stage with
  | looking | testing | sending => exact fun running => Nat.succ_le_succ (counts running)
  | waiting => exact Nat.succ_le_succ counts
  | observing | woken | reading | copying => exact fun running => Nat.le_succ_of_le (counts running)
  | _ => trivial

theorem end_counts (counts : Counts stage lastTick record false) : Counts stage lastTick record true := by
  cases stage with
  | waiting => exact counts
  | looking | testing | sending | observing | woken | reading | copying => exact nofun
  | _ => trivial

theorem lockedSection_follows (sizes : Sizes width height) (follows : Follows width height remote)
    (ran : remote.server.lockedSection rng = .ok server) : Follows width height { remote with server } := by
  obtain ⟨side, sectioned⟩ := lockedSection_side sizes follows.server ran
  have inRange := lockedSection_inRange sizes follows.server follows.inRange ran
  cases sectioned with
  | idle same =>
    rw [same]
    exact follows
  | ran carries missed behind sections ticks ended =>
    refine ⟨side, inRange, follows.sound, follows.sendable, fun short => ?_, fun running => ?_⟩
    · rw [ended]
      rw [ticks] at short
      exact section_counts (follows.counts short) behind sections
    · obtain ⟨messages, delivered, stream⟩ := follows.stream running
      refine ⟨messages, delivered, stream.carries, fun opened => ?_, stream.pictured⟩
      have size : SameSize remote.server.gameState.map server.gameState.map :=
        ⟨follows.server.steady.sized.1.trans side.steady.sized.1.symm,
          follows.server.steady.sized.2.trans side.steady.sized.2.symm⟩
      have led := agree_section (stream.agrees opened) size
        fun c inside => carries c ((inGrid_of_steady side.steady).mp inside)
      rw [missed, ← List.append_assoc]
      unfold replayChanges at led ⊢
      rw [List.foldl_append]
      exact led

theorem tickerTick_follows (follows : Follows width height remote) :
    Follows width height { remote with server := remote.server.tickerTick } := by
  have side := tickerTick_side follows.server
  unfold RunningServer.tickerTick at side ⊢
  split
  case isTrue ticking =>
    rw [if_pos ticking] at side
    exact ⟨side, follows.inRange, follows.sound, follows.sendable,
      fun short => follows.counts (Nat.lt_of_succ_lt short), follows.stream⟩
  case isFalse => exact follows

theorem endGame_follows (follows : Follows width height remote) :
    Follows width height { remote with server := remote.server.endGame } := by
  have side := endGame_side follows.server
  unfold RunningServer.endGame at side ⊢
  split
  case isTrue => exact follows
  case isFalse free =>
    rw [if_neg free] at side
    refine ⟨side, follows.inRange, follows.sound, follows.sendable, fun short => ?_, follows.stream⟩
    have counts := follows.counts short
    rw [not_or, Bool.not_eq_true, Bool.not_eq_true] at free
    rw [free.2] at counts
    exact end_counts counts

theorem operate_follows (follows : Follows width height remote) (action : Action) :
    Follows width height { remote with server := remote.server.operate action } := by
  obtain ⟨map, -, -, ended⟩ := operate_rest remote.server action
  refine ⟨operate_side follows.server action, operate_inRange follows.inRange action, follows.sound,
    follows.sendable, ?_, ?_⟩
  · rw [ended]
    exact follows.counts
  · rw [map]
    exact follows.stream

/-! ## Steps of the send thread -/

/-- The send thread's next step is the copy of the changelog. -/
def Copies (remote : RemoteDisplay) : Prop :=
  match remote.stage with
  | .copying ticksPassed => ¬ ticksPassed > 1
  | _ => False

/-- A copy of the changelog comes no later than the second locked section after the
last copy. -/
def Timely (remote : RemoteDisplay) : RemoteStep → Prop
  | .send _ => Copies remote → remote.server.record.behind ≤ 1
  | _ => True

instance (remote : RemoteDisplay) : Decidable (Copies remote) := by
  unfold Copies
  split <;> infer_instance

instance (remote : RemoteDisplay) : DecidablePred (Timely remote) := by
  intro step
  unfold Timely
  split <;> infer_instance

/-- A step that sends nothing. -/
theorem turn_follows (follows : Follows width height remote) (stage : SendThreadStage) (observer : TickerObserver)
    (playerId : Nat) (isFirstTick : Bool) (lastPlayerState : Player)
    (opened : Opened stage → Opened remote.stage) (same : unsent stage = unsent remote.stage)
    (counts : remote.server.record.ticks < 2 ^ 64 → Counts stage observer.lastTick remote.server.record
      remote.server.gameState.gameEnded) :
    Follows width height { remote with stage, observer, playerId, isFirstTick, lastPlayerState } := by
  refine ⟨follows.server, follows.inRange, follows.sound, ?_, counts, fun running => ?_⟩
  · rw [same]
    exact follows.sendable
  · obtain ⟨messages, delivered, stream⟩ := follows.stream running
    refine ⟨messages, delivered, stream.carries, fun now => ?_, fun now => stream.pictured (opened now)⟩
    rw [same]
    exact stream.agrees (opened now)

/-- What has broken off is not claimed to be readable. -/
theorem write_broken (remote : RemoteDisplay) (message : SocketMessage) (written : Nat)
    (server : ServerSide width height remote.server) (inRange : InRange remote.server) (sound : Sound remote.display)
    (sendable : ∀ change ∈ unsent remote.stage, Sendable width height change)
    (counts : remote.server.record.ticks < 2 ^ 64 →
      Counts remote.stage remote.observer.lastTick remote.server.record remote.server.gameState.gameEnded) :
    Follows width height (remote.write message (some written)) :=
  ⟨server, inRange, sound, sendable, counts, nofun⟩

/-- A message without an effect on the map. -/
theorem write_follows (follows : Follows width height remote) (sent : Sent message)
    (silent : ∀ map, messageMap map message = some map) (broken : Option Nat) :
    Follows width height (remote.write message broken) := by
  cases broken with
  | some written =>
    exact write_broken remote message written follows.server follows.inRange follows.sound follows.sendable
      follows.counts
  | none =>
    refine ⟨follows.server, follows.inRange, follows.sound, follows.sendable, follows.counts, fun running => ?_⟩
    obtain ⟨messages, delivered, stream⟩ := follows.stream running
    refine ⟨messages ++ [message], delivered, carries_write stream.carries sent (silent delivered), stream.agrees,
      fun opened => (stream.pictured opened).imp_left ?_⟩
    rintro ⟨map, member, isMap⟩
    exact ⟨map, List.mem_append_left _ member, isMap⟩

/-- The whole map is sent. -/
theorem writeMap_follows (widthBound : width ≤ maxMapWidth) (heightBound : height ≤ maxMapHeight)
    (follows : Follows width height remote) (stage : SendThreadStage) (visited : unsent stage = [])
    (counts : remote.server.record.ticks < 2 ^ 64 → Counts stage remote.observer.lastTick
      remote.server.caughtUp.record remote.server.gameState.gameEnded) (broken : Option Nat) :
    Follows width height ({ remote with server := remote.server.caughtUp, stage }.write
      (socketMessageInitMap remote.server.gameState.map) broken) := by
  have sized := follows.server.steady.sized
  have wide : remote.server.gameState.map.width ≤ maxMapWidth := sized.1 ▸ widthBound
  have high : remote.server.gameState.map.height ≤ maxMapHeight := sized.2 ▸ heightBound
  have none : ∀ change ∈ unsent stage, Sendable width height change := by
    rw [visited]
    exact nofun
  cases broken with
  | some written =>
    exact write_broken _ _ written (caughtUp_side follows.server) follows.inRange follows.sound none counts
  | none =>
    refine ⟨caughtUp_side follows.server, follows.inRange, follows.sound, none, counts, fun running => ?_⟩
    obtain ⟨messages, delivered, stream⟩ := follows.stream running
    obtain ⟨copy, effect, same⟩ := messageMap_initMap delivered remote.server.gameState.map wide high
    have sent : Sent (socketMessageInitMap remote.server.gameState.map) :=
      .built (.map wide high follows.inRange.tiles)
    have coming : ∃ message ∈ messages ++ [socketMessageInitMap remote.server.gameState.map], IsMap message :=
      ⟨_, List.mem_append_right _ (List.mem_singleton.mpr rfl), trivial⟩
    refine ⟨_, copy, carries_write stream.carries sent effect, fun _ => ?_, fun _ => Or.inl coming⟩
    change Agree (replayChanges copy (unsent stage ++ [])) remote.server.gameState.map
    rw [visited]
    exact same

theorem copy_follows {ticksPassed : Nat} (follows : Follows width height remote)
    (here : remote.stage = .copying ticksPassed) (timely : remote.server.record.behind ≤ 1) :
    Follows width height { remote with
      server := remote.server.caughtUp
      stage := .sending remote.server.gameState.changelog } := by
  refine ⟨caughtUp_side follows.server, follows.inRange, follows.sound,
    fun change member => ⟨follows.server.inside change member, follows.inRange.changes change member⟩,
    fun short => ?_, fun running => ?_⟩
  · have counts := follows.counts short
    rw [here] at counts
    exact counts
  · obtain ⟨messages, delivered, stream⟩ := follows.stream running
    have opened : Opened remote.stage := by
      rw [here]
      trivial
    have agrees := stream.agrees opened
    rw [here] at agrees
    refine ⟨messages, delivered, stream.carries, fun _ => ?_, fun _ => stream.pictured opened⟩
    change Agree (replayChanges delivered (remote.server.gameState.changelog ++ [])) remote.server.gameState.map
    rw [List.append_nil]
    rcases Nat.le_one_iff_eq_zero_or_eq_one.mp timely with zero | one
    · rw [follows.server.fresh zero] at agrees
      exact agree_section agrees ⟨rfl, rfl⟩
        fun c inside => follows.server.recent c ((inGrid_of_steady follows.server.steady).mp inside)
    · rw [follows.server.single one] at agrees
      exact agrees

theorem visit_follows (widthBound : width ≤ maxMapWidth) (heightBound : height ≤ maxMapHeight) {change : Change}
    {rest : List Change} (follows : Follows width height remote) (here : remote.stage = .sending (change :: rest))
    (broken : Option Nat) :
    Follows width height ({ remote with stage := if broken.isSome then .testing else .sending rest }.write
      (socketMessageInitTileChange change.coordinates.row change.coordinates.column change.tileData) broken) := by
  have sendable := follows.sendable
  have counts := follows.counts
  rw [here] at sendable counts
  cases broken with
  | some written =>
    exact write_broken _ _ written follows.server follows.inRange follows.sound nofun counts
  | none =>
    obtain ⟨⟨row, column⟩, tile⟩ := sendable change List.mem_cons_self
    refine ⟨follows.server, follows.inRange, follows.sound,
      fun other member => sendable other (List.mem_cons_of_mem _ member), counts, fun running => ?_⟩
    obtain ⟨messages, delivered, stream⟩ := follows.stream running
    rw [here] at stream
    have rowArray : change.coordinates.row < maxMapHeight := Nat.lt_of_lt_of_le row heightBound
    have columnArray : change.coordinates.column < maxMapWidth := Nat.lt_of_lt_of_le column widthBound
    have sent : Sent (socketMessageInitTileChange change.coordinates.row change.coordinates.column change.tileData) :=
      .built (.tileChange (Nat.lt_trans rowArray (by decide)) (Nat.lt_trans columnArray (by decide)) tile)
    have arrays : change.coordinates.InArrays := ⟨rowArray, columnArray⟩
    have effect := messageMap_tileChange delivered arrays
    refine ⟨_, _, carries_write stream.carries sent effect, fun _ => stream.agrees trivial,
      fun _ => (stream.pictured trivial).imp_left ?_⟩
    rintro ⟨map, member, isMap⟩
    exact ⟨map, List.mem_append_left _ member, isMap⟩

/-- Behind the loop nothing is claimed of the stream any more. -/
theorem leave_follows (follows : Follows width height remote) (here : remote.stage = .leaving)
    (broken : Option Nat) : Follows width height (remote.advance broken) := by
  obtain ⟨map, -, -, ended⟩ := operate_rest remote.server (.unregister remote.playerId)
  have operated := operate_follows follows (.unregister remote.playerId)
  unfold RemoteDisplay.advance
  simp only [here]
  split
  · cases broken with
    | none => exact ⟨operated.server, operated.inRange, operated.sound, nofun, fun _ => trivial, nofun⟩
    | some written => exact ⟨operated.server, operated.inRange, operated.sound, nofun, fun _ => trivial, nofun⟩
  · exact ⟨operated.server, operated.inRange, operated.sound, nofun, fun _ => trivial, nofun⟩

theorem running_of_not_ends (goes : ¬ remote.ends = true) : remote.server.gameState.gameEnded = false := by
  simp only [RemoteDisplay.ends, Bool.or_eq_true, not_or, Bool.not_eq_true] at goes
  exact goes.2

/-- The wait returns with the ticker's turn. -/
theorem wait_follows (follows : Follows width height remote) (here : remote.stage = .waiting) (broken : Option Nat) :
    Follows width height (remote.advance broken) := by
  unfold RemoteDisplay.advance
  simp only [here]
  split
  · exact follows
  · rename_i ticksPassed observer returned
    unfold tickerObserverWaitForNextTick at returned
    split at returned
    · cases returned
    · cases returned
      exact turn_follows follows (.woken _) _ _ _ _ (fun _ => by rw [here]; trivial) (by rw [here]; rfl)
        fun short running => tick_seen follows.server short running

/-- The steps before the loop. -/
theorem enter_follows (widthBound : width ≤ maxMapWidth) (heightBound : height ≤ maxMapHeight)
    (follows : Follows width height remote) (closed : ¬ Opened remote.stage) (stays : remote.stage ≠ .leaving)
    (broken : Option Nat) : Follows width height (remote.advance broken) := by
  have counts := follows.counts
  unfold RemoteDisplay.advance
  cases here : remote.stage with
  | accepted =>
    dsimp only
    split
    · exact turn_follows (operate_follows follows .register) .registered _ _ _ _ nofun (by rw [here]; rfl)
        fun _ => trivial
    · refine write_follows (turn_follows follows .closed remote.observer remote.playerId remote.isFirstTick
        remote.lastPlayerState nofun (by rw [here]; rfl) fun _ => trivial) (.built .gameFull) (fun _ => rfl) broken
  | registered =>
    exact write_follows (turn_follows follows .connected remote.observer remote.playerId remote.isFirstTick
      remote.lastPlayerState nofun (by rw [here]; rfl) fun _ => trivial) (.built .connected) (fun _ => rfl) broken
  | connected =>
    exact turn_follows follows .observing _ _ _ _ nofun (by rw [here]; rfl)
      fun short running => tick_seen follows.server short running
  | observing =>
    rw [here] at counts
    exact writeMap_follows widthBound heightBound follows .looking rfl counts broken
  | closed => exact follows
  | leaving => exact absurd here stays
  | _ =>
    rw [here] at closed
    exact absurd trivial closed

/-- One turn of the loop. -/
theorem loop_follows (widthBound : width ≤ maxMapWidth) (heightBound : height ≤ maxMapHeight)
    (follows : Follows width height remote) (opened : Opened remote.stage) (broken : Option Nat)
    (timely : Timely remote (.send broken)) : Follows width height (remote.advance broken) := by
  have counts := follows.counts
  cases here : remote.stage with
  | waiting => exact wait_follows follows here broken
  | looking =>
    rw [here] at counts
    simp only [RemoteDisplay.advance, here]
    exact turn_follows follows .testing _ _ _ _ (fun _ => opened) (by rw [here]; rfl) counts
  | testing =>
    rw [here] at counts
    simp only [RemoteDisplay.advance, here]
    by_cases ends : remote.ends = true
    · simp only [ends, if_true]
      exact turn_follows follows .leaving _ _ _ _ nofun (by rw [here]; rfl) fun _ => trivial
    · simp only [ends]
      exact turn_follows follows .waiting _ _ _ _ (fun _ => opened) (by rw [here]; rfl)
        fun short => counts short (running_of_not_ends ends)
  | woken ticksPassed =>
    rw [here] at counts
    simp only [RemoteDisplay.advance, here]
    by_cases ends : remote.ends = true
    · simp only [ends, if_true]
      exact turn_follows follows .leaving _ _ _ _ nofun (by rw [here]; rfl) fun _ => trivial
    · simp only [ends]
      exact turn_follows follows (.reading ticksPassed) _ _ _ _ (fun _ => opened) (by rw [here]; rfl) counts
  | reading ticksPassed =>
    rw [here] at counts
    simp only [RemoteDisplay.advance, here, RemoteDisplay.sendPlayerState]
    split
    · exact write_follows (turn_follows follows (.copying ticksPassed) remote.observer remote.playerId false _
        (fun _ => opened) (by rw [here]; rfl) counts) (.playerState _ _) (fun _ => rfl) broken
    · exact turn_follows follows (.copying ticksPassed) _ _ _ _ (fun _ => opened) (by rw [here]; rfl) counts
  | copying ticksPassed =>
    rw [here] at counts
    simp only [RemoteDisplay.advance, here]
    split
    · exact writeMap_follows widthBound heightBound follows .testing rfl counts broken
    · rename_i single
      refine copy_follows follows here (timely ?_)
      unfold Copies
      rw [here]
      exact single
  | sending changes =>
    rw [here] at counts
    cases changes with
    | nil =>
      simp only [RemoteDisplay.advance, here]
      exact turn_follows follows .testing _ _ _ _ (fun _ => opened) (by rw [here]; rfl) counts
    | cons change rest =>
      simp only [RemoteDisplay.advance, here]
      exact visit_follows widthBound heightBound follows here broken
  | _ =>
    rw [here] at opened
    exact absurd opened not_false

/-! ## Steps of the client -/

theorem client_follows (follows : Follows width height remote) {step : DisplayStep}
    (silent : ∀ message, step ≠ .message message) (ran : remote.display.step step = .ok next) :
    Follows width height { remote with display := next } := by
  refine ⟨follows.server, follows.inRange, step_sound step follows.sound ran, follows.sendable, follows.counts,
    fun running => ?_⟩
  obtain ⟨messages, delivered, stream⟩ := follows.stream running
  have same := step_client silent ran
  refine ⟨messages, delivered, ?_, stream.agrees, fun opened => (stream.pictured opened).imp_right fun pictured =>
    step_pictured follows.sound pictured silent ran⟩
  rw [same]
  exact stream.carries

/-- A message that is read was on its way. -/
theorem receive_follows (follows : Follows width height remote) (ran : remote.receive = .ok later) :
    Follows width height later := by
  unfold RemoteDisplay.receive at ran
  split at ran
  case isFalse =>
    cases ran
    exact follows
  case isTrue reads =>
    split at ran
    case h_1 =>
      cases ran
      exact follows
    case h_2 read bytes taken =>
      split at ran
      case h_2 => cases ran
      case h_1 display processed =>
        cases ran
        refine ⟨follows.server, follows.inRange, step_sound _ follows.sound processed, follows.sendable,
          follows.counts, fun running => ?_⟩
        obtain ⟨messages, delivered, stream⟩ := follows.stream running
        obtain ⟨first, later, rfl, kind, carries⟩ := carries_read stream.carries taken
        have received : remote.display.receive read = some display := by
          simp only [Display.step] at processed
          split at processed
          · cases processed
            assumption
          · cases processed
        obtain ⟨effect, -⟩ := receive_reads reads received
        refine ⟨later, delivered, carries _ effect, stream.agrees, fun opened => ?_⟩
        have shows := receive_pictured reads received
        rcases stream.pictured opened with ⟨message, member, isMap⟩ | pictured
        · rcases List.mem_cons.mp member with rfl | behind
          · exact Or.inr (shows (Or.inr (kind.mpr isMap)))
          · exact Or.inl ⟨message, behind, isMap⟩
        · exact Or.inr (shows (Or.inl pictured))

/-! ## Whole runs -/

theorem step_follows (sizes : Sizes width height) (widthBound : width ≤ maxMapWidth)
    (heightBound : height ≤ maxMapHeight) (follows : Follows width height remote) (step : RemoteStep)
    (timely : Timely remote step) (ran : remote.step step = .ok later) : Follows width height later := by
  cases step with
  | lockedSection rng =>
    simp only [RemoteDisplay.step] at ran
    split at ran
    case h_1 server ticked =>
      cases ran
      exact lockedSection_follows sizes follows ticked
    case h_2 => cases ran
  | tickerTick =>
    cases ran
    exact tickerTick_follows follows
  | endGame =>
    cases ran
    exact endGame_follows follows
  | operate action =>
    cases ran
    split
    · exact operate_follows follows action
    · exact follows
  | send broken =>
    cases ran
    by_cases opened : Opened remote.stage
    · exact loop_follows widthBound heightBound follows opened broken timely
    · by_cases leaving : remote.stage = .leaving
      · exact leave_follows follows leaving broken
      · exact enter_follows widthBound heightBound follows opened leaving broken
  | shutdown =>
    cases ran
    exact ⟨follows.server, follows.inRange, follows.sound, follows.sendable, follows.counts, nofun⟩
  | receive => exact receive_follows follows ran
  | client step =>
    simp only [RemoteDisplay.step] at ran
    split at ran
    case h_1 =>
      cases ran
      exact follows
    case h_2 silent =>
      split at ran
      case h_1 display stepped =>
        cases ran
        exact client_follows follows silent stepped
      case h_2 => cases ran

/-- With exact reads and writes: when the send thread waits for a tick that has not come
yet, no byte is on its way and the client has drawn what it has received, the remote
terminal shows every cell of the server's map that it has a place for. -/
theorem remoteDisplay_follows {template : MapTemplate} {map : Map} {directions : Nat → Direction} {cache : PlayerDataCache}
    {tiles : Coordinates → MapTile} {screen : Screen} {steps : List RemoteStep}
    (wide : minMapWidth ≤ template.width) (widthBound : template.width ≤ maxMapWidth)
    (high : minMapHeight ≤ template.height) (heightBound : template.height ≤ maxMapHeight)
    (timely : Guarded RemoteDisplay.step Timely
      (RemoteDisplay.start (Game.start map directions cache template) tiles screen) steps)
    (ran : (RemoteDisplay.start (Game.start map directions cache template) tiles screen).run steps = .ok remote)
    (short : remote.server.record.ticks < 2 ^ 64) (waits : remote.stage = .waiting)
    (running : remote.shutdown = false) (released : remote.server.ticking = false)
    (caught : remote.observer.lastTick = remote.server.gameState.ticker.tick) (read : remote.bytes = [])
    (idle : remote.display.renderer.calls .main = .idle) (empty : remote.display.renderer.queue = [])
    (outside : ¬ Busy remote.display.renderer.stage) :
    ∀ c, remote.server.gameState.map.InBounds c → Visible remote.display.renderer.screen c →
      remote.display.renderer.screen.front (c.column + 1) (c.row + 1) =
        tileCell (mapGetTileState remote.server.gameState.map c) := by
  have sizes := sizes_of_limits wide widthBound high heightBound
  have follows := run_preserves (Follows template.width template.height) steps
    (fun remote step _ later follows timely ran => step_follows sizes widthBound heightBound follows step timely ran)
    (start_follows map directions cache template tiles screen) timely ran
  have opened : Opened remote.stage := by
    rw [waits]
    trivial
  obtain ⟨messages, delivered, stream⟩ := follows.stream running
  have carries := stream.carries
  rw [read] at carries
  obtain ⟨rfl, rfl⟩ := carries_empty carries
  have counts := follows.counts short
  have agrees := stream.agrees opened
  rw [waits] at counts agrees
  rw [caught_up follows.server short released caught counts] at agrees
  intro c inside visible
  have pictured := (stream.pictured opened).resolve_left fun ⟨_, member, _⟩ => List.not_mem_nil member
  have client := (inBounds_sameSize agrees.1).mpr inside
  have shown := pictured_shows pictured idle empty outside client visible
  exact shown.trans (congrArg tileCell (agrees.2 c inside))

/-! ## A run -/

/-- The client reads a message and calls its renderer. -/
private def reading : List RemoteStep := .receive :: List.replicate 4 (.client (.proceed .main))

open SnakeRuns in
/-- The client is sent the map, and after the first tick its player's state and the
changes. -/
def firstTick : List RemoteStep :=
  List.replicate 6 (.send none) ++ [.lockedSection (drawing [2, 2, 9, 9]), .tickerTick] ++
    List.replicate 9 (.send none) ++ (List.replicate 6 reading).flatten ++ List.replicate 24 (.client .render)

/-- Before the connection the server has no player. -/
def freshRemote : RemoteDisplay :=
  RemoteDisplay.start SnakeRuns.emptyGame (fun _ => { order := 0, type := .wall, player := 1 }) emptyScreen

def IsIdle : CallStage → Bool
  | .idle => true
  | _ => false

private theorem firstTick_timely : Guarded RemoteDisplay.step Timely freshRemote firstTick := by decide +kernel

private theorem firstTick_waits : ∃ remote, freshRemote.run firstTick = .ok remote ∧
    remote.server.record.ticks < 2 ^ 64 ∧ remote.stage = .waiting ∧ remote.shutdown = false ∧
    remote.server.ticking = false ∧ remote.observer.lastTick = remote.server.gameState.ticker.tick ∧
    remote.bytes = [] ∧ IsIdle (remote.display.renderer.calls .main) = true ∧ remote.display.renderer.queue = [] ∧
    ¬ Busy remote.display.renderer.stage ∧ remote.server.gameState.map.InBounds ⟨9, 9⟩ ∧
    Visible remote.display.renderer.screen ⟨9, 9⟩ ∧ tileCell (mapGetTileState remote.server.gameState.map ⟨9, 9⟩) =
      { character := 'O', foreground := .default, background := .default } := by decide +kernel

/-- The remote player sees its first fruit. -/
theorem remoteDisplay_follows_firstTick : ∃ remote, freshRemote.run firstTick = .ok remote ∧
    remote.display.renderer.screen.front 10 10 =
      { character := 'O', foreground := .default, background := .default } := by
  obtain ⟨remote, ran, short, waits, running, released, caught, read, idle, empty, outside, inside, visible, fruit⟩ :=
    firstTick_waits
  have idle : remote.display.renderer.calls .main = .idle := by
    cases stage : remote.display.renderer.calls .main <;> rw [stage] at idle <;> first | rfl | cases idle
  refine ⟨remote, ran, ?_⟩
  rw [← fruit]
  exact remoteDisplay_follows (by decide) (by decide) (by decide) (by decide) firstTick_timely ran short waits running released
    caught read idle empty outside ⟨9, 9⟩ inside visible

end SnakePosix.RemoteScreen
