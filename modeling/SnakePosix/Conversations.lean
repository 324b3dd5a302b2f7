import SnakePosix.RemoteScreen

/-! What a correct server says is what its client expects, in any interleaving, as long
as reads and writes are exact and no message breaks off: the client is never thrown out,
its map is only written where there is one, and it is told how the game has ended. -/
namespace SnakePosix.Conversations
open GuardedRuns MapProofs Torus TickTurns GameRuns LockedSections TileRanges SocketRoundTrip RemoteScreen ScreenMirror

/-! ## What the client makes of a message -/

/-- The state behind a message. -/
def answer (state : SocketClientState) : SocketMessage → SocketClientState
  | .gameFull => .full
  | .gameEnd => .gameEnded
  | .connected => .playing
  | .map _ | .tileChange _ | .playerState .. => state
  | _ => .connectionError

theorem process_answer {message : SocketMessage} {client next : SocketClient} (processed : socketClientProcess client message = some next) :
    next.state = answer client.state message := by
  cases message with
  | map data =>
    obtain ⟨map, -, built⟩ := Option.bind_eq_some_iff.mp processed
    cases built
    rfl
  | tileChange data =>
    obtain ⟨map, -, built⟩ := Option.bind_eq_some_iff.mp processed
    cases built
    rfl
  | _ =>
    cases processed
    rfl

/-- A message that can be read, does the same when it is, and writes no map out of range. -/
structure Plain (message : SocketMessage) : Prop where
  nonempty : socketMessageSerialize message ≠ []
  reads : ∀ rest, ∃ read, socketMessageDeserializeFromSocket (socketMessageSerialize message ++ rest) = some (read, rest) ∧
    (∀ map, ∃ after, messageMap map read = some after) ∧ ∀ state, answer state read = answer state message

theorem plain_built {message : SocketMessage} (built : Built message) (fits : ∀ map, ∃ after, messageMap map message = some after) :
    Plain message where
  nonempty := serialize_nonempty (.built built)
  reads := fun rest => ⟨message, deserialize_serialize built rest, fits, fun _ => rfl⟩

theorem plain_playerState (status : PlayerStatus) (direction : Direction) :
    Plain (socketMessageInitPlayerState status direction) where
  nonempty := serialize_nonempty (.playerState status direction)
  reads := fun _ => ⟨_, rfl, fun map => ⟨map, rfl⟩, fun _ => rfl⟩

/-- The client's loop goes on. -/
def Listens (state : SocketClientState) : Prop := state = .connecting ∨ state = .playing

/-- Messages that the client expects, and what they leave it with. -/
inductive Script : SocketClientState → List SocketMessage → SocketClientState → Prop where
  | done : Script state [] state
  | hears (listens : Listens state) (plain : Plain message) (expected : answer state message ≠ .connectionError)
    (later : Script (answer state message) messages told) : Script state (message :: messages) told

variable {message read : SocketMessage} {messages : List SocketMessage} {state told : SocketClientState}
  {bytes rest : List UInt8}

theorem script_append (script : Script state messages told) (listens : Listens told) (plain : Plain message)
    (expected : answer told message ≠ .connectionError) : Script state (messages ++ [message]) (answer told message) := by
  induction script with
  | done => exact .hears listens plain expected .done
  | hears first firstPlain firstExpected _ ih => exact .hears first firstPlain firstExpected (ih listens expected)

/-- A client that does not listen has nothing more to hear. -/
theorem script_over (script : Script state messages told) (finished : ¬ Listens state) : messages = [] ∧ told = state := by
  cases script with
  | done => exact ⟨rfl, rfl⟩
  | hears listens => exact absurd listens finished

theorem script_expected (script : Script state messages told) (expected : told ≠ .connectionError) :
    state ≠ .connectionError := by
  cases script with
  | done => exact expected
  | hears listens => rcases listens with rfl | rfl <;> nofun

/-- Without bytes everything has been heard. -/
theorem script_heard (script : Script state messages told) (empty : messages.flatMap socketMessageSerialize = []) :
    state = told := by
  cases script with
  | done => rfl
  | hears _ plain =>
    rw [List.flatMap_cons] at empty
    exact absurd (List.append_eq_nil_iff.mp empty).1 plain.nonempty

/-- Reading goes message by message. -/
theorem script_reads (script : Script state messages told) (written : bytes = messages.flatMap socketMessageSerialize)
    (coming : bytes ≠ []) : ∃ read later, socketMessageDeserializeFromSocket bytes =
      some (read, later.flatMap socketMessageSerialize) ∧ (∀ map, ∃ after, messageMap map read = some after) ∧
        Script (answer state read) later told := by
  cases script with
  | done => exact absurd written coming
  | @hears _ message later _ listens plain expected script =>
    obtain ⟨read, taken, fits, same⟩ := plain.reads (later.flatMap socketMessageSerialize)
    refine ⟨read, later, ?_, fits, ?_⟩
    · rw [written, List.flatMap_cons, taken]
    · rw [same]
      exact script

/-! ## What the send thread has said -/

/-- The state in which the client is left by all that has been said, if nobody but the
server ends the conversation. -/
def Told (stage : SendThreadStage) (gameEnded : Bool) (stays : Prop) (told : SocketClientState) : Prop :=
  match stage with
  | .accepted | .registered => told = .connecting
  | .closed => told = .full ∨ told = .gameEnded ∧ gameEnded = true ∨ told = .playing ∧ ¬ stays
  | _ => told = .playing

theorem told_expected (tells : Told stage gameEnded stays told) : told ≠ .connectionError := by
  rintro rfl
  cases stage <;> simp [Told] at tells

/-- Only the end of the thread ends the client's loop. -/
theorem told_over (tells : Told stage gameEnded stays told) (listens : told ≠ .connecting) (plays : told ≠ .playing) :
    stage = .closed ∧ (told = .gameEnded → gameEnded = true) := by
  cases stage with
  | accepted | registered => exact absurd tells listens
  | closed =>
    refine ⟨rfl, ?_⟩
    rintro rfl
    simpa [Told] using tells
  | _ => exact absurd tells plays

/-- The bytes on their way are of a script from the client's state. -/
def Said (remote : RemoteDisplay) (told : SocketClientState) : Prop :=
  ∃ messages, remote.bytes = messages.flatMap socketMessageSerialize ∧
    Script remote.display.client.state messages told

theorem said_write {remote : RemoteDisplay} (said : Said remote told) (listens : Listens told) (plain : Plain message)
    (expected : answer told message ≠ .connectionError) : Said (remote.write message none) (answer told message) := by
  obtain ⟨messages, written, script⟩ := said
  refine ⟨messages ++ [message], ?_, script_append script listens plain expected⟩
  change remote.bytes ++ socketMessageSerialize message = _
  rw [written, List.flatMap_append, List.flatMap_singleton]

structure Conversing (width height : Nat) (stays : Prop) (remote : RemoteDisplay) : Prop where
  server : ServerSide width height remote.server
  inRange : InRange remote.server
  sendable : ∀ change ∈ unsent remote.stage, Sendable width height change
  running : stays → remote.stage ≠ .closed → remote.shutdown = false
  parting : stays → remote.stage = .leaving → remote.server.gameState.gameEnded = true
  said : ∃ told, Said remote told ∧ Told remote.stage remote.server.gameState.gameEnded stays told

variable {width height : Nat} {stays : Prop} {remote later : RemoteDisplay} {server : RunningServer} {rng : Rng}
  {stage : SendThreadStage} {next : Display}

theorem start_conversing (map : Map) (directions : Nat → Direction) (cache : PlayerDataCache) (template : MapTemplate)
    (tiles : Coordinates → MapTile) (screen : Screen) (stays : Prop) : Conversing template.width template.height stays
      (RemoteDisplay.start (Game.start map directions cache template) tiles screen) where
  server := start_side map directions cache template
  inRange := start_inRange map directions cache template
  sendable := nofun
  running := fun _ _ => rfl
  parting := fun _ leaving => by cases leaving
  said := ⟨.connecting, ⟨[], rfl, .done⟩, rfl⟩

theorem told_ended (told : Told stage gameEnded stays state) : Told stage true stays state := by
  cases stage with
  | closed => exact told.imp_right fun rest => rest.imp_left fun ended => ⟨ended.1, rfl⟩
  | _ => exact told

/-! ## Steps of the server -/

/-- What the server does between the messages. -/
theorem server_conversing (conversing : Conversing width height stays remote) (side : ServerSide width height server)
    (inRange : InRange server)
    (ended : server.gameState.gameEnded = remote.server.gameState.gameEnded ∨ server.gameState.gameEnded = true) :
    Conversing width height stays { remote with server } where
  server := side
  inRange := inRange
  sendable := conversing.sendable
  running := conversing.running
  parting := by
    intro still leaving
    rcases ended with same | ended
    · exact same.trans (conversing.parting still leaving)
    · exact ended
  said := by
    obtain ⟨told, said, tells⟩ := conversing.said
    refine ⟨told, said, ?_⟩
    rcases ended with same | ended
    · dsimp only
      rw [same]
      exact tells
    · dsimp only
      rw [ended]
      exact told_ended tells

theorem lockedSection_conversing (sizes : Sizes width height) (conversing : Conversing width height stays remote)
    (ran : remote.server.lockedSection rng = .ok server) : Conversing width height stays { remote with server } := by
  obtain ⟨side, sectioned⟩ := lockedSection_side sizes conversing.server ran
  apply server_conversing conversing side (lockedSection_inRange sizes conversing.server conversing.inRange ran)
  cases sectioned with
  | idle same => exact Or.inl (by rw [same])
  | ran _ _ _ _ _ ended => exact Or.inl ended

theorem tickerTick_conversing (conversing : Conversing width height stays remote) :
    Conversing width height stays { remote with server := remote.server.tickerTick } := by
  apply server_conversing conversing (tickerTick_side conversing.server)
  · unfold RunningServer.tickerTick
    split
    · exact conversing.inRange
    · exact conversing.inRange
  · left
    unfold RunningServer.tickerTick
    split <;> rfl

theorem endGame_conversing (conversing : Conversing width height stays remote) :
    Conversing width height stays { remote with server := remote.server.endGame } := by
  apply server_conversing conversing (endGame_side conversing.server)
  · unfold RunningServer.endGame
    split
    · exact conversing.inRange
    · exact conversing.inRange
  · unfold RunningServer.endGame
    split
    · exact Or.inl rfl
    · exact Or.inr rfl

theorem operate_conversing (conversing : Conversing width height stays remote) (action : Action) :
    Conversing width height stays { remote with server := remote.server.operate action } :=
  server_conversing conversing (operate_side conversing.server action) (operate_inRange conversing.inRange action)
    (Or.inl (operate_rest remote.server action).2.2.2)

/-! ## Steps of the send thread -/

/-- A step of the thread before its end. It may have said something. -/
theorem turn_conversing (conversing : Conversing width height stays remote) (before : remote.stage ≠ .closed)
    (side : ServerSide width height later.server) (inRange : InRange later.server)
    (sendable : ∀ change ∈ unsent later.stage, Sendable width height change)
    (shutdown : later.shutdown = remote.shutdown)
    (parting : later.stage = .leaving → remote.shutdown = true ∨ later.server.gameState.gameEnded = true)
    (said : Said later told) (tells : Told later.stage later.server.gameState.gameEnded stays told) :
    Conversing width height stays later where
  server := side
  inRange := inRange
  sendable := sendable
  running := fun still _ => shutdown.trans (conversing.running still before)
  parting := by
    intro still leaving
    refine (parting leaving).resolve_left fun stopped => ?_
    rw [conversing.running still before] at stopped
    cases stopped
  said := ⟨told, said, tells⟩

/-- From the CONNECTED message to the end of the loop. -/
def Speaking : SendThreadStage → Prop
  | .accepted | .registered | .closed => False
  | _ => True

theorem told_speaking {gameEnded : Bool} (speaking : Speaking stage) :
    Told stage gameEnded stays told ↔ told = .playing := by
  cases stage with
  | accepted | registered | closed => exact speaking.elim
  | _ => exact Iff.rfl

theorem enter_conversing (conversing : Conversing width height stays remote) (here : remote.stage = .accepted) :
    Conversing width height stays (remote.advance none) := by
  obtain ⟨told, said, tells⟩ := conversing.said
  rw [here] at tells
  obtain rfl : told = .connecting := tells
  have before : remote.stage ≠ .closed := by simp [here]
  simp only [RemoteDisplay.advance, here]
  split
  · rename_i playerId manager registered
    have operated := operate_conversing conversing .register
    exact turn_conversing conversing before operated.server operated.inRange (List.forall_mem_nil _) rfl (by simp) said rfl
  · refine turn_conversing conversing before conversing.server conversing.inRange (List.forall_mem_nil _) rfl ?_ ?_
      (Or.inl rfl)
    · intro leaving
      cases leaving
    · apply said_write said (Or.inl rfl) (plain_built .gameFull fun map => ⟨map, rfl⟩)
      intro unexpected
      cases unexpected

theorem greet_conversing (conversing : Conversing width height stays remote) (here : remote.stage = .registered) :
    Conversing width height stays (remote.advance none) := by
  obtain ⟨told, said, tells⟩ := conversing.said
  rw [here] at tells
  obtain rfl : told = .connecting := tells
  have before : remote.stage ≠ .closed := by simp [here]
  simp only [RemoteDisplay.advance, here]
  refine turn_conversing conversing before conversing.server conversing.inRange (List.forall_mem_nil _) rfl ?_ ?_ rfl
  · intro leaving
    cases leaving
  · apply said_write said (Or.inl rfl) (plain_built .connected fun map => ⟨map, rfl⟩)
    intro unexpected
    cases unexpected

/-- Nothing is said in the turn. -/
theorem silent_conversing (conversing : Conversing width height stays remote) (speaking : Speaking remote.stage)
    (stage : SendThreadStage) (observer : TickerObserver) (isFirstTick : Bool) (lastPlayerState : Player)
    (speaks : Speaking stage) (sendable : ∀ change ∈ unsent stage, Sendable width height change)
    (parting : stage = .leaving → remote.ends = true) :
    Conversing width height stays { remote with stage, observer, isFirstTick, lastPlayerState } := by
  obtain ⟨told, said, tells⟩ := conversing.said
  have before : remote.stage ≠ .closed := by
    intro closed
    rw [closed] at speaking
    exact speaking
  refine turn_conversing conversing before conversing.server conversing.inRange sendable rfl ?_ said ?_
  · intro leaving
    have ends := parting leaving
    simpa [RemoteDisplay.ends] using ends
  · exact (told_speaking speaks).mpr ((told_speaking speaking).mp tells)

/-- A message of the loop is said, and the thread goes on. -/
theorem speak_conversing (conversing : Conversing width height stays remote) (speaking : Speaking remote.stage)
    (stage : SendThreadStage) (server : RunningServer) (lastPlayerState : Player) (isFirstTick : Bool)
    (side : ServerSide width height server) (inRange : InRange server)
    (speaks : Speaking stage) (goes : stage ≠ .leaving)
    (sendable : ∀ change ∈ unsent stage, Sendable width height change) (plain : Plain message)
    (expected : answer .playing message = .playing) :
    Conversing width height stays
      ({ remote with server, stage, lastPlayerState, isFirstTick }.write message none) := by
  obtain ⟨told, said, tells⟩ := conversing.said
  obtain rfl := (told_speaking speaking).mp tells
  have before : remote.stage ≠ .closed := by
    intro closed
    rw [closed] at speaking
    exact speaking
  refine turn_conversing conversing before side inRange sendable rfl (fun leaving => absurd leaving goes) ?_
    ((told_speaking speaks).mpr expected)
  exact said_write said (Or.inr rfl) plain (by rw [expected]; nofun)

/-- The whole map is said. -/
theorem writeMap_conversing (widthBound : width ≤ maxMapWidth) (heightBound : height ≤ maxMapHeight)
    (conversing : Conversing width height stays remote) (speaking : Speaking remote.stage) (stage : SendThreadStage)
    (speaks : Speaking stage) (goes : stage ≠ .leaving) (visited : unsent stage = []) :
    Conversing width height stays ({ remote with server := remote.server.caughtUp, stage }.write
      (socketMessageInitMap remote.server.gameState.map) none) := by
  have sized := conversing.server.steady.sized
  have wide : remote.server.gameState.map.width ≤ maxMapWidth := sized.1 ▸ widthBound
  have high : remote.server.gameState.map.height ≤ maxMapHeight := sized.2 ▸ heightBound
  have plain : Plain (socketMessageInitMap remote.server.gameState.map) := by
    apply plain_built (.map wide high conversing.inRange.tiles)
    intro map
    obtain ⟨copy, effect, -⟩ := messageMap_initMap map remote.server.gameState.map wide high
    exact ⟨copy, effect⟩
  refine speak_conversing conversing speaking stage _ _ _ (caughtUp_side conversing.server) conversing.inRange speaks goes
    ?_ plain rfl
  rw [visited]
  exact List.forall_mem_nil _

theorem copy_conversing {ticksPassed : Nat} (conversing : Conversing width height stays remote)
    (here : remote.stage = .copying ticksPassed) : Conversing width height stays { remote with
      server := remote.server.caughtUp
      stage := .sending remote.server.gameState.changelog } := by
  obtain ⟨told, said, tells⟩ := conversing.said
  rw [here] at tells
  exact turn_conversing conversing (by simp [here]) (caughtUp_side conversing.server) conversing.inRange
    (fun change member => ⟨conversing.server.inside change member, conversing.inRange.changes change member⟩) rfl (by simp)
    said tells

theorem visit_conversing (widthBound : width ≤ maxMapWidth) (heightBound : height ≤ maxMapHeight) {change : Change}
    {changes : List Change} (conversing : Conversing width height stays remote)
    (here : remote.stage = .sending (change :: changes)) :
    Conversing width height stays ({ remote with stage := .sending changes }.write
      (socketMessageInitTileChange change.coordinates.row change.coordinates.column change.tileData) none) := by
  have sendable := conversing.sendable
  rw [here] at sendable
  obtain ⟨⟨row, column⟩, tile⟩ := sendable change List.mem_cons_self
  have rowArray : change.coordinates.row < maxMapHeight := Nat.lt_of_lt_of_le row heightBound
  have columnArray : change.coordinates.column < maxMapWidth := Nat.lt_of_lt_of_le column widthBound
  have built : Built (socketMessageInitTileChange change.coordinates.row change.coordinates.column change.tileData) :=
    .tileChange (Nat.lt_trans rowArray (by decide)) (Nat.lt_trans columnArray (by decide)) tile
  refine speak_conversing conversing (by rw [here]; trivial) _ _ _ _ conversing.server conversing.inRange trivial (by simp)
    (fun other member => sendable other (List.mem_cons_of_mem _ member)) (plain_built built fun map => ?_) rfl
  exact ⟨_, messageMap_tileChange map ⟨rowArray, columnArray⟩⟩

/-- At its end the thread tells a client that still plays how the game has ended. -/
theorem leave_conversing (conversing : Conversing width height stays remote) (here : remote.stage = .leaving) :
    Conversing width height stays (remote.advance none) := by
  obtain ⟨-, -, -, ended⟩ := operate_rest remote.server (.unregister remote.playerId)
  have operated := operate_conversing conversing (.unregister remote.playerId)
  obtain ⟨told, said, tells⟩ := conversing.said
  rw [here] at tells
  obtain rfl : told = .playing := tells
  simp only [RemoteDisplay.advance, here]
  split
  case isTrue finished =>
    have ending : Said (remote.write socketMessageInitGameEnd none) .gameEnded := by
      apply said_write said (Or.inr rfl) (plain_built .gameEnd fun map => ⟨map, rfl⟩)
      intro unexpected
      cases unexpected
    exact ⟨operated.server, operated.inRange, List.forall_mem_nil _, fun _ closed => absurd rfl closed, by simp,
      .gameEnded, ending, Or.inr (Or.inl ⟨rfl, ended.trans finished⟩)⟩
  case isFalse goes =>
    exact ⟨operated.server, operated.inRange, List.forall_mem_nil _, fun _ closed => absurd rfl closed, by simp,
      .playing, said, Or.inr (Or.inr ⟨rfl, fun still => goes (conversing.parting still here)⟩)⟩

theorem loop_conversing (widthBound : width ≤ maxMapWidth) (heightBound : height ≤ maxMapHeight)
    (conversing : Conversing width height stays remote) (speaking : Speaking remote.stage)
    (goes : remote.stage ≠ .leaving) : Conversing width height stays (remote.advance none) := by
  have silent := silent_conversing conversing speaking
  have writesMap := writeMap_conversing widthBound heightBound conversing speaking
  cases here : remote.stage with
  | connected =>
    simp only [RemoteDisplay.advance, here]
    exact silent .observing _ _ _ trivial (List.forall_mem_nil _) (by simp)
  | observing =>
    simp only [RemoteDisplay.advance, here]
    exact writesMap .looking trivial (by simp) rfl
  | looking =>
    simp only [RemoteDisplay.advance, here]
    exact silent .testing _ _ _ trivial (List.forall_mem_nil _) (by simp)
  | testing =>
    simp only [RemoteDisplay.advance, here]
    by_cases ends : remote.ends = true
    · simp only [ends, if_true]
      exact silent .leaving _ _ _ trivial (List.forall_mem_nil _) fun _ => ends
    · simp only [ends]
      exact silent .waiting _ _ _ trivial (List.forall_mem_nil _) (by simp)
  | waiting =>
    simp only [RemoteDisplay.advance, here]
    split
    · exact conversing
    · exact silent (.woken _) _ _ _ trivial (List.forall_mem_nil _) (by simp)
  | woken ticksPassed =>
    simp only [RemoteDisplay.advance, here]
    by_cases ends : remote.ends = true
    · simp only [ends, if_true]
      exact silent .leaving _ _ _ trivial (List.forall_mem_nil _) fun _ => ends
    · simp only [ends]
      exact silent (.reading ticksPassed) _ _ _ trivial (List.forall_mem_nil _) (by simp)
  | reading ticksPassed =>
    simp only [RemoteDisplay.advance, here, RemoteDisplay.sendPlayerState]
    split
    · exact speak_conversing conversing speaking (.copying ticksPassed) _ _ _ conversing.server conversing.inRange trivial
        (by simp) (List.forall_mem_nil _) (plain_playerState _ _) rfl
    · exact silent (.copying ticksPassed) _ _ _ trivial (List.forall_mem_nil _) (by simp)
  | copying ticksPassed =>
    simp only [RemoteDisplay.advance, here]
    split
    · exact writesMap .testing trivial (by simp) rfl
    · exact copy_conversing conversing here
  | sending changes =>
    cases changes with
    | nil =>
      simp only [RemoteDisplay.advance, here]
      exact silent .testing _ _ _ trivial (List.forall_mem_nil _) (by simp)
    | cons change rest =>
      simp only [RemoteDisplay.advance, here]
      exact visit_conversing widthBound heightBound conversing here
  | leaving => exact absurd here goes
  | _ =>
    rw [here] at speaking
    exact speaking.elim

theorem advance_conversing (widthBound : width ≤ maxMapWidth) (heightBound : height ≤ maxMapHeight)
    (conversing : Conversing width height stays remote) : Conversing width height stays (remote.advance none) := by
  by_cases speaking : Speaking remote.stage
  · by_cases leaving : remote.stage = .leaving
    · exact leave_conversing conversing leaving
    · exact loop_conversing widthBound heightBound conversing speaking leaving
  · cases here : remote.stage with
    | accepted => exact enter_conversing conversing here
    | registered => exact greet_conversing conversing here
    | closed =>
      simp only [RemoteDisplay.advance, here]
      exact conversing
    | _ =>
      rw [here] at speaking
      exact absurd trivial speaking

/-! ## Steps of the client -/

theorem reads_listens {display : Display} (reads : display.reads = true) :
    display.renderer.destroying = .absent ∧ display.renderer.calls .main = .idle ∧ Listens display.client.state := by
  unfold Display.reads at reads
  split at reads
  case h_1 absent idle state => exact ⟨absent, idle, Or.inl state⟩
  case h_2 absent idle state => exact ⟨absent, idle, Or.inr state⟩
  case h_3 => cases reads

theorem receive_processes {display : Display} {client : SocketClient} (reads : display.reads = true)
    (processed : socketClientProcess display.client message = some client) :
    ∃ next, display.receive message = some next ∧ next.client = client := by
  obtain ⟨absent, idle, listens⟩ := reads_listens reads
  unfold Display.receive
  rw [absent, idle]
  rcases listens with state | state
  all_goals
    rw [state]
    simp only [processed]
    cases message with
    | playerState status direction =>
      by_cases changed : status ≠ display.client.lastStatus
      · exact ⟨_, if_pos changed, rfl⟩
      · exact ⟨_, if_neg changed, rfl⟩
    | _ => exact ⟨_, rfl, rfl⟩

/-- A message that is there is read, and does what was expected of it. -/
theorem receive_conversing (conversing : Conversing width height stays remote) :
    ∃ later, remote.receive = .ok later ∧ Conversing width height stays later := by
  unfold RemoteDisplay.receive
  split
  case isFalse => exact ⟨remote, rfl, conversing⟩
  case isTrue reads =>
    obtain ⟨told, ⟨messages, written, script⟩, tells⟩ := conversing.said
    by_cases coming : remote.bytes = []
    · rw [coming]
      exact ⟨remote, rfl, conversing⟩
    · obtain ⟨read, later, taken, fits, script⟩ := script_reads script written coming
      obtain ⟨map, effect⟩ := fits remote.display.client.map
      rw [← process_messageMap] at effect
      obtain ⟨client, processed, -⟩ := Option.map_eq_some_iff.mp effect
      obtain ⟨display, received, same⟩ := receive_processes reads processed
      have stepped : remote.display.step (.message read) = .ok display := by
        simp only [Display.step, received]
      rw [taken]
      simp only [stepped]
      refine ⟨_, rfl, conversing.server, conversing.inRange, conversing.sendable, conversing.running, conversing.parting,
        told, ⟨later, rfl, ?_⟩, tells⟩
      change Script display.client.state later told
      rw [same, process_answer processed]
      exact script

theorem client_conversing (conversing : Conversing width height stays remote) {step : DisplayStep}
    (silent : ∀ message, step ≠ .message message) (ran : remote.display.step step = .ok next) :
    Conversing width height stays { remote with display := next } := by
  obtain ⟨told, ⟨messages, written, script⟩, tells⟩ := conversing.said
  refine ⟨conversing.server, conversing.inRange, conversing.sendable, conversing.running, conversing.parting,
    told, ⟨messages, written, ?_⟩, tells⟩
  rw [step_client silent ran]
  exact script

/-! ## Whole runs -/

/-- No message breaks off. -/
def Whole : RemoteStep → Prop
  | .send (some _) => False
  | _ => True

instance : DecidablePred Whole := by
  intro step
  unfold Whole
  split <;> infer_instance

theorem step_conversing (sizes : Sizes width height) (widthBound : width ≤ maxMapWidth)
    (heightBound : height ≤ maxMapHeight) (conversing : Conversing width height stays remote) {step : RemoteStep}
    (whole : Whole step) (still : stays → step ≠ .shutdown) (ran : remote.step step = .ok later) :
    Conversing width height stays later := by
  cases step with
  | lockedSection rng =>
    simp only [RemoteDisplay.step] at ran
    split at ran
    case h_1 server ticked =>
      cases ran
      exact lockedSection_conversing sizes conversing ticked
    case h_2 => cases ran
  | tickerTick =>
    cases ran
    exact tickerTick_conversing conversing
  | endGame =>
    cases ran
    exact endGame_conversing conversing
  | operate action =>
    cases ran
    split
    · exact operate_conversing conversing action
    · exact conversing
  | send broken =>
    cases ran
    cases broken with
    | none => exact advance_conversing widthBound heightBound conversing
    | some written => exact whole.elim
  | shutdown =>
    cases ran
    have leaves : ¬ stays := fun stay => still stay rfl
    exact ⟨conversing.server, conversing.inRange, conversing.sendable, fun stay => absurd stay leaves,
      fun stay => absurd stay leaves, conversing.said⟩
  | receive =>
    obtain ⟨next, received, kept⟩ := receive_conversing conversing
    rw [show remote.step .receive = .ok next from received] at ran
    cases ran
    exact kept
  | client step =>
    simp only [RemoteDisplay.step] at ran
    split at ran
    case h_1 =>
      cases ran
      exact conversing
    case h_2 silent =>
      split at ran
      case h_1 display stepped =>
        cases ran
        exact client_conversing conversing silent stepped
      case h_2 => cases ran

/-- The client's map is only written where there is one. -/
theorem step_inside (conversing : Conversing width height stays remote) (step : RemoteStep) :
    remote.step step ≠ .error .outOfRange := by
  intro failed
  cases step with
  | lockedSection rng =>
    simp only [RemoteDisplay.step] at failed
    split at failed
    · cases failed
    · cases failed
  | receive =>
    obtain ⟨next, received, -⟩ := receive_conversing conversing
    rw [show remote.step .receive = .ok next from received] at failed
    cases failed
  | client step => cases step <;> cases failed
  | _ => cases failed

/-- The client joins, the game ends, and everything is read. -/
def endedGame : List RemoteStep :=
  List.replicate 6 (.send none) ++ [.endGame, .tickerTick] ++ List.replicate 3 (.send none) ++
    (List.replicate 3 (RemoteStep.receive :: List.replicate 4 (.client (.proceed .main)))).flatten

private theorem endedGame_closes : ∃ remote, freshRemote.run endedGame = .ok remote ∧
    remote.stage = .closed ∧ remote.bytes = [] := by decide +kernel

end SnakePosix.Conversations
