import SnakePosix.Server.Main
import SnakePosix.SlotTurns
import SnakePosix.SnakeRuns

/-! When the game ends. `no_player_alive_` is cleared by the visits that leave a
player playing or paused and by no other, so a tick returns whether there is one
left; the loop of `main` goes by what its ticks return. -/
namespace SnakePosix.GameLoop
open GuardedRuns ChangelogReplay GameRuns SlotTurns SnakeRuns

def Alive (status : PlayerStatus) : Prop := status = .playing ∨ status = .paused

def SomeoneAlive (manager : PlayerManager) : Prop := ∃ p < maxPlayers, Alive (manager.players p).status

instance : DecidablePred Alive := fun _ => inferInstanceAs (Decidable (_ ∨ _))

instance : DecidablePred SomeoneAlive := fun manager =>
  inferInstanceAs (Decidable (∃ p < maxPlayers, Alive (manager.players p).status))

variable {state next : TickState} {data after : ProcessPlayerData} {rng rng' : Rng} {playerId : Nat}

/-! ## What leaves the flag alone -/

theorem placeFruit_noPlayerAlive (data : ProcessPlayerData) (fruit : Coordinates) :
    (placeFruit data fruit).noPlayerAlive = data.noPlayerAlive := rfl

theorem spawnFruit_noPlayerAlive (spawned : spawnFruit data rng = .ok (after, rng')) :
    after.noPlayerAlive = data.noPlayerAlive := by
  unfold spawnFruit at spawned
  split at spawned
  · cases spawned
  · cases spawned
    rfl
  · cases spawned
    apply placeFruit_noPlayerAlive

theorem spawnFruits_noPlayerAlive (count : Nat) (spawned : spawnFruits count data rng = .ok (after, rng')) :
    after.noPlayerAlive = data.noPlayerAlive := by
  induction count generalizing data rng with
  | zero =>
    cases spawned
    rfl
  | succ count ih =>
    obtain ⟨⟨middle, rng₁⟩, first, rest⟩ := bind_ok.mp spawned
    exact (ih rest).trans (spawnFruit_noPlayerAlive first)

theorem sweepDeadTiles_noPlayerAlive (data : ProcessPlayerData) :
    (sweepDeadTiles data).noPlayerAlive = data.noPlayerAlive := by
  have tile : ∀ (data : ProcessPlayerData) c, (sweepTile data c).noPlayerAlive = data.noPlayerAlive := by
    intro data c
    unfold sweepTile
    split
    · rfl
    · rfl
  have tiles : ∀ (coordinates : List Coordinates) (data : ProcessPlayerData),
      (coordinates.foldl sweepTile data).noPlayerAlive = data.noPlayerAlive := by
    intro coordinates
    induction coordinates with
    | nil => exact fun _ => rfl
    | cons c rest ih => exact fun data => (ih (sweepTile data c)).trans (tile data c)
  unfold sweepDeadTiles
  split
  · apply tiles
  · rfl

/-! ## One visit -/

/-- The visit of a slot changes that slot only, and the flag is cleared exactly if
it was before or the slot's player is left alive. -/
structure Counted (state : TickState) (playerId : Nat) (next : TickState) : Prop where
  others : ∀ p, p ≠ playerId → next.manager.players p = state.manager.players p
  flag : next.data.noPlayerAlive = false ↔
    state.data.noPlayerAlive = false ∨ Alive (next.manager.players playerId).status

/-- A visit clears the flag exactly if it leaves a player alive. -/
theorem visit_alive {before after : PlayerStatus} {clears : Bool} (visit : Visit before after clears) :
    clears = true ↔ Alive after := by
  cases visit with
  | idle snakeless => exact iff_of_false Bool.false_ne_true fun alive => snakeless (alive.imp_right Or.inl)
  | paused => exact iff_of_true rfl (Or.inr rfl)
  | spawned | moved => exact iff_of_true rfl (Or.inl rfl)
  | noRoom | left | crashed => exact iff_of_false Bool.false_ne_true nofun

theorem forEachSlot_counted (ran : forEachSlot state playerId = .ok next) : Counted state playerId next := by
  obtain ⟨others, clears, visit, flag⟩ := forEachSlot_visited ran
  refine ⟨others, ?_⟩
  rw [flag, Bool.and_eq_false_iff, Bool.not_eq_false', visit_alive visit]

/-! ## All visits -/

theorem playerManagerForEach_flag (fresh : state.data.noPlayerAlive = true)
    (ran : playerManagerForEach state = .ok next) :
    next.data.noPlayerAlive = false ↔ SomeoneAlive next.manager := by
  refine range_preserves forEachSlot
    (fun bound state => state.data.noPlayerAlive = false ↔ ∃ p < bound, Alive (state.manager.players p).status)
    maxPlayers (fun bound state next _ before stepped => ?_) ?_ ran
  · obtain ⟨others, flag⟩ := forEachSlot_counted stepped
    rw [flag, before, Nat.exists_lt_succ_right]
    refine or_congr_left ⟨?_, ?_⟩
    · rintro ⟨p, within, alive⟩
      exact ⟨p, within, by rwa [others p (Nat.ne_of_lt within)]⟩
    · rintro ⟨p, within, alive⟩
      exact ⟨p, within, by rwa [others p (Nat.ne_of_lt within)] at alive⟩
  · simp [fresh]

/-- A tick that returns tells whether a player is alive once all are processed. -/
theorem serverTick_alive {server server' : Server} {alive : Bool} (ran : serverTick server rng = .ok (server', alive)) :
    ∃ state, playerManagerForEach (server.beginTick rng) = .ok state ∧
      server'.gameState.playerManager = state.manager ∧ (alive = true ↔ SomeoneAlive state.manager) := by
  obtain ⟨locked, ranLocked, rfl⟩ := serverTick_ok ran
  obtain ⟨state, data, rng', visited, spawned, gameState, -, rfl⟩ := serverTickLocked_ok ranLocked
  refine ⟨state, visited, congrArg GameState.playerManager gameState, ?_⟩
  have kept : data.noPlayerAlive = state.data.noPlayerAlive :=
    (spawnFruits_noPlayerAlive _ spawned).trans (sweepDeadTiles_noPlayerAlive state.data)
  rw [Bool.not_eq_true', kept]
  exact playerManagerForEach_flag rfl visited

/-! ## The loop of `main` -/

/-- The game at the end of each tick, were the loop never left. -/
def endings (game : Game) : List Round → Except Halt (List Game)
  | [] => .ok []
  | round :: rest => do
    let game := game.operateAll round.operations
    let (server, _) ← serverTick game.server round.rng
    let later ← endings { game with server } rest
    .ok ({ game with server } :: later)

/-- A tick that ends with nobody alive, when somebody was at the end of an earlier
one or is known to have been before. -/
def Last (before : Prop) (games : List Game) (n : Nat) : Prop :=
  (∃ game, games[n]? = some game ∧ ¬ SomeoneAlive game.manager) ∧
    (before ∨ ∃ m < n, ∃ game, games[m]? = some game ∧ SomeoneAlive game.manager)

variable {before : Prop} {game : Game} {games : List Game} {rounds : List Round}

theorem last_zero : Last before (game :: games) 0 ↔ ¬ SomeoneAlive game.manager ∧ before := by
  simp [Last]

theorem last_succ : Last before (game :: games) (n + 1) ↔
    Last (before ∨ SomeoneAlive game.manager) games n := by
  unfold Last
  rw [List.getElem?_cons_succ, or_assoc, Nat.exists_lt_succ_left]
  simp

/-- What the loop has to show for its rounds. -/
inductive Ended (before : Prop) (games : List Game) (rounds : Nat) : LoopStage → Prop where
  | looping (all : games.length = rounds) (never : ∀ n, ¬ Last before games n) : Ended before games rounds .looping
  | finished (n : Nat) (all : games.length = n + 1) (last : Last before games n)
    (first : ∀ m < n, ¬ Last before games m) : Ended before games rounds .finished

private theorem ended_cons {stage : LoopStage} (goesOn : ¬ Last before (game :: games) 0)
    (ended : Ended (before ∨ SomeoneAlive game.manager) games count stage) :
    Ended before (game :: games) (count + 1) stage := by
  have earlier : ∀ bound, (∀ m < bound, ¬ Last (before ∨ SomeoneAlive game.manager) games m) →
      ∀ m < bound + 1, ¬ Last before (game :: games) m := by
    intro bound never m within
    cases m with
    | zero => exact goesOn
    | succ m => exact fun last => never m (Nat.lt_of_succ_lt_succ within) (last_succ.mp last)
  cases ended with
  | looping all never =>
    refine .looping (congrArg (· + 1) all) fun n => ?_
    exact earlier (n + 1) (fun m _ => never m) n (Nat.lt_succ_of_lt (Nat.lt_succ_self n))
  | finished n all last first =>
    exact .finished (n + 1) (congrArg (· + 1) all) (last_succ.mpr last) (earlier n first)

/-- What a tick makes of the loop's variables, and that the loop's condition fails
after the last tick only. -/
private theorem tick_spec {loop next : MainLoop} (ticked : loop.tick rng = .ok next) (games : List Game) :
    (∃ alive, serverTick loop.game.server rng = .ok (next.game.server, alive)) ∧
      next.game = { loop.game with server := next.game.server } ∧ next.ticks = loop.ticks + 1 ∧
      (next.gameTickedAtLeastOnce = true ↔ loop.gameTickedAtLeastOnce = true ∨ SomeoneAlive next.game.manager) ∧
      ((next.gameRunning || !next.gameTickedAtLeastOnce) = true ↔
        ¬ Last (loop.gameTickedAtLeastOnce = true) (next.game :: games) 0) := by
  obtain ⟨⟨server, alive⟩, returned, made⟩ := bind_ok.mp ticked
  cases made
  obtain ⟨state, -, manager, living⟩ := serverTick_alive returned
  have living : SomeoneAlive ({ loop.game with server := server } : Game).manager ↔ alive = true := by
    rw [living, ← manager]
    rfl
  refine ⟨⟨alive, returned⟩, rfl, rfl, ?_, ?_⟩
  · rw [living]
    cases alive <;> simp
  · rw [last_zero, living]
    cases alive <;> simp

private theorem endings_cons {round : Round} {next : Game} {alive : Bool}
    (returned : serverTick (game.operateAll round.operations).server round.rng = .ok (next.server, alive))
    (kept : next = { game.operateAll round.operations with server := next.server })
    (later : endings next rounds = .ok games) : endings game (round :: rounds) = .ok (next :: games) := by
  apply bind_ok.mpr
  refine ⟨(next.server, alive), returned, ?_⟩
  apply bind_ok.mpr
  rw [kept] at later ⊢
  exact ⟨games, later, rfl⟩

theorem run_ended (rounds : List Round) (loop : MainLoop) (uninterrupted : ∀ round ∈ rounds, round.interrupted = false)
    {final : MainLoop} {stage : LoopStage} (ran : loop.run rounds = .ok (final, stage)) :
    ∃ games, final.ticks = loop.ticks + games.length ∧
      endings loop.game (rounds.take games.length) = .ok games ∧
      Ended (loop.gameTickedAtLeastOnce = true) games rounds.length stage := by
  induction rounds generalizing loop with
  | nil =>
    cases ran
    exact ⟨[], rfl, rfl, .looping rfl fun n ⟨⟨game, found, _⟩, _⟩ => nomatch found⟩
  | cons round rest ih =>
    have quiet := uninterrupted round List.mem_cons_self
    unfold MainLoop.run at ran
    simp only [quiet, Bool.false_eq_true, if_false] at ran
    obtain ⟨next, ticked, ran⟩ := bind_ok.mp ran
    split at ran
    · rename_i goesOn
      obtain ⟨games, all, played, shown⟩ := ih next (fun round member =>
        uninterrupted round (List.mem_cons_of_mem _ member)) ran
      obtain ⟨⟨alive, returned⟩, kept, counted, once, condition⟩ := tick_spec ticked games
      refine ⟨next.game :: games, ?_, endings_cons returned kept played, ended_cons (condition.mp goesOn) ?_⟩
      · rw [all, counted, List.length_cons, Nat.add_right_comm, Nat.add_assoc]
      · rwa [once] at shown
    · rename_i left
      obtain ⟨⟨alive, returned⟩, kept, counted, once, condition⟩ := tick_spec ticked []
      cases ran
      refine ⟨[final.game], counted, endings_cons returned kept rfl, .finished 0 rfl ?_ nofun⟩
      by_contra never
      exact left (condition.mpr never)

/-- The game ends exactly when nobody is alive any more: a tick returns whether a
player is, and the loop is left at the first tick that ends with nobody alive
after one that ended with somebody. -/
theorem game_ends_with_nobody_alive :
    (∀ (server : Server) (rng : Rng) (server' : Server) (alive : Bool),
      serverTick server rng = .ok (server', alive) →
      ∃ state, playerManagerForEach (server.beginTick rng) = .ok state ∧
        server'.gameState.playerManager = state.manager ∧
        (alive = true ↔ ∃ p < maxPlayers, (state.manager.players p).status = .playing ∨
          (state.manager.players p).status = .paused)) ∧
    ∀ (game : Game) (rounds : List Round), (∀ round ∈ rounds, round.interrupted = false) →
      ∀ final stage, (MainLoop.start game).run rounds = .ok (final, stage) →
      ∃ games, games.length = final.ticks ∧ endings game (rounds.take final.ticks) = .ok games ∧
        Ended False games rounds.length stage := by
  constructor
  · exact fun server rng server' alive ran => serverTick_alive ran
  · intro game rounds uninterrupted final stage ran
    obtain ⟨games, all, played, ended⟩ := run_ended rounds (MainLoop.start game) uninterrupted ran
    have all : games.length = final.ticks := by rw [all, MainLoop.start, Nat.zero_add]
    refine ⟨games, all, all ▸ played, ?_⟩
    simpa only [MainLoop.start, Bool.false_eq_true] using ended

/-- A player joins, is paused for a tick and leaves. -/
def lonelyPlayer : List Round :=
  [{ operations := [], interrupted := false, rng := drawing [] },
    { operations := [.register], interrupted := false, rng := drawing [2, 2, 9, 9] },
    { operations := [.pause 0], interrupted := false, rng := drawing [] },
    { operations := [.unregister 0], interrupted := false, rng := drawing [] },
    { operations := [.register], interrupted := false, rng := drawing [2, 2, 9, 9] }]

private theorem lonelyPlayer_finished : ∃ result, (MainLoop.start emptyGame).run lonelyPlayer = .ok result ∧
    result.2 = .finished ∧ result.1.ticks = 4 := by decide +kernel

private theorem emptyGame_ticks : ∃ result, serverTick emptyGame.server (drawing []) = .ok result ∧
    ¬ SomeoneAlive result.1.gameState.playerManager := by decide +kernel

theorem game_ends_with_nobody_alive_lonelyPlayer :
    (∃ server, serverTick emptyGame.server (drawing []) = .ok (server, false)) ∧
      ∃ games : List Game, games.length = 4 ∧ endings emptyGame (lonelyPlayer.take 4) = .ok games ∧
        Last False games 3 := by
  constructor
  · obtain ⟨⟨server, alive⟩, ticked, nobody⟩ := emptyGame_ticks
    obtain ⟨state, -, manager, living⟩ := game_ends_with_nobody_alive.1 _ _ server alive ticked
    rw [manager] at nobody
    obtain rfl : alive = false := Bool.eq_false_iff.mpr fun alive => nobody (living.mp alive)
    exact ⟨server, ticked⟩
  obtain ⟨⟨final, stage⟩, ran, rfl, four⟩ := lonelyPlayer_finished
  obtain ⟨games, all, played, ended⟩ :=
    game_ends_with_nobody_alive.2 emptyGame lonelyPlayer (by decide) final .finished ran
  have all : games.length = 4 := all.trans four
  cases ended with
  | finished n same last first =>
    obtain rfl : n = 3 := by omega
    have played : endings emptyGame (lonelyPlayer.take 4) = .ok games := by rwa [four] at played
    exact ⟨games, all, played, last⟩

/-! ## The loop as a run of the game -/

private theorem step_operate (game : Game) (action : Action) :
    (∃ rng, action = .tick rng) ∨ game.step action = .ok (game.operate action) := by
  cases action with
  | tick rng => exact Or.inl ⟨rng, rfl⟩
  | _ => exact Or.inr rfl

private theorem operateAll_run (operations : List Action) (game : Game) :
    ∃ actions, game.run actions = .ok (game.operateAll operations) := by
  induction operations generalizing game with
  | nil => exact ⟨[], rfl⟩
  | cons action rest ih =>
    obtain ⟨actions, ran⟩ := ih (game.operate action)
    rcases step_operate game action with ⟨rng, rfl⟩ | stepped
    · exact ⟨actions, ran⟩
    · exact ⟨action :: actions, (run_cons_ok stepped).trans ran⟩

/-- Whatever is preserved along every run of the game is preserved by `main`. -/
theorem run_reaches (rounds : List Round) (loop : MainLoop) {final : MainLoop} {stage : LoopStage}
    (ran : loop.run rounds = .ok (final, stage)) : ∃ actions, loop.game.run actions = .ok final.game := by
  induction rounds generalizing loop with
  | nil =>
    cases ran
    exact ⟨[], rfl⟩
  | cons round rest ih =>
    obtain ⟨actions, operated⟩ := operateAll_run round.operations loop.game
    unfold MainLoop.run at ran
    dsimp only at ran
    split at ran
    · cases ran
      exact ⟨actions, operated⟩
    · obtain ⟨next, ticked, ran⟩ := bind_ok.mp ran
      obtain ⟨⟨alive, returned⟩, kept, -⟩ := tick_spec ticked []
      have stepped : (loop.game.operateAll round.operations).step (.tick round.rng) = .ok next.game := by
        apply bind_ok.mpr
        rw [kept]
        exact ⟨(next.game.server, alive), returned, rfl⟩
      split at ran
      · obtain ⟨later, reached⟩ := ih next ran
        exact ⟨actions ++ .tick round.rng :: later,
          run_append.mpr ⟨_, operated, (run_cons_ok stepped).trans reached⟩⟩
      · cases ran
        exact ⟨actions ++ [.tick round.rng], run_append.mpr ⟨_, operated, (run_cons_ok stepped).trans rfl⟩⟩

private theorem step_gameEnded {game next : Game} {action : Action} (stepped : game.step action = .ok next) :
    next.server.gameState.gameEnded = game.server.gameState.gameEnded := by
  rcases step_operate game action with ⟨rng, rfl⟩ | operated
  · obtain ⟨⟨server, alive⟩, ticked, returned⟩ := bind_ok.mp stepped
    obtain ⟨locked, ranLocked, rfl⟩ := serverTick_ok ticked
    obtain ⟨state, data, rng', -, -, gameState, -⟩ := serverTickLocked_ok ranLocked
    cases returned
    change locked.gameState.gameEnded = _
    rw [gameState]
  · rw [operated] at stepped
    cases stepped
    rw [operate_server]

/-- No tick and no client ends the game: its flag is set when the loop is left, and
not before. -/
theorem serverMain_gameEnded {server : Server} {stage : LoopStage}
    (running : game.server.gameState.gameEnded = false) (ran : serverMain game rounds = .ok (server, stage)) :
    server.gameState.gameEnded = true ↔ stage ≠ .looping := by
  obtain ⟨⟨final, stage'⟩, looped, ended⟩ := bind_ok.mp ran
  obtain ⟨actions, reached⟩ := run_reaches rounds (MainLoop.start game) looped
  have kept : final.game.server.gameState.gameEnded = false :=
    run_always Game.step (fun game => game.server.gameState.gameEnded = false) actions
      (fun _ _ _ _ running stepped => (step_gameEnded stepped).trans running) running reached
  cases stage' with
  | looping =>
    cases ended
    simp [kept]
  | finished =>
    cases ended
    exact iff_of_true rfl nofun
  | interrupted =>
    cases ended
    exact iff_of_true rfl nofun

end SnakePosix.GameLoop
