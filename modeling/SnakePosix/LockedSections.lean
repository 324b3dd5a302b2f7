import SnakePosix.GameRuns
import SnakePosix.Server.Sections

/-! What a client that follows the map can rely on: between the locked sections the
changelog leads from the map before the last one to the map there is, and the ticker
does not run ahead of the sections. -/
namespace SnakePosix.LockedSections
open GuardedRuns MapProofs Torus TickTurns ChangelogReplay GameRuns

variable {width height : Nat} {server next : RunningServer} {map copy : Map} {c : Coordinates} {rng : Rng}

/-- The changelog changes nothing on the map it has led to. -/
structure ServerSide (width height : Nat) (server : RunningServer) : Prop where
  steady : Steady width height server.game
  inside : ∀ change ∈ server.gameState.changelog, change.coordinates.InGrid width height
  recent : ∀ c, c.InGrid width height →
    (replayChanges server.gameState.map server.gameState.changelog).tiles c = server.gameState.map.tiles c
  counted : server.record.ticks + (if server.ticking then 1 else 0) =
    server.record.sections + (if server.gameState.gameEnded then 1 else 0)
  clock : server.gameState.ticker.tick = wrap64 server.record.ticks
  fresh : server.record.behind = 0 → server.record.missed = []
  single : server.record.behind = 1 → server.record.missed = server.gameState.changelog

/-- What a locked section is for a client: nothing, or some changes more. -/
inductive Sectioned (width height : Nat) (server next : RunningServer) : Prop where
  | idle (same : next = server)
  | ran (carries : ∀ c, c.InGrid width height →
        (replayChanges server.gameState.map next.gameState.changelog).tiles c = next.gameState.map.tiles c)
      (missed : next.record.missed = server.record.missed ++ next.gameState.changelog)
      (behind : next.record.behind = server.record.behind + 1)
      (sections : next.record.sections = server.record.sections + 1)
      (ticks : next.record.ticks = server.record.ticks)
      (ended : next.gameState.gameEnded = server.gameState.gameEnded)

theorem inGrid_of_steady (steady : Steady width height server.game) :
    server.gameState.map.InBounds c ↔ c.InGrid width height := by
  obtain ⟨rfl, rfl⟩ := steady.sized
  exact Iff.rfl

theorem start_side (map : Map) (directions : Nat → Direction) (cache : PlayerDataCache) (template : MapTemplate) :
    ServerSide template.width template.height (.start (Game.start map directions cache template)) :=
  ⟨start_steady map directions cache template, nofun, fun _ _ => rfl, rfl, rfl, fun _ => rfl, nofun⟩

theorem lockedSection_side (sizes : Sizes width height) (side : ServerSide width height server)
    (ran : server.lockedSection rng = .ok next) :
    ServerSide width height next ∧ Sectioned width height server next := by
  unfold RunningServer.lockedSection at ran
  split at ran
  case isTrue =>
    cases ran
    exact ⟨side, .idle rfl⟩
  case isFalse free =>
    obtain ⟨⟨server', alive⟩, ticked, ran⟩ := bind_ok.mp ran
    cases ran
    rw [not_or, Bool.not_eq_true] at free
    have playable := playable_of_sizes sizes side.steady.sized
    have steady := serverTickLocked_steady playable side.steady ticked
    obtain ⟨size, carries⟩ := serverTickLocked_logged playable side.steady.cached ticked
    have again := replay_between_ticks playable side.steady.cached ticked server'.gameState.map size
      fun _ _ => Or.inr rfl
    obtain ⟨state, data, rng', -, -, gameState, -⟩ := serverTickLocked_ok ticked
    have ended : server'.gameState.gameEnded = server.gameState.gameEnded := by rw [gameState]
    have clock : server'.gameState.ticker = server.gameState.ticker := by rw [gameState]
    refine ⟨⟨steady, serverTickLocked_changes sizes side.steady ticked, fun c inside => ?_, ?_,
      (congrArg Ticker.tick clock).trans side.clock, nofun, fun one => ?_⟩,
      .ran (fun c inside => ?_) rfl rfl rfl rfl ended⟩
    · obtain ⟨rfl, rfl⟩ := steady.sized
      exact again.2 c inside
    · have counted := side.counted
      rw [free.1] at counted
      change server.record.ticks + 1 = server.record.sections + 1 + (if server'.gameState.gameEnded then 1 else 0)
      rw [ended]
      simp only [Bool.false_eq_true, if_false] at counted
      omega
    · have none : server.record.behind = 0 := Nat.succ.inj one
      exact congrArg (· ++ server'.gameState.changelog) (side.fresh none)
    · exact carries c ((inGrid_of_steady side.steady).mpr inside)

theorem tickerTick_side (side : ServerSide width height server) : ServerSide width height server.tickerTick := by
  unfold RunningServer.tickerTick
  split
  case isTrue ticking =>
    refine ⟨tick_steady side.steady, side.inside, side.recent, ?_, ?_, side.fresh, side.single⟩
    · have counted := side.counted
      rw [ticking] at counted
      exact counted
    · change wrap64 (server.gameState.ticker.tick + 1) = wrap64 (server.record.ticks + 1)
      rw [side.clock]
      exact Nat.mod_add_mod _ _ _
  case isFalse => exact side

theorem endGame_side (side : ServerSide width height server) : ServerSide width height server.endGame := by
  unfold RunningServer.endGame
  split
  case isTrue => exact side
  case isFalse free =>
    rw [not_or, Bool.not_eq_true, Bool.not_eq_true] at free
    refine ⟨⟨side.steady.sized, side.steady.cached, side.steady.active⟩, side.inside, side.recent, ?_, side.clock,
      side.fresh, side.single⟩
    have counted := side.counted
    rw [free.1, free.2] at counted
    exact congrArg (· + 1) counted

/-- An operation leaves the map, the changelog and the ticker alone. -/
theorem operate_rest (server : RunningServer) (action : Action) :
    (server.operate action).gameState.map = server.gameState.map ∧
      (server.operate action).gameState.changelog = server.gameState.changelog ∧
      (server.operate action).gameState.ticker = server.gameState.ticker ∧
      (server.operate action).gameState.gameEnded = server.gameState.gameEnded := by
  have same := operate_server server.game action
  exact ⟨operate_map server.game action, operate_changelog server.game action,
    congrArg (fun server => server.gameState.ticker) same, congrArg (fun server => server.gameState.gameEnded) same⟩

theorem operate_side (side : ServerSide width height server) (action : Action) :
    ServerSide width height (server.operate action) := by
  obtain ⟨map, changelog, ticker, ended⟩ := operate_rest server action
  refine ⟨operate_steady side.steady action, ?_, ?_, ?_, ?_, side.fresh, ?_⟩
  · rw [changelog]
    exact side.inside
  · rw [changelog, map]
    exact side.recent
  · rw [ended]
    exact side.counted
  · rw [ticker]
    exact side.clock
  · rw [changelog]
    exact side.single

theorem caughtUp_side (side : ServerSide width height server) : ServerSide width height server.caughtUp :=
  ⟨side.steady, side.inside, side.recent, side.counted, side.clock, fun _ => rfl, nofun⟩

/-- Until the end of the game the ticker has ticked for locked sections only. -/
theorem tick_seen (side : ServerSide width height server) (short : server.record.ticks < 2 ^ 64)
    (running : server.gameState.gameEnded = false) : server.gameState.ticker.tick ≤ server.record.sections := by
  have counted := side.counted
  have clock : server.gameState.ticker.tick = server.record.ticks := side.clock.trans (Nat.mod_eq_of_lt short)
  rw [running] at counted
  simp only [Bool.false_eq_true, if_false] at counted
  omega

/-- A client that has seen the ticker's last turn, of sections it is not behind of, is
behind of none. -/
theorem caught_up {lastTick : Nat} (side : ServerSide width height server) (short : server.record.ticks < 2 ^ 64)
    (released : server.ticking = false) (caught : lastTick = server.gameState.ticker.tick)
    (counts : lastTick + server.record.behind ≤ server.record.sections) : server.record.missed = [] := by
  apply side.fresh
  have counted := side.counted
  have clock : server.gameState.ticker.tick = server.record.ticks := side.clock.trans (Nat.mod_eq_of_lt short)
  rw [released] at counted
  simp only [Bool.false_eq_true, if_false] at counted
  split at counted <;> omega

end SnakePosix.LockedSections
