import SnakePosix.ChangelogReplay

/-! What a visit of `player_manager_for_each` makes of a slot and of the flag
`no_player_alive_`. Nothing is assumed of the map and the caches: the outcomes
tell less than a `Turn` does, but they are all there are in any state. -/
namespace SnakePosix.SlotTurns
open ChangelogReplay GuardedRuns TickTurns

variable {state next : TickState} {data after : ProcessPlayerData} {player player' : Player} {rng rng' : Rng}
  {playerId : Nat} {clears : Bool}

/-! ## Deaths and spawns -/

theorem killPlayer_spec (killed : killPlayer data playerId player = .ok (after, player')) :
    after.noPlayerAlive = data.noPlayerAlive ∧ player'.status = .dead := by
  unfold killPlayer at killed
  dsimp only at killed
  split at killed
  · cases killed
  · cases killed
    exact ⟨rfl, rfl⟩

/-- A player that is spawned is left playing. -/
theorem spawnPlayer_spec {spawned : Option Player}
    (ran : spawnPlayer data playerId rng = .ok (spawned, after, rng')) :
    after.noPlayerAlive = data.noPlayerAlive ∧ ∀ player ∈ spawned, player.status = .playing := by
  unfold spawnPlayer at ran
  split at ran
  · cases ran
  · cases ran
    exact ⟨rfl, nofun⟩
  · split at ran
    · cases ran
      exact ⟨rfl, nofun⟩
    · cases ran
      refine ⟨rfl, fun player member => ?_⟩
      obtain rfl := Option.mem_some_iff.mp member
      rfl

/-! ## One visit -/

/-- The statuses before and after a visit, and whether it clears the flag. -/
inductive Visit : PlayerStatus → PlayerStatus → Bool → Prop where
  | idle (snakeless : ¬ HasSnake status) (resting : ¬ Spawning status) : Visit status status false
  | paused : Visit .paused .paused true
  | noRoom (spawning : Spawning status) : Visit status .dead false
  | spawned (spawning : Spawning status) : Visit status .playing true
  | left : Visit .disconnecting .notConnected false
  | crashed : Visit .playing .dead false
  | moved : Visit .playing .playing true

/-- A visit changes its own slot only. -/
structure Visited (state : TickState) (playerId : Nat) (next : TickState) : Prop where
  others : ∀ p, p ≠ playerId → next.manager.players p = state.manager.players p
  slot : ∃ clears, Visit (state.manager.players playerId).status (next.manager.players playerId).status clears ∧
    next.data.noPlayerAlive = (state.data.noPlayerAlive && !clears)

private theorem visited_kept
    (visit : Visit (state.manager.players playerId).status (state.manager.players playerId).status clears)
    (flag : data.noPlayerAlive = (state.data.noPlayerAlive && !clears)) :
    Visited state playerId { manager := state.manager, data, rng } :=
  ⟨fun _ _ => rfl, clears, visit, flag⟩

private theorem visited_set (visit : Visit (state.manager.players playerId).status player.status clears)
    (flag : data.noPlayerAlive = (state.data.noPlayerAlive && !clears)) :
    Visited state playerId { manager := state.manager.set playerId player, data, rng } := by
  refine ⟨fun p other => if_neg other, clears, ?_, flag⟩
  dsimp only
  rwa [set_players, if_pos rfl]

private theorem flag_left (kept : data.noPlayerAlive = state.data.noPlayerAlive) :
    data.noPlayerAlive = (state.data.noPlayerAlive && !false) := by
  rw [kept, Bool.not_false, Bool.and_true]

private theorem flag_cleared (cleared : data.noPlayerAlive = false) :
    data.noPlayerAlive = (state.data.noPlayerAlive && !true) := by
  rw [cleared, Bool.not_true, Bool.and_false]

private theorem spawning_visited (spawning : Spawning (state.manager.players playerId).status)
    (ran : processSpawningPlayer state playerId player = .ok next) : Visited state playerId next := by
  obtain ⟨⟨spawned, data, rng⟩, placed, rest⟩ := bind_ok.mp ran
  obtain ⟨kept, playing⟩ := spawnPlayer_spec placed
  cases spawned with
  | none =>
    cases rest
    exact visited_set (.noRoom spawning) (flag_left kept)
  | some spawned =>
    have status := playing spawned rfl
    dsimp only at rest
    split at rest
    all_goals
      obtain ⟨⟨data, rng⟩, -, returned⟩ := bind_ok.mp rest
      cases returned
      apply visited_set
      · rw [status]
        exact .spawned spawning
      · exact flag_cleared rfl

private theorem disconnecting_visited (leaving : (state.manager.players playerId).status = .disconnecting)
    (ran : processDisconnectingPlayer state playerId player = .ok next) : Visited state playerId next := by
  obtain ⟨⟨data, player'⟩, killed, returned⟩ := bind_ok.mp ran
  cases returned
  apply visited_set
  · rw [leaving]
    exact .left
  · exact flag_left (killPlayer_spec killed).1

private theorem crash_visited (playing : (state.manager.players playerId).status = .playing)
    (ran : crashPlayer state playerId = .ok next) : Visited state playerId next := by
  obtain ⟨⟨data, player'⟩, killed, returned⟩ := bind_ok.mp ran
  cases returned
  obtain ⟨kept, dead⟩ := killPlayer_spec killed
  apply visited_set
  · rw [playing, dead]
    exact .crashed
  · exact flag_left kept

private theorem moved_visited (playing : (state.manager.players playerId).status = .playing)
    (cleared : data.noPlayerAlive = false) : Visited state playerId { manager := state.manager, data, rng } := by
  apply visited_kept
  · rw [playing]
    exact .moved
  · exact flag_cleared cleared

private theorem advance_visited (playing : (state.manager.players playerId).status = .playing)
    (ran : advancePlayer state playerId c = .ok next) : Visited state playerId next := by
  obtain ⟨data, -, returned⟩ := bind_ok.mp ran
  cases returned
  exact moved_visited playing rfl

private theorem playing_visited (playing : (state.manager.players playerId).status = .playing)
    (ran : processPlayingPlayer state playerId player = .ok next) : Visited state playerId next := by
  unfold processPlayingPlayer at ran
  dsimp only at ran
  split at ran
  · exact advance_visited playing ran
  · cases ran
    exact moved_visited playing rfl
  · split at ran
    · split at ran
      · exact advance_visited playing ran
      · exact crash_visited playing ran
    · split at ran
      · exact crash_visited playing ran
      · split at ran
        · exact advance_visited playing ran
        · exact crash_visited playing ran
  · exact crash_visited playing ran

/-- A visit that returns is one of the outcomes. -/
theorem forEachSlot_visited (ran : forEachSlot state playerId = .ok next) : Visited state playerId next := by
  unfold forEachSlot serverTickProcessPlayer at ran
  cases status : (state.manager.players playerId).status with
  | respawning =>
    simp only [status, reduceCtorEq, ↓reduceIte] at ran
    exact spawning_visited (Or.inl status) ran
  | joining =>
    simp only [status, reduceCtorEq, ↓reduceIte] at ran
    exact spawning_visited (Or.inr status) ran
  | playing =>
    simp only [status, reduceCtorEq, ↓reduceIte] at ran
    exact playing_visited status ran
  | disconnecting =>
    simp only [status, reduceCtorEq, ↓reduceIte] at ran
    exact disconnecting_visited status ran
  | paused =>
    simp only [status, reduceCtorEq, ↓reduceIte] at ran
    cases ran
    apply visited_kept
    · rw [status]
      exact .paused
    · exact flag_cleared rfl
  | notConnected | dead | undeclared =>
    simp only [status, reduceCtorEq, ↓reduceIte] at ran
    cases ran
    apply visited_kept
    · rw [status]
      exact .idle (by simp [HasSnake]) (by simp [Spawning])
    · exact flag_left rfl

end SnakePosix.SlotTurns
