import SnakePosix.SnakeRuns

/-! A pause protects. Nothing that happens while a snake is paused, sound or not,
moves it, takes a cell of it or gives it one. -/
namespace SnakePosix.PausedSnakes
open ChangelogReplay GameRuns GuardedRuns MapProofs Snakes SnakeRuns TickTurns Torus

variable {game next final : Game} {state start after : TickState} {p q playerId : Nat} {rng : Rng}
  {server server' : Server}

/-- The player is paused, and its tiles and the ends of its snake are what they were. -/
structure Untouched (before after : Game) (p : Nat) : Prop where
  paused : (after.manager.players p).status = .paused
  head : after.server.playerDataCache.head p = before.server.playerDataCache.head p
  tail : after.server.playerDataCache.tail p = before.server.playerDataCache.tail p
  kept : ∀ c, Owns before.server.gameState.map p c →
    after.server.gameState.map.tiles c = before.server.gameState.map.tiles c
  claimed : ∀ c, Owns after.server.gameState.map p c → Owns before.server.gameState.map p c

theorem untouched_refl (paused : (game.manager.players p).status = .paused) : Untouched game game p :=
  ⟨paused, rfl, rfl, fun _ _ => rfl, fun _ owned => owned⟩

theorem untouched_trans (early : Untouched game next p) (late : Untouched next final p) : Untouched game final p where
  paused := late.paused
  head := late.head.trans early.head
  tail := late.tail.trans early.tail
  kept := by
    intro c owned
    have same := early.kept c owned
    exact (late.kept c ((owns_of_tiles_eq same).mpr owned)).trans same
  claimed := fun c owned => early.claimed c (late.claimed c owned)

/-! ## A tick -/

theorem spared_trans (early : Spared start state p fun _ => False) (late : Spared state after p fun _ => False) :
    Spared start after p fun _ => False where
  slot := late.slot.trans early.slot
  head := late.head.trans early.head
  tail := late.tail.trans early.tail
  kept := by
    intro c owned _
    have same := early.kept c owned id
    exact (late.kept c ((owns_of_tiles_eq same).mpr owned) id).trans same
  claimed := fun c owned => early.claimed c (late.claimed c owned).1

/-- Neither its own visit nor anybody else's does anything to a paused snake. -/
theorem turn_untouched (turn : Turn state playerId (.ok after)) (paused : (state.manager.players p).status = .paused) :
    Spared state after p fun _ => False := by
  by_cases own : p = playerId
  · subst own
    cases turn with
    | idle | paused => exact ⟨rfl, rfl, rfl, fun _ _ _ => rfl, fun _ owned => ⟨owned, id⟩⟩
    | noRoom status | spawned status => simp [Spawning, paused] at status
    | left status | crashed status | fed status | advanced status =>
      rw [paused] at status
      cases status
  · rcases turn_spares turn own with spared | ⟨-, running, -⟩
    · exact spared
    · exact absurd paused running

theorem tick_untouched (playable : Playable game.server.gameState.map)
    (cached : CacheInside game.manager game.server.playerDataCache game.server.gameState.map)
    (paused : (game.manager.players p).status = .paused)
    (ran : serverTickLocked game.server rng = .ok (server', alive)) :
    Untouched game { game with server := server'.tick } p := by
  obtain ⟨state, _, _, visited, -⟩ := serverTickLocked_ok ran
  obtain ⟨ticking, spared⟩ := playerManagerForEach_turns (Spared (game.server.beginTick rng) · p fun _ => False) playable
    (fun state playerId _ next _ turn spared =>
      spared_trans spared (turn_untouched turn ((congrArg Player.status spared.slot).trans paused)))
    (beginTick_ticking game.server rng cached)
    ⟨rfl, rfl, rfl, fun _ _ _ => rfl, fun _ owned => ⟨owned, id⟩⟩ visited
  obtain ⟨data, undisturbed, returned⟩ := serverTickLocked_after_visits visited
    (playable_sameSize ticking.logged.size playable)
  rw [returned] at ran
  cases ran
  refine ⟨(congrArg Player.status spared.slot).trans paused, ?_, ?_, fun c owned => ?_, fun c owned => ?_⟩
  · exact (congrArg (·.head p) undisturbed.cache).trans spared.head
  · exact (congrArg (·.tail p) undisturbed.cache).trans spared.tail
  · have visitedTile := spared.kept c owned id
    have stays : (state.data.map.tiles c).type = .player := visitedTile ▸ owned.1
    exact ((undisturbed.tiles c).resolve_right fun apart => apart.1 stays).trans visitedTile
  · exact (spared.claimed c ((undisturbed_owns undisturbed c).mp owned)).1

/-! ## Running into it -/

/-- The cell in front of a playing snake is a tile of the other player. -/
def RunsInto (game : Game) (q p : Nat) : Prop :=
  q < maxPlayers ∧ (game.manager.players q).status = .playing ∧
    Owns game.server.gameState.map p (mapMoveInDirection game.server.gameState.map
      (game.server.playerDataCache.head q) (game.manager.players q).direction)

instance (game : Game) (q p : Nat) : Decidable (RunsInto game q p) := inferInstanceAs (Decidable (_ ∧ _))

/-- A paused snake leaves no way through, not even at its tail. -/
theorem turn_blocked (turn : Turn state q (.ok after)) (playing : (state.manager.players q).status = .playing)
    (paused : (state.manager.players p).status = .paused) (owned : Owns state.data.map p (nextHead state q)) :
    (after.manager.players q).status = .dead := by
  have other : q ≠ p := by
    rintro rfl
    rw [playing] at paused
    cases paused
  cases turn with
  | idle snakeless => exact absurd (Or.inl playing) snakeless
  | noRoom status | spawned status => simp [Spawning, playing] at status
  | paused status | left status =>
    rw [playing] at status
    cases status
  | crashed => exact congrArg Player.status (if_pos rfl)
  | fed _ fruit =>
    rw [owned.1] at fruit
    cases fruit
  | advanced _ way =>
    cases way with
    | empty vacant =>
      rw [owned.1] at vacant
      cases vacant
    | ownTail own => exact absurd (own.2.symm.trans owned.2) other
    | otherTail second tail _ _ running =>
      cases tail.2.symm.trans owned.2
      exact absurd paused running

/-- The other snake is about to be visited as the tick has found it, or has died. -/
structure Heading (start : TickState) (p q index : Nat) (state : TickState) : Prop where
  spared : Spared start state p fun _ => False
  waiting : index ≤ q → state.manager.players q = start.manager.players q ∧
    state.data.playerDataCache.head q = start.data.playerDataCache.head q
  died : q < index → (state.manager.players q).status = .dead

theorem turn_heading (turn : Turn state playerId (.ok after)) (size : SameSize state.data.map start.data.map)
    (paused : (start.manager.players p).status = .paused) (playing : (start.manager.players q).status = .playing)
    (owned : Owns start.data.map p (nextHead start q)) (heading : Heading start p q playerId state) :
    Heading start p q (playerId + 1) after := by
  have stillPaused : (state.manager.players p).status = .paused := (congrArg Player.status heading.spared.slot).trans paused
  have elsewhere : q ≠ playerId → after.manager.players q = state.manager.players q ∧
      after.data.playerDataCache.head q = state.data.playerDataCache.head q := by
    intro other
    rcases turn_spares turn other with spared | ⟨-, -, -, spared⟩
    · exact ⟨spared.slot, spared.head⟩
    · exact ⟨spared.slot, spared.head⟩
  refine ⟨spared_trans heading.spared (turn_untouched turn stillPaused), fun before => ?_, fun behind => ?_⟩
  · obtain ⟨slot, head⟩ := elsewhere (Nat.ne_of_gt before)
    obtain ⟨slot', head'⟩ := heading.waiting (Nat.le_of_lt before)
    exact ⟨slot.trans slot', head.trans head'⟩
  · rcases Nat.lt_succ_iff_lt_or_eq.mp behind with earlier | rfl
    · obtain ⟨slot, -⟩ := elsewhere (Nat.ne_of_lt earlier)
      exact (congrArg Player.status slot).trans (heading.died earlier)
    · obtain ⟨slot, head⟩ := heading.waiting (Nat.le_refl _)
      have same : nextHead state q = nextHead start q := by
        unfold nextHead
        rw [slot, head, mapMoveInDirection_sameSize size]
      have still : Owns state.data.map p (nextHead state q) := by
        rw [same]
        exact (owns_of_tiles_eq (heading.spared.kept _ owned id)).mpr owned
      exact turn_blocked turn ((congrArg Player.status slot).trans playing) stillPaused still

theorem tick_collides (playable : Playable game.server.gameState.map)
    (cached : CacheInside game.manager game.server.playerDataCache game.server.gameState.map)
    (paused : (game.manager.players p).status = .paused) (runs : RunsInto game q p)
    (ran : serverTickLocked game.server rng = .ok (server', alive)) :
    (server'.gameState.playerManager.players q).status = .dead := by
  obtain ⟨within, playing, owned⟩ := runs
  obtain ⟨state, _, _, visited, -, gameState, -⟩ := serverTickLocked_ok ran
  obtain ⟨-, heading⟩ := playerManagerForEach_visits (Heading (game.server.beginTick rng) p q) playable
    (fun index state next _ ticking turn heading => turn_heading turn ticking.logged.size paused playing owned heading)
    (beginTick_ticking game.server rng cached)
    ⟨⟨rfl, rfl, rfl, fun _ _ _ => rfl, fun _ owned => ⟨owned, id⟩⟩, fun _ => ⟨rfl, rfl⟩, fun behind => absurd behind (Nat.not_lt_zero _)⟩
    visited
  rw [gameState]
  exact heading.died within

/-! ## Operations -/

/-- The calls that end a pause. -/
def Resumes (p : Nat) : Action → Prop
  | .unpause playerId | .unregister playerId => playerId = p
  | _ => False

instance (p : Nat) : DecidablePred (Resumes p) := fun action =>
  match action with
  | .unpause playerId | .unregister playerId => inferInstanceAs (Decidable (playerId = p))
  | .tick _ | .register | .pause _ | .respawn _ | .setPlayerDirection .. => isFalse id

private theorem transition_paused {manager : PlayerManager} {slot : Nat} {source target : PlayerStatus}
    (paused : (manager.players p).status = .paused) (other : source ≠ .paused) :
    ((manager.transition slot source target).players p).status = .paused := by
  rcases transition_status manager slot p source target with same | ⟨before, -⟩
  · exact same.trans paused
  · exact absurd (before.symm.trans paused) other

private theorem set_elsewhere {manager : PlayerManager} {slot : Nat} {player : Player}
    (paused : (manager.players p).status = .paused) (away : p ≠ slot) :
    ((manager.set slot player).players p).status = .paused := by
  rw [set_players, if_neg away]
  exact paused

theorem operate_paused (paused : (game.manager.players p).status = .paused) (action : Action)
    (goesOn : ¬ Resumes p action) : ((game.operate action).manager.players p).status = .paused := by
  cases action with
  | tick => exact paused
  | register =>
    cases registered : playerManagerRegister game.manager with
    | none =>
      simp only [Game.operate, registered]
      exact paused
    | some result =>
      obtain ⟨slot, manager⟩ := result
      obtain ⟨-, free, rfl⟩ := register_joins registered
      simp only [Game.operate, registered]
      apply set_elsewhere paused
      rintro rfl
      rw [paused] at free
      cases free
  | unregister slot =>
    simp only [Game.operate]
    split
    · exact set_elsewhere paused (Ne.symm goesOn)
    · exact paused
  | pause slot | respawn slot =>
    apply transition_paused paused
    simp
  | unpause slot =>
    change ((game.manager.transition slot _ _).players p).status = .paused
    unfold PlayerManager.transition
    dsimp only
    split
    · exact set_elsewhere paused (Ne.symm goesOn)
    · exact paused
  | setPlayerDirection slot direction =>
    change ((game.manager.set slot _).players p).status = .paused
    rw [set_players]
    split
    · rename_i here
      rw [here] at paused
      exact paused
    · exact paused

theorem operate_untouched (paused : (game.manager.players p).status = .paused) (action : Action)
    (goesOn : ¬ Resumes p action) : Untouched game (game.operate action) p where
  paused := operate_paused paused action goesOn
  head := by rw [operate_cache]
  tail := by rw [operate_cache]
  kept := fun c _ => by rw [operate_map]
  claimed := fun c owned => by rwa [operate_map] at owned

/-! ## Runs -/

/-- From any state a run reaches, a paused snake stays as it is for as long as nobody
unpauses or unregisters it: where it lies, the orders of its tiles, and who its
tiles belong to. A snake that runs into it in the next tick dies. -/
theorem run_paused {earlier actions : List Action} (wide : minMapWidth ≤ template.width)
    (widthBound : template.width ≤ maxMapWidth) (high : minMapHeight ≤ template.height)
    (heightBound : template.height ≤ maxMapHeight)
    (reached : (Game.start map directions cache template).run earlier = .ok game)
    (paused : (game.manager.players p).status = .paused) (goesOn : ∀ action ∈ actions, ¬ Resumes p action)
    (ran : game.run actions = .ok final) : Untouched game final p ∧
      ∀ rng next q, final.step (.tick rng) = .ok next → RunsInto final q p →
        (next.manager.players q).status = .dead := by
  have sizes := sizes_of_limits wide widthBound high heightBound
  have steps : ∀ {game next : Game} {action : Action}, Steady template.width template.height game →
      game.step action = .ok next → Steady template.width template.height next :=
    fun steady => step_steady (playable_of_sizes sizes steady.sized) steady
  have steady := run_always Game.step (Steady template.width template.height) earlier
    (fun _ _ _ _ steady => steps steady) (start_steady map directions cache template) reached
  have kept := run_always Game.step
    (fun later => Steady template.width template.height later ∧ Untouched game later p) actions
    (fun later action member next held stepped => ?_) ⟨steady, untouched_refl paused⟩ ran
  · obtain ⟨later, untouched⟩ := kept
    refine ⟨untouched, fun rng next q stepped runs => ?_⟩
    rcases step_ok stepped with ⟨_, server', alive, -, ranLocked, rfl⟩ | ⟨apart, -⟩
    · have died := tick_collides (playable_of_sizes sizes later.sized) later.cached untouched.paused runs ranLocked
      exact died
    · exact absurd rfl (apart rng)
  · refine ⟨steps held.1 stepped, untouched_trans held.2 ?_⟩
    rcases step_ok stepped with ⟨rng, server', alive, -, ranLocked, rfl⟩ | ⟨-, rfl⟩
    · exact tick_untouched (playable_of_sizes sizes held.1.sized) held.1.cached held.2.paused ranLocked
    · exact operate_untouched held.2.paused action (goesOn action member)

/-- Two snakes side by side; the first pauses, the second turns towards it. -/
def pausing : List Action :=
  [.register, .register, .tick (drawing [2, 2, 9, 9, 2, 4, 9, 8]), .pause 0, .setPlayerDirection 1 .left]

private theorem pausing_collides : ∃ game, emptyGame.run pausing = .ok game ∧
    ((game.manager.players 0).status = .paused ∧ Owns game.server.gameState.map 0 ⟨2, 2⟩) ∧
      ∃ final, game.run [.tick (drawing [])] = .ok final ∧ RunsInto final 1 0 ∧
        ∃ next, final.step (.tick (drawing [])) = .ok next ∧ (next.manager.players 0).status = .paused := by
  decide +kernel

/-- The second snake comes up to the first one's head and dies at it. -/
theorem run_paused_collision : ∃ game final next, emptyGame.run pausing = .ok game ∧
    game.run [.tick (drawing [])] = .ok final ∧ Owns final.server.gameState.map 0 ⟨2, 2⟩ ∧
      final.step (.tick (drawing [])) = .ok next ∧ (next.manager.players 1).status = .dead := by
  obtain ⟨game, reached, ⟨paused, owned⟩, final, ran, runs, next, stepped, -⟩ := pausing_collides
  obtain ⟨untouched, dies⟩ := run_paused (by decide) (by decide) (by decide) (by decide) reached paused
    (by simp [Resumes]) ran
  exact ⟨game, final, next, reached, ran, (owns_of_tiles_eq (untouched.kept _ owned)).mpr owned, stepped,
    dies _ next 1 stepped runs⟩

end SnakePosix.PausedSnakes
