import SnakePosix.TileCensus

/-! Who lives when snakes follow each other. A snake that moves onto the tail of
another one needs that tail to be given up in the same tick. If the other snake has
had its turn, it has been; if not, the code guesses from the cell in front of the
other snake, and takes a tail there for an obstacle even if it is given up as well. -/
namespace SnakePosix.TailFollowing
open ChangelogReplay GuardedRuns MapProofs RandomSearch Snakes TickTurns TileCensus Torus

variable {server : Server} {map : Map} {trace : Nat → TickState} {index later playerId p q : Nat} {c : Coordinates}
  {rng : Rng} {server' : Server} {alive : Bool}

/-! ## The turns of a tick -/

/-- The states a tick's visits pass through; nobody is spawned. -/
structure Turns (server : Server) (trace : Nat → TickState) : Prop where
  map : (trace 0).data.map = server.gameState.map
  manager : (trace 0).manager = server.gameState.playerManager
  cache : (trace 0).data.playerDataCache = server.playerDataCache
  turn : ∀ index < maxPlayers, Turn (trace index) index (.ok (trace (index + 1)))
  settled : ∀ p < maxPlayers, ¬ Spawning (server.gameState.playerManager.players p).status

/-- The cell in front of a snake before the tick. -/
def nextCell (server : Server) (playerId : Nat) : Coordinates :=
  mapMoveInDirection server.gameState.map (server.playerDataCache.head playerId)
    (server.gameState.playerManager.players playerId).direction

/-- The slot and the cache of a player are as they were before the tick. -/
structure Pending (server : Server) (state : TickState) (playerId : Nat) : Prop where
  slot : state.manager.players playerId = server.gameState.playerManager.players playerId
  head : state.data.playerDataCache.head playerId = server.playerDataCache.head playerId
  tail : state.data.playerDataCache.tail playerId = server.playerDataCache.tail playerId

theorem turns_size (turns : Turns server trace) (within : index ≤ maxPlayers) :
    SameSize (trace index).data.map server.gameState.map := by
  induction index with
  | zero => rw [turns.map]; exact ⟨rfl, rfl⟩
  | succ index ih =>
    have size := turn_sameSize (turns.turn index within)
    have before := ih (Nat.le_of_succ_le within)
    exact size.trans before

/-- A player's slot and cache are untouched until its own turn. -/
theorem turns_pending (turns : Turns server trace) (within : index ≤ maxPlayers) (waiting : index ≤ playerId) :
    Pending server (trace index) playerId := by
  induction index with
  | zero => exact ⟨by rw [turns.manager], by rw [turns.cache], by rw [turns.cache]⟩
  | succ index ih =>
    have before := ih (Nat.le_of_succ_le within) (Nat.le_of_succ_le waiting)
    have other : playerId ≠ index := Nat.ne_of_gt waiting
    rcases turn_spares (turns.turn index within) other with spared | ⟨-, -, -, spared⟩
    · exact ⟨spared.slot.trans before.slot, spared.head.trans before.head, spared.tail.trans before.tail⟩
    · exact ⟨spared.slot.trans before.slot, spared.head.trans before.head, spared.tail.trans before.tail⟩

/-- Nor does its slot change after it. -/
theorem turns_decided (turns : Turns server trace) (decided : playerId < index) (order : index ≤ later)
    (within : later ≤ maxPlayers) :
    (trace later).manager.players playerId = (trace index).manager.players playerId := by
  induction later, order using Nat.le_induction with
  | base => rfl
  | succ later order ih =>
    have other : playerId ≠ later := by omega
    exact (turn_slot (turns.turn later within) other).trans (ih (Nat.le_of_succ_le within))

/-- At its turn a snake has the cell in front of it that it had before the tick. -/
theorem turns_nextHead (turns : Turns server trace) (within : index ≤ maxPlayers) (waiting : index ≤ playerId) :
    nextHead (trace index) playerId = nextCell server playerId := by
  have pending := turns_pending turns within waiting
  unfold nextHead nextCell
  rw [pending.slot, pending.head, mapMoveInDirection_sameSize (turns_size turns within)]

/-- What a turn makes of a tile when nobody is spawned. -/
theorem turns_tile (turns : Turns server trace) (within : index < maxPlayers) (c : Coordinates) :
    (trace (index + 1)).data.map.tiles c = (trace index).data.map.tiles c ∨
      ((server.gameState.playerManager.players index).status = .playing ∧ c = nextCell server index ∧
        (Way (trace index) index ∨ ((trace index).data.map.tiles c).type = .fruit) ∧
        Owns (trace (index + 1)).data.map index c) ∨
      Owns (trace index).data.map index c ∧
        (((trace (index + 1)).data.map.tiles c).type = .empty ∧ Way (trace index) index ∨
          ((trace (index + 1)).data.map.tiles c).type = .dead) := by
  have pending := turns_pending turns within.le (Nat.le_refl index)
  have unspawned : ¬ Spawning ((trace index).manager.players index).status := by
    rw [pending.slot]
    exact turns.settled index within
  have front := turns_nextHead turns within.le (Nat.le_refl index)
  have rewritten := turn_rewritten (turns.turn index within) c
  unfold Owns
  generalize (trace (index + 1)).data.map.tiles c = tile at rewritten ⊢
  cases rewritten with
  | kept => exact Or.inl rfl
  | entered status here reason =>
    exact Or.inr (Or.inl ⟨pending.slot ▸ status, here.trans front, reason, rfl, rfl⟩)
  | vacated way owned => exact Or.inr (Or.inr ⟨owned, Or.inl ⟨rfl, way⟩⟩)
  | killed _ owned => exact Or.inr (Or.inr ⟨owned, Or.inr rfl⟩)
  | placed status => exact absurd status unspawned
  | planted status => exact absurd status unspawned

/-! ## Obstacles -/

/-- A tile that is in the way for the rest of the tick: neither free nor a fruit, and
no snake's that has yet to have its turn. -/
structure Settled (index : Nat) (tile : MapTile) : Prop where
  occupied : tile.type ≠ .empty
  unfed : tile.type ≠ .fruit
  visited : tile.type = .player → tile.player < index

theorem settled_later (settled : Settled index tile) : Settled (index + 1) tile :=
  ⟨settled.occupied, settled.unfed, fun player => Nat.lt_succ_of_lt (settled.visited player)⟩

theorem settled_blocks (settled : Settled playerId ((trace playerId).data.map.tiles (nextHead (trace playerId) playerId))) :
    ¬ Way (trace playerId) playerId := by
  intro way
  cases way with
  | empty vacant => exact settled.occupied vacant
  | ownTail owned =>
    have earlier := settled.visited owned.1
    rw [owned.2] at earlier
    exact Nat.lt_irrefl _ earlier
  | otherTail other owned later =>
    have earlier := settled.visited owned.1
    rw [owned.2] at earlier
    exact Nat.lt_asymm later earlier

private theorem settled_entered (owned : Owns map index c) : Settled (index + 1) (map.tiles c) where
  occupied := by simp [owned.1]
  unfed := by simp [owned.1]
  visited := fun _ => owned.2.symm ▸ Nat.lt_succ_self index

theorem settled_turn (turns : Turns server trace) (within : index < maxPlayers)
    (settled : Settled index ((trace index).data.map.tiles c)) :
    Settled (index + 1) ((trace (index + 1)).data.map.tiles c) := by
  rcases turns_tile turns within c with same | ⟨_, front, reason, owned⟩ | ⟨owned, _⟩
  · rw [same]
    exact settled_later settled
  · exact settled_entered owned
  · have earlier := settled.visited owned.1
    rw [owned.2] at earlier
    exact absurd earlier (Nat.lt_irrefl _)

/-- An obstacle stays one. -/
theorem settled_stays (turns : Turns server trace) (settled : Settled index ((trace index).data.map.tiles c))
    (order : index ≤ later) (within : later ≤ maxPlayers) :
    Settled later ((trace later).data.map.tiles c) := by
  induction later, order using Nat.le_induction with
  | base => exact settled
  | succ later _ ih => exact settled_turn turns within (ih (Nat.le_of_succ_le within))

/-- At any time a cell is what it was, or has been given up, or is an obstacle. -/
theorem turns_known (turns : Turns server trace) (within : index ≤ maxPlayers) (c : Coordinates) :
    (trace index).data.map.tiles c = server.gameState.map.tiles c ∨
      ((trace index).data.map.tiles c).type = .empty ∨ Settled index ((trace index).data.map.tiles c) := by
  induction index with
  | zero => exact Or.inl (by rw [turns.map])
  | succ index ih =>
    rcases turns_tile turns within c with same | ⟨_, _, _, owned⟩ | ⟨_, ⟨vacant, _⟩ | dead⟩
    · rw [same]
      exact (ih (Nat.le_of_succ_le within)).imp_right (Or.imp_right settled_later)
    · exact Or.inr (Or.inr (settled_entered owned))
    · exact Or.inr (Or.inl vacant)
    · exact Or.inr (Or.inr ⟨by simp [dead], by simp [dead], by simp [dead]⟩)

/-- A cell that a snake still to be visited holds is not given up before. -/
theorem turns_held (turns : Turns server trace) (owned : Owns server.gameState.map p c) (within : index ≤ maxPlayers)
    (waiting : index ≤ p) :
    (trace index).data.map.tiles c = server.gameState.map.tiles c ∨
      Settled index ((trace index).data.map.tiles c) := by
  induction index with
  | zero => exact Or.inl (by rw [turns.map])
  | succ index ih =>
    have before := ih (Nat.le_of_succ_le within) (Nat.le_of_succ_le waiting)
    rcases turns_tile turns within c with same | ⟨_, _, _, entered⟩ | ⟨visited, _⟩
    · rw [same]
      exact before.imp_right settled_later
    · exact Or.inr (settled_entered entered)
    · rcases before with same | settled
      · have owner := owns_unique ((owns_of_tiles_eq same).mp visited) owned
        omega
      · have earlier := settled.visited visited.1
        rw [visited.2] at earlier
        exact absurd earlier (Nat.lt_irrefl _)

/-- What a snake could not pass at its turn, and no snake still to be visited owns,
it leaves behind as an obstacle. -/
theorem turns_leaves (turns : Turns server trace) (within : p < maxPlayers) (blocked : ¬ Way (trace p) p)
    (occupied : ((trace p).data.map.tiles c).type ≠ .empty)
    (unfed : (server.gameState.map.tiles c).type ≠ .fruit)
    (earlier : (server.gameState.map.tiles c).type = .player → (server.gameState.map.tiles c).player ≤ p) :
    Settled (p + 1) ((trace (p + 1)).data.map.tiles c) := by
  rcases turns_tile turns within c with same | ⟨_, _, _, entered⟩ | ⟨_, ⟨_, way⟩ | dead⟩
  · rw [same]
    rcases turns_known turns within.le c with kept | vacant | settled
    · rw [kept] at occupied ⊢
      exact ⟨occupied, unfed, fun player => Nat.lt_succ_of_le (earlier player)⟩
    · exact absurd vacant occupied
    · exact settled_later settled
  · exact settled_entered entered
  · exact absurd way blocked
  · exact ⟨by simp [dead], by simp [dead], by simp [dead]⟩

/-! ## Who survives -/

/-- What becomes of a snake that moves. -/
theorem turn_playing {state next : TickState} (turn : Turn state playerId (.ok next))
    (running : (state.manager.players playerId).status = .playing) :
    (¬ Way state playerId ∧ (next.manager.players playerId).status = .dead) ∨
      (state.data.map.tiles (nextHead state playerId)).type = .fruit ∨
      (Way state playerId ∧ (next.manager.players playerId).status = .playing ∧
        ∀ c, next.data.map.tiles c = (vacate state playerId).map.tiles c) := by
  cases turn with
  | idle snakeless => exact absurd (Or.inl running) snakeless
  | paused status => simp [running] at status
  | noRoom status => simp [running, Spawning] at status
  | spawned status => simp [running, Spawning] at status
  | left status => simp [running] at status
  | crashed _ blocked => exact Or.inl ⟨blocked, by rw [set_players, if_pos rfl]⟩
  | fed _ fruit => exact Or.inr (Or.inl fruit)
  | advanced _ way => exact Or.inr (Or.inr ⟨way, running, fun _ => rfl⟩)

/-- A playing snake with no fruit in front of it survives its turn where it has a way
to go. -/
theorem turns_survives (turns : Turns server trace) (within : playerId < maxPlayers)
    (playing : (server.gameState.playerManager.players playerId).status = .playing)
    (unfed : ((trace playerId).data.map.tiles (nextHead (trace playerId) playerId)).type ≠ .fruit) :
    ((trace maxPlayers).manager.players playerId).status = .playing ↔ Way (trace playerId) playerId := by
  rw [turns_decided turns (Nat.lt_succ_self playerId) (Nat.succ_le_of_lt within) (Nat.le_refl _)]
  have running : ((trace playerId).manager.players playerId).status = .playing := by
    rw [(turns_pending turns within.le (Nat.le_refl playerId)).slot]
    exact playing
  rcases turn_playing (turns.turn playerId within) running with
    ⟨blocked, status⟩ | fruit | ⟨way, status, -⟩
  · exact iff_of_false (by rw [status]; exact nofun) blocked
  · exact absurd fruit unfed
  · exact iff_of_true status way

/-- One snake is about to move onto the tail of another one, and nobody else is. -/
structure Following (server : Server) (p q : Nat) : Prop where
  follower : (server.gameState.playerManager.players p).status = .playing
  leader : (server.gameState.playerManager.players q).status = .playing
  tail : nextCell server p = server.playerDataCache.tail q
  owned : Owns server.gameState.map q (server.playerDataCache.tail q)
  alone : ∀ r < maxPlayers, r ≠ p → (server.gameState.playerManager.players r).status = .playing →
    nextCell server r ≠ server.playerDataCache.tail q

/-- Until one of the two has its turn, the tail lies where it lay. -/
theorem turns_tail (turns : Turns server trace) (following : Following server p q) (within : index ≤ maxPlayers)
    (beforeFollower : index ≤ p) (beforeLeader : index ≤ q) :
    (trace index).data.map.tiles (server.playerDataCache.tail q) =
      server.gameState.map.tiles (server.playerDataCache.tail q) := by
  induction index with
  | zero => rw [turns.map]
  | succ index ih =>
    have before := ih (Nat.le_of_succ_le within) (Nat.le_of_succ_le beforeFollower) (Nat.le_of_succ_le beforeLeader)
    rcases turns_tile turns within (server.playerDataCache.tail q) with
      same | ⟨playing, front, _⟩ | ⟨owned, _⟩
    · exact same.trans before
    · exact absurd front.symm (following.alone index within (Nat.ne_of_lt beforeFollower) playing)
    · have owner := owns_unique ((owns_of_tiles_eq before).mp owned) following.owned
      omega

/-- A follower that has its turn first goes on exactly when the cell in front of its
leader is empty by then. -/
theorem turns_guess (turns : Turns server trace) (following : Following server p q) (pWithin : p < maxPlayers)
    (earlier : p < q) : Way (trace p) p ↔
      ((trace p).data.map.tiles (nextCell server q)).type = .empty := by
  have front := (turns_nextHead turns pWithin.le (Nat.le_refl p)).trans following.tail
  have tile := turns_tail turns following pWithin.le (Nat.le_refl p) earlier.le
  have owned : Owns (trace p).data.map q (nextHead (trace p) p) :=
    (owns_of_tiles_eq (front ▸ tile)).mpr (front ▸ following.owned)
  have pending := turns_pending turns pWithin.le earlier.le
  have leads := turns_nextHead turns pWithin.le earlier.le
  have guess : otherTailWillMove (trace p) q = true ↔
      ((trace p).data.map.tiles (nextCell server q)).type = .empty := by
    rw [← leads]
    exact beq_iff_eq
  rw [way_iff, owned.2, TailLeaves, if_neg (Nat.ne_of_lt earlier), pending.slot, pending.tail, front, guess]
  constructor
  · rintro (vacant | ⟨_, _, _, _, empty⟩)
    · rw [← front, owned.1] at vacant
      cases vacant
    · exact empty
  · exact fun empty => Or.inr ⟨front ▸ owned.1, rfl, earlier, by simp [following.leader], empty⟩

/-- A leader that has had its turn and moved on has left its tail cell empty. -/
theorem turns_vacated (turns : Turns server trace) (following : Following server p q) (qWithin : q < maxPlayers)
    (way : Way (trace q) q) (later : q < p) (order : q + 1 ≤ index) (within : index ≤ p)
    (pWithin : p < maxPlayers) :
    ((trace index).data.map.tiles (server.playerDataCache.tail q)).type = .empty := by
  induction index, order using Nat.le_induction with
  | base =>
    have front := turns_nextHead turns qWithin.le (Nat.le_refl q)
    have tile := turns_tail turns following qWithin.le later.le (Nat.le_refl q)
    have owned := (owns_of_tiles_eq tile).mpr following.owned
    have pending := turns_pending turns qWithin.le (Nat.le_refl q)
    have apart : server.playerDataCache.tail q ≠ nextHead (trace q) q := by
      rw [front]
      exact (following.alone q qWithin (Nat.ne_of_lt later) following.leader).symm
    have running : ((trace q).manager.players q).status = .playing := pending.slot ▸ following.leader
    rcases turn_playing (turns.turn q qWithin) running with ⟨blocked, -⟩ | fruit | ⟨-, -, left⟩
    · exact absurd way blocked
    · rcases way_iff.mp way with vacant | ⟨player, -⟩
      · simp [fruit] at vacant
      · simp [fruit] at player
    · rw [left, vacate_tiles, if_neg apart, if_pos ⟨pending.tail.symm, owned⟩]
  | succ index order ih =>
    have vacant := ih (Nat.le_of_succ_le within)
    have bound : index < maxPlayers := Nat.lt_trans within pWithin
    rcases turns_tile turns bound (server.playerDataCache.tail q) with
      same | ⟨playing, front, _⟩ | ⟨owned, _⟩
    · rw [same]
      exact vacant
    · exact absurd front.symm (following.alone index bound (Nat.ne_of_lt within) playing)
    · rw [owned.1] at vacant
      cases vacant

/-- Where no fruit lay before the tick, none is met. -/
theorem turns_unfed (turns : Turns server trace) (within : playerId ≤ maxPlayers)
    (unfed : (server.gameState.map.tiles (nextCell server playerId)).type ≠ .fruit) :
    ((trace playerId).data.map.tiles (nextHead (trace playerId) playerId)).type ≠ .fruit := by
  rw [turns_nextHead turns within (Nat.le_refl playerId)]
  rcases turns_known turns within (nextCell server playerId) with same | vacant | settled
  · rw [same]
    exact unfed
  · rw [vacant]
    exact nofun
  · exact settled.unfed

/-- A follower that has its turn first survives exactly when no snake still to have
its turn lies in front of its leader. -/
theorem turns_follower_first (turns : Turns server trace) (following : Following server p q) (qWithin : q < maxPlayers)
    (earlier : p < q) (unfed : (server.gameState.map.tiles (nextCell server q)).type ≠ .fruit)
    (led : Way (trace q) q) :
    Way (trace p) p ↔ ¬ ((server.gameState.map.tiles (nextCell server q)).type = .player ∧
      p < (server.gameState.map.tiles (nextCell server q)).player) := by
  have pWithin : p < maxPlayers := Nat.lt_trans earlier qWithin
  rw [turns_guess turns following pWithin earlier]
  constructor
  · rintro vacant ⟨player, later⟩
    rcases turns_held turns ⟨player, rfl⟩ pWithin.le later.le with same | settled
    · rw [same, player] at vacant
      cases vacant
    · exact settled.occupied vacant
  · intro free
    by_contra occupied
    have blocked : ¬ Way (trace p) p := fun way => occupied ((turns_guess turns following pWithin earlier).mp way)
    have behind := turns_leaves turns pWithin blocked occupied unfed fun player =>
      Nat.le_of_not_lt fun later => free ⟨player, later⟩
    have obstacle := settled_stays turns behind (Nat.succ_le_of_lt earlier) qWithin.le
    rw [← turns_nextHead turns qWithin.le (Nat.le_refl q)] at obstacle
    exact settled_blocks obstacle led

theorem turns_follows (turns : Turns server trace) (following : Following server p q) (pWithin : p < maxPlayers)
    (qWithin : q < maxPlayers) (other : p ≠ q)
    (unfed : (server.gameState.map.tiles (nextCell server q)).type ≠ .fruit)
    (survives : ((trace maxPlayers).manager.players q).status = .playing) :
    ((trace maxPlayers).manager.players p).status = .playing ↔
      q < p ∨ ¬ ((server.gameState.map.tiles (nextCell server q)).type = .player ∧
        p < (server.gameState.map.tiles (nextCell server q)).player) := by
  have led := (turns_survives turns qWithin following.leader (turns_unfed turns qWithin.le unfed)).mp survives
  have front := (turns_nextHead turns pWithin.le (Nat.le_refl p)).trans following.tail
  rcases Nat.lt_or_gt_of_ne other with earlier | later
  · have tile := turns_tail turns following pWithin.le (Nat.le_refl p) earlier.le
    have hungry : ((trace p).data.map.tiles (nextHead (trace p) p)).type ≠ .fruit := by
      rw [front, tile, following.owned.1]
      exact nofun
    rw [turns_survives turns pWithin following.follower hungry,
      turns_follower_first turns following qWithin earlier unfed led]
    exact (or_iff_right (Nat.lt_asymm earlier)).symm
  · have vacant := turns_vacated turns following qWithin led later (Nat.succ_le_of_lt later) (Nat.le_refl p) pWithin
    rw [← front] at vacant
    have hungry : ((trace p).data.map.tiles (nextHead (trace p) p)).type ≠ .fruit := by simp [vacant]
    rw [turns_survives turns pWithin following.follower hungry]
    exact iff_of_true (.empty vacant) (Or.inl later)

/-! ## The tick -/

/-- The visits of a tick that returns. -/
theorem serverTick_turns (playable : Playable server.gameState.map)
    (cached : CacheInside server.gameState.playerManager server.playerDataCache server.gameState.map)
    (settled : ∀ p < maxPlayers, ¬ Spawning (server.gameState.playerManager.players p).status)
    (ran : serverTick server rng = .ok (server', alive)) :
    ∃ trace, Turns server trace ∧ server'.gameState.playerManager = (trace maxPlayers).manager := by
  obtain ⟨locked, ranLocked, rfl⟩ := serverTick_ok ran
  obtain ⟨state, data, rng', visited, -, gameState, -, -⟩ := serverTickLocked_ok ranLocked
  obtain ⟨trace, first, last, each⟩ := range_trace forEachSlot maxPlayers visited
  have ticking : ∀ index ≤ maxPlayers, Ticking server.gameState.map (trace index) := by
    intro index within
    induction index with
    | zero => exact first ▸ beginTick_ticking server rng cached
    | succ index ih => exact forEachSlot_ticking playable within (ih (Nat.le_of_succ_le within)) (each index within)
  refine ⟨trace, ⟨by rw [first]; rfl, by rw [first]; rfl, by rw [first]; rfl, fun index within => ?_, settled⟩, ?_⟩
  · have now := ticking index (Nat.le_of_lt within)
    rw [← each index within]
    exact forEachSlot_turn (playable_sameSize now.logged.size playable) fun alive => (now.cached index within alive).1
  · rw [last]
    exact congrArg GameState.playerManager gameState

/-- A snake that is about to move onto the tail of a snake that itself moves on (it
survives, and no fruit makes it keep its tail) survives the tick exactly where it has
the higher id or the cell in front of its leader is not held by a still higher one. -/
theorem serverTick_follows_iff (wide : 1 ≤ server.gameState.map.width) (high : 1 ≤ server.gameState.map.height)
    (countable : server.gameState.map.width * server.gameState.map.height < 2 ^ 32)
    (snakes : ∀ r < maxPlayers, HasSnake (server.gameState.playerManager.players r).status →
      ∃ list, SnakeCells server.gameState.map server.playerDataCache r list)
    (settled : ∀ r < maxPlayers, ¬ Spawning (server.gameState.playerManager.players r).status)
    (pWithin : p < maxPlayers) (qWithin : q < maxPlayers) (other : p ≠ q)
    (follower : (server.gameState.playerManager.players p).status = .playing)
    (leader : (server.gameState.playerManager.players q).status = .playing)
    (tail : nextCell server p = playerDataCacheGetTail server.playerDataCache q)
    (alone : ∀ r < maxPlayers, r ≠ p → (server.gameState.playerManager.players r).status = .playing →
      nextCell server r ≠ playerDataCacheGetTail server.playerDataCache q)
    (ran : serverTick server rng = .ok (server', alive))
    (survives : (server'.gameState.playerManager.players q).status = .playing)
    (unfed : (server.gameState.map.tiles (nextCell server q)).type ≠ .fruit) :
    (server'.gameState.playerManager.players p).status = .playing ↔
      q < p ∨ ¬ ((server.gameState.map.tiles (nextCell server q)).type = .player ∧
        p < (server.gameState.map.tiles (nextCell server q)).player) := by
  have playable : Playable server.gameState.map := ⟨fitsWord_of_cells wide high countable, wide, high⟩
  have cached : CacheInside server.gameState.playerManager server.playerDataCache server.gameState.map := by
    intro r within alive
    obtain ⟨list, snake⟩ := snakes r within alive
    exact ⟨snake.inside _ (List.mem_of_getLast? snake.head), snake.inside _ (List.mem_of_head? snake.tail)⟩
  obtain ⟨list, snake⟩ := snakes q qWithin (Or.inl leader)
  have owned := (snake.owned 0 _ (List.head?_eq_getElem? ▸ snake.tail)).1
  obtain ⟨trace, turns, manager⟩ := serverTick_turns playable cached settled ran
  rw [manager] at survives ⊢
  exact turns_follows turns ⟨follower, leader, tail, owned, alone⟩ pWithin qWithin other unfed survives

/-! ## Three snakes in a row -/

/-- Three snakes of two tiles each, one behind the other, all moving to the right. -/
def queue (last middle first : Nat) : Server where
  gameState :=
    { changelog := []
      map :=
        { tiles := fun c =>
            if c = ⟨5, 1⟩ then { order := 0, type := .player, player := last }
            else if c = ⟨5, 2⟩ then { order := 1, type := .player, player := last }
            else if c = ⟨5, 3⟩ then { order := 0, type := .player, player := middle }
            else if c = ⟨5, 4⟩ then { order := 1, type := .player, player := middle }
            else if c = ⟨5, 5⟩ then { order := 0, type := .player, player := first }
            else if c = ⟨5, 6⟩ then { order := 1, type := .player, player := first }
            else { order := 0, type := .empty, player := 0 }
          width := 10
          height := 10 }
      playerManager :=
        { players := fun p =>
            { status := if p = last ∨ p = middle ∨ p = first then .playing else .notConnected, direction := .right } }
      ticker := { tick := 0 }
      gameEnded := false }
  playerDataCache :=
    { head := fun p => if p = last then ⟨5, 2⟩ else if p = middle then ⟨5, 4⟩ else ⟨5, 6⟩
      tail := fun p => if p = last then ⟨5, 1⟩ else if p = middle then ⟨5, 3⟩ else ⟨5, 5⟩ }

/-- Two neighboring cells that are all a player owns make a snake. -/
theorem pair_cells {cache : PlayerDataCache} (tail head : Coordinates) (apart : tail ≠ head)
    (tailInside : map.InBounds tail) (headInside : map.InBounds head)
    (cachedTail : playerDataCacheGetTail cache p = tail) (cachedHead : playerDataCacheGetHead cache p = head)
    (linked : TorusAdjacent map.width map.height tail head) (tailOwned : Owns map p tail) (headOwned : Owns map p head)
    (order : (map.tiles head).order = (map.tiles tail).order + 1)
    (complete : ∀ c, Owns map p c → c = tail ∨ c = head) : SnakeCells map cache p [tail, head] where
  length := Nat.le_refl 2
  nodup := by simpa using apart
  inside := by
    intro c member
    rcases List.mem_pair.mp member with rfl | rfl
    · exact tailInside
    · exact headInside
  tail := by rw [cachedTail]; rfl
  head := by rw [cachedHead]; rfl
  linked := List.isChain_pair.mpr linked
  owned := by
    intro i c position
    rw [cachedTail]
    match i with
    | 0 =>
      cases position
      exact ⟨tailOwned, rfl⟩
    | 1 =>
      cases position
      exact ⟨headOwned, order⟩
    | i + 2 => cases position
  complete := fun c _ owned => List.mem_pair.mpr (complete c owned)

theorem queue_owner {last middle first : Nat} (owned : Owns (queue last middle first).gameState.map p c) :
    p = last ∧ (c = ⟨5, 1⟩ ∨ c = ⟨5, 2⟩) ∨ p = middle ∧ (c = ⟨5, 3⟩ ∨ c = ⟨5, 4⟩) ∨
      p = first ∧ (c = ⟨5, 5⟩ ∨ c = ⟨5, 6⟩) := by
  obtain ⟨type, player⟩ := owned
  simp only [queue] at type player
  split_ifs at type player <;> simp_all only [true_and, or_true, true_or]

/-- Only the three have tiles, and each one has two cells of its own. -/
theorem queue_snakes {last middle first : Nat} (lastMiddle : last ≠ middle) (lastFirst : last ≠ first)
    (middleFirst : middle ≠ first)
    (alive : HasSnake ((queue last middle first).gameState.playerManager.players p).status) :
    ∃ list, SnakeCells (queue last middle first).gameState.map (queue last middle first).playerDataCache p list := by
  have place : p = last ∨ p = middle ∨ p = first := by
    by_contra nobody
    simp [queue, nobody, HasSnake] at alive
  have inside : ∀ column < 10, (queue last middle first).gameState.map.InBounds ⟨5, column⟩ :=
    fun column within => ⟨(by decide : 5 < 10), within⟩
  rcases place with here | here | here
  · rw [here]
    refine ⟨_, pair_cells ⟨5, 1⟩ ⟨5, 2⟩ (by decide) (inside 1 (by decide)) (inside 2 (by decide)) (if_pos rfl) (if_pos rfl)
      ⟨.right, rfl⟩ ⟨rfl, rfl⟩ ⟨rfl, rfl⟩ rfl fun c owned => ?_⟩
    simpa [lastMiddle, lastFirst] using queue_owner owned
  · rw [here]
    refine ⟨_, pair_cells ⟨5, 3⟩ ⟨5, 4⟩ (by decide) (inside 3 (by decide)) (inside 4 (by decide)) ?_ ?_
      ⟨.right, rfl⟩ ⟨rfl, rfl⟩ ⟨rfl, rfl⟩ rfl fun c owned => ?_⟩
    · exact (if_neg lastMiddle.symm).trans (if_pos rfl)
    · exact (if_neg lastMiddle.symm).trans (if_pos rfl)
    · simpa [lastMiddle.symm, middleFirst] using queue_owner owned
  · rw [here]
    refine ⟨_, pair_cells ⟨5, 5⟩ ⟨5, 6⟩ (by decide) (inside 5 (by decide)) (inside 6 (by decide)) ?_ ?_
      ⟨.right, rfl⟩ ⟨rfl, rfl⟩ ⟨rfl, rfl⟩ rfl fun c owned => ?_⟩
    · exact (if_neg lastFirst.symm).trans (if_neg middleFirst.symm)
    · exact (if_neg lastFirst.symm).trans (if_neg middleFirst.symm)
    · simpa [lastFirst.symm, middleFirst.symm] using queue_owner owned

theorem serverTick_follows_iff_queue :
    ∃ server' alive, serverTick (queue 1 2 0) { draws := id, used := 0 } = .ok (server', alive) ∧
      (server'.gameState.playerManager.players 1).status = .playing := by
  obtain ⟨⟨server', alive⟩, ran, survives⟩ : ∃ result,
      serverTick (queue 1 2 0) { draws := id, used := 0 } = .ok result ∧
        (result.1.gameState.playerManager.players 2).status = .playing := by decide +kernel
  refine ⟨server', alive, ran, (serverTick_follows_iff (p := 1) (q := 2) (by decide) (by decide) (by decide)
    (fun r _ => queue_snakes (by decide) (by decide) (by decide)) (by decide +kernel) (by decide) (by decide)
    (by decide) (by decide) (by decide) (by decide) (by decide +kernel) ran survives (by decide)).mpr
    (Or.inr (by decide))⟩

/-- The last of the three has the lowest id and the first of them the next one. The
snake between them moves on, and the last one dies behind it. -/
theorem serverTick_follows_queue :
    ((queue 0 2 1).gameState.map.width = 10 ∧ (queue 0 2 1).gameState.map.height = 10) ∧
    (∀ r < maxPlayers, HasSnake ((queue 0 2 1).gameState.playerManager.players r).status →
      ∃ list, SnakeCells (queue 0 2 1).gameState.map (queue 0 2 1).playerDataCache r list) ∧
    (∀ r, ¬ HasSnake ((queue 0 2 1).gameState.playerManager.players r).status →
      ∀ c, ¬ Owns (queue 0 2 1).gameState.map r c) ∧
    (∀ c, ((queue 0 2 1).gameState.map.tiles c).type ≠ .dead) ∧
    (∀ r, ¬ Spawning ((queue 0 2 1).gameState.playerManager.players r).status) ∧
    ((queue 0 2 1).gameState.playerManager.players 0).status = .playing ∧
    ((queue 0 2 1).gameState.playerManager.players 2).status = .playing ∧
    nextCell (queue 0 2 1) 0 = playerDataCacheGetTail (queue 0 2 1).playerDataCache 2 ∧
    (∀ r < maxPlayers, r ≠ 0 → nextCell (queue 0 2 1) r ≠ playerDataCacheGetTail (queue 0 2 1).playerDataCache 2) ∧
    ((queue 0 2 1).gameState.map.tiles (nextCell (queue 0 2 1) 2)).type ≠ .fruit ∧
    ∃ server' alive, serverTick (queue 0 2 1) { draws := id, used := 0 } = .ok (server', alive) ∧
      (server'.gameState.playerManager.players 2).status = .playing ∧
      (server'.gameState.playerManager.players 0).status = .dead := by
  refine ⟨⟨rfl, rfl⟩, fun r _ => queue_snakes (by decide) (by decide) (by decide), ?_, ?_, ?_, by decide, by decide,
    by decide, by decide +kernel, by decide, ?_⟩
  · intro r snakeless c owned
    refine snakeless (Or.inl (if_pos ?_))
    have owner := queue_owner owned
    omega
  · intro c
    simp only [queue]
    split_ifs <;> exact nofun
  · intro r
    simp only [queue]
    split_ifs <;> exact nofun
  · obtain ⟨⟨server', alive⟩, ran, led, lost⟩ : ∃ result,
        serverTick (queue 0 2 1) { draws := id, used := 0 } = .ok result ∧
          (result.1.gameState.playerManager.players 2).status = .playing ∧
          (result.1.gameState.playerManager.players 0).status = .dead := by decide +kernel
    exact ⟨server', alive, ran, led, lost⟩

end SnakePosix.TailFollowing
