import SnakePosix.SlotOwners

/-! No slot is lost. A slot that nobody holds is free or on its way out, and a tick
frees it; so right after a tick a client that asks for a slot gets one exactly if
not all of them are held. -/
namespace SnakePosix.SlotLeases
open ChangelogReplay GameRuns GuardedRuns SlotOwners SlotTurns TickTurns

variable {ι : Type} {room next : Room ι} {state after : TickState} {client : ι} {slot : Nat} {rng : Rng}

/-! ## Slots that nobody holds -/

/-- A slot without an owner. -/
def Unowned (status : PlayerStatus) : Prop := status = .notConnected ∨ status = .disconnecting

/-- Every slot has an owner or needs none. -/
def Leased (room : Room ι) : Prop :=
  ∀ slot, Unowned (room.manager.players slot).status ∨ ∃ client, room.clients client = .holding slot

theorem visit_unowned {status status' : PlayerStatus} {clears : Bool} (visit : Visit status status' clears)
    (unowned : Unowned status) : status' = .notConnected := by
  rcases unowned with rfl | rfl
  · cases visit with
    | idle => rfl
    | noRoom spawning | spawned spawning => simp [Spawning] at spawning
  · cases visit with
    | idle snakeless => simp [HasSnake] at snakeless
    | left => rfl
    | noRoom spawning | spawned spawning => simp [Spawning] at spawning

/-- All the slots nobody holds are free after the visits. -/
theorem visits_free (visited : playerManagerForEach state = .ok after)
    (unowned : Unowned (state.manager.players slot).status) (within : slot < maxPlayers) :
    (after.manager.players slot).status = .notConnected := by
  have kept := range_preserves forEachSlot
    (fun index state => Unowned (state.manager.players slot).status ∧
      (slot < index → (state.manager.players slot).status = .notConnected)) maxPlayers
    (fun index state next _ held ran => ?_) ⟨unowned, fun below => absurd below (Nat.not_lt_zero slot)⟩ visited
  · exact kept.2 within
  · obtain ⟨others, clears, visit, -⟩ := forEachSlot_visited ran
    by_cases here : slot = index
    · subst here
      have free := visit_unowned visit held.1
      exact ⟨Or.inl free, fun _ => free⟩
    · rw [others slot here]
      exact ⟨held.1, fun below => held.2 (by omega)⟩

theorem serverTick_frees {server server' : Server} (ran : serverTick server rng = .ok (server', alive))
    (unowned : Unowned (server.gameState.playerManager.players slot).status) (within : slot < maxPlayers) :
    (server'.gameState.playerManager.players slot).status = .notConnected := by
  obtain ⟨locked, ranLocked, rfl⟩ := serverTick_ok ran
  obtain ⟨state, data, rng', visited, -, gameState, -⟩ := serverTickLocked_ok ranLocked
  have free := visits_free visited unowned within
  simpa [Server.tick, gameState] using free

/-- Beyond the slots there is nothing to visit. -/
theorem serverTick_beyond {server server' : Server} (ran : serverTick server rng = .ok (server', alive))
    (beyond : maxPlayers ≤ slot) :
    server'.gameState.playerManager.players slot = server.gameState.playerManager.players slot := by
  obtain ⟨locked, ranLocked, rfl⟩ := serverTick_ok ran
  obtain ⟨state, data, rng', visited, -, gameState, -⟩ := serverTickLocked_ok ranLocked
  have kept := run_always forEachSlot
    (fun state => state.manager.players slot = server.gameState.playerManager.players slot) (List.range maxPlayers)
    (fun state index member next same ran => ?_) rfl visited
  · simpa [Server.tick, gameState] using kept
  · have away : slot ≠ index := Nat.ne_of_gt (Nat.lt_of_lt_of_le (List.mem_range.mp member) beyond)
    exact ((forEachSlot_visited ran).others slot away).trans same

/-! ## Steps -/

theorem tick_leased (leased : Leased room) (ran : room.tick rng = .ok next) : Leased next := by
  obtain ⟨⟨server', alive⟩, ticked, ran⟩ := bind_ok.mp ran
  cases ran
  intro slot
  rcases leased slot with unowned | held
  · refine Or.inl ?_
    rcases Nat.lt_or_ge slot maxPlayers with within | beyond
    · exact Or.inl (serverTick_frees ticked unowned within)
    · have same := serverTick_beyond ticked beyond
      exact (congrArg (fun player => Unowned player.status) same).mpr unowned
  · exact Or.inr held

private theorem transition_unowned {manager : PlayerManager} {called : Nat} {source target : PlayerStatus}
    (unowned : Unowned (manager.players slot).status) (owned : ¬ Unowned source) :
    Unowned ((manager.transition called source target).players slot).status := by
  rcases transition_status manager called slot source target with same | ⟨before, -⟩
  · rw [same]
    exact unowned
  · exact absurd (before ▸ unowned) owned

theorem call_unowned {manager : PlayerManager} (call : SlotCall) (unowned : Unowned (manager.players slot).status) :
    Unowned ((call.apply manager).players slot).status := by
  cases call with
  | pause called | unpause called | respawn called => exact transition_unowned unowned (by simp [Unowned])
  | setPlayerDirection called direction =>
    change Unowned ((manager.set called _).players slot).status
    rw [set_players]
    split
    · rename_i here
      rw [here] at unowned
      exact unowned
    · exact unowned

theorem call_leased (leased : Leased room) (call : SlotCall) : Leased (room.withManager (call.apply room.manager)) :=
  fun slot => (leased slot).imp_left (call_unowned call)

variable [DecidableEq ι]

/-- A client that held nothing gives nothing up. -/
theorem withClient_leased (leased : Leased room) (nothing : ∀ slot, room.clients client ≠ .holding slot)
    (registration : Registration) : Leased (room.withClient client registration) := by
  intro slot
  rcases leased slot with unowned | ⟨holder, held⟩
  · exact Or.inl unowned
  · refine Or.inr ⟨holder, ?_⟩
    have away : holder ≠ client := by
      rintro rfl
      exact nothing slot held
    exact (Function.update_of_ne away _ _).trans held

theorem register_leased (leased : Leased room) (client : ι) : Leased (room.register client) := by
  unfold Room.register
  split
  · rename_i absent
    exact withClient_leased leased (by simp [absent]) _
  · exact leased

/-- The slot that is found is held then. -/
theorem search_leased (leased : Leased room) (client : ι) : Leased (room.search client) := by
  unfold Room.search playerManagerRegisterSlot
  split
  case h_2 => exact leased
  case h_1 found searching =>
    have nothing : ∀ slot, room.clients client ≠ .holding slot := by simp [searching]
    split
    case isFalse => exact withClient_leased leased nothing _
    case isTrue =>
      by_cases free : (room.manager.players found).status = .notConnected
      · rw [if_neg (not_not.mpr free)]
        intro slot
        by_cases here : slot = found
        · exact Or.inr ⟨client, here ▸ Function.update_self client _ _⟩
        · have others := withClient_leased leased nothing (.holding found) slot
          refine others.imp_left fun unowned => ?_
          change Unowned ((room.manager.set found _).players slot).status
          rw [set_players, if_neg here]
          exact unowned
      · rw [if_pos free]
        exact withClient_leased leased nothing _

/-- The slot that is given up is free or on its way out. -/
theorem unregister_leased (leased : Leased room) (client : ι) : Leased (room.unregister client) := by
  unfold Room.unregister
  split
  case h_2 => exact leased
  case h_1 given held =>
    intro slot
    change Unowned ((playerManagerUnregister room.manager given).players slot).status ∨ _
    unfold playerManagerUnregister
    dsimp only
    rw [set_players]
    split
    · refine Or.inl ?_
      dsimp only
      split
      · exact Or.inl rfl
      · exact Or.inr rfl
    · rename_i away
      rcases leased slot with unowned | ⟨holder, holds⟩
      · exact Or.inl unowned
      · refine Or.inr ⟨holder, ?_⟩
        have other : holder ≠ client := by
          rintro rfl
          rw [held] at holds
          exact away (Registration.holding.inj holds).symm
        exact (Function.update_of_ne other _ _).trans holds

theorem step_leased (leased : Leased room) (step : RoomStep ι) (ran : room.step step = .ok next) : Leased next := by
  cases step with
  | tick rng => exact tick_leased leased ran
  | register client =>
    cases ran
    exact register_leased leased client
  | search client =>
    cases ran
    exact search_leased leased client
  | unregister client =>
    cases ran
    exact unregister_leased leased client
  | call call =>
    cases ran
    exact call_leased leased call

omit [DecidableEq ι] in
/-- The slots that are free after a tick. -/
theorem tick_free_iff (owned : Owned room) (leased : Leased room) (ticked : room.tick rng = .ok next)
    (within : slot < maxPlayers) :
    (next.manager.players slot).status = .notConnected ↔ ∀ client, room.clients client ≠ .holding slot := by
  have ownedNext := tick_owned owned ticked
  obtain ⟨⟨server', alive⟩, visited, ticked⟩ := bind_ok.mp ticked
  cases ticked
  constructor
  · intro idle client holds
    have active := ownedNext.active client slot holds
    rw [idle] at active
    exact active
  · intro nobody
    have unowned := (leased slot).resolve_right fun ⟨client, holds⟩ => nobody client holds
    exact serverTick_frees visited unowned within

/-! ## Admission -/

theorem search_holding (held : room.clients client = .holding slot) : room.search client = room := by
  unfold Room.search
  rw [held]

/-- A registration nobody interferes with finds a slot exactly if one is free. -/
theorem register_finds (absent : room.clients client = .absent) :
    (∃ slot, ((Room.search · client)^[maxPlayers + 1] (room.register client)).clients client = .holding slot) ↔
      ∃ slot < maxPlayers, (room.manager.players slot).status = .notConnected := by
  cases registered : playerManagerRegister room.manager with
  | none =>
    rw [register_alone_full absent registered]
    refine iff_of_false (by simp [absent]) fun ⟨slot, within, free⟩ => ?_
    have taken := List.find?_range_eq_none.mp (Option.map_eq_none_iff.mp registered) slot within
    simp [free] at taken
  | some result =>
    obtain ⟨found, manager⟩ := result
    obtain ⟨within, free, -⟩ := register_joins registered
    have rounds : maxPlayers + 1 = (maxPlayers - found) + (found + 1) := by omega
    refine iff_of_true ⟨found, ?_⟩ ⟨found, within, free⟩
    have held : ((room.withManager manager).withClient client (.holding found)).clients client = .holding found :=
      Function.update_self client _ _
    rw [rounds, Function.iterate_add_apply, register_alone absent registered,
      Function.iterate_fixed (search_holding held), held]

/-- In every run of any number of clients, after a tick: exactly the slots that nobody
holds are free, and a client that asks for one and is not interfered with gets one
exactly if there is such a slot. -/
theorem run_admits {steps : List (RoomStep ι)} (ran : (Room.start map directions cache template).run steps = .ok room)
    (ticked : room.tick rng = .ok next) :
    (∀ slot < maxPlayers, (next.manager.players slot).status = .notConnected ↔
      ∀ client, next.clients client ≠ .holding slot) ∧
    ∀ client, next.clients client = .absent →
      ((∃ slot, ((Room.search · client)^[maxPlayers + 1] (next.register client)).clients client = .holding slot) ↔
        ∃ slot < maxPlayers, ∀ other, next.clients other ≠ .holding slot) := by
  obtain ⟨owned, leased⟩ := run_always Room.step (fun room => Owned room ∧ Leased room) steps
    (fun _ step _ _ held ran => ⟨step_owned held.1 step ran, step_leased held.2 step ran⟩)
    ⟨start_owned map directions cache template, fun _ => Or.inl (Or.inl rfl)⟩ ran
  have kept : next.clients = room.clients := by
    obtain ⟨_, -, ticked⟩ := bind_ok.mp ticked
    cases ticked
    rfl
  have free : ∀ slot < maxPlayers, (next.manager.players slot).status = .notConnected ↔
      ∀ client, next.clients client ≠ .holding slot := by
    rw [kept]
    exact fun slot => tick_free_iff owned leased ticked
  refine ⟨free, fun client absent => ?_⟩
  rw [register_finds absent]
  constructor
  · exact fun ⟨slot, within, idle⟩ => ⟨slot, within, (free slot within).mp idle⟩
  · exact fun ⟨slot, within, nobody⟩ => ⟨slot, within, (free slot within).mpr nobody⟩

private theorem leaving_free : ∃ room, emptyRoom.run leaving = .ok room ∧ ∃ next, room.tick (SnakeRuns.drawing []) = .ok next ∧
    (next.clients false = .absent ∧ next.clients true = .holding 1) := by decide +kernel

/-- After the tick the client that has left can come back. -/
theorem run_admits_leaving : ∃ room next, emptyRoom.run leaving = .ok room ∧
    room.tick (SnakeRuns.drawing []) = .ok next ∧
      ∃ slot, ((Room.search · false)^[maxPlayers + 1] (next.register false)).clients false = .holding slot := by
  obtain ⟨room, ran, next, ticked, absent, held⟩ := leaving_free
  refine ⟨room, next, ran, ticked, ((run_admits ran ticked).2 false absent).mpr ⟨0, by decide, fun other => ?_⟩⟩
  cases other with
  | false => simp [absent]
  | true => simp [held]

end SnakePosix.SlotLeases
