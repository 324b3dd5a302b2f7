import SnakePosix.Server.Room
import SnakePosix.SlotTurns
import SnakePosix.SnakeRuns

/-! A slot has one owner. A slot somebody holds is never free, so no search takes
it, and a slot on its way out is freed by a tick only. -/
namespace SnakePosix.SlotOwners
open ChangelogReplay GameRuns GuardedRuns SlotTurns SnakeRuns TickTurns

variable {ι : Type} {room next : Room ι} {state after : TickState} {client other : ι}
  {playerId p : Nat} {rng : Rng}

/-! ## What a tick makes of the slots -/

/-- What holds of a slot's status holds after a write to some slot, if it holds of what
is written there. -/
private theorem set_status {manager : PlayerManager} {player : Player} (holds : PlayerStatus → Prop)
    (held : holds (manager.players p).status) (here : p = playerId → holds player.status) :
    holds ((manager.set playerId player).players p).status := by
  rw [set_players]
  split
  · exact here ‹_›
  · exact held

theorem visit_active {before after : PlayerStatus} {clears : Bool} (visit : Visit before after clears)
    (active : Active before) : Active after := by
  cases visit with
  | idle => exact active
  | paused | noRoom | spawned | crashed | moved => trivial
  | left => cases active

/-- No visit takes a slot from its owner. -/
private theorem forEachSlot_active (ran : forEachSlot state playerId = .ok after)
    (active : Active (state.manager.players p).status) : Active (after.manager.players p).status := by
  obtain ⟨others, clears, visit, -⟩ := forEachSlot_visited ran
  by_cases here : p = playerId
  · subst here
    exact visit_active visit active
  · rwa [others p here]

theorem serverTick_active {server server' : Server} (ran : serverTick server rng = .ok (server', alive))
    (active : Active (server.gameState.playerManager.players p).status) :
    Active (server'.gameState.playerManager.players p).status := by
  obtain ⟨locked, ranLocked, rfl⟩ := serverTick_ok ran
  obtain ⟨state, data, rng', visited, -, gameState, -⟩ := serverTickLocked_ok ranLocked
  have kept := run_always forEachSlot (fun state => Active (state.manager.players p).status)
    (List.range maxPlayers) (fun _ _ _ _ active ran => forEachSlot_active ran active) active visited
  simpa [Server.tick, gameState] using kept

/-! ## Owners -/

/-- Who holds what: a slot has one owner, and while it has one it is in use. -/
structure Owned (room : Room ι) : Prop where
  exclusive : ∀ client other playerId, room.clients client = .holding playerId →
    room.clients other = .holding playerId → client = other
  active : ∀ client playerId, room.clients client = .holding playerId →
    Active (room.manager.players playerId).status

theorem tick_owned (owned : Owned room) (ran : room.tick rng = .ok next) : Owned next := by
  obtain ⟨⟨server', alive⟩, ticked, ran⟩ := bind_ok.mp ran
  cases ran
  exact ⟨owned.exclusive, fun client playerId holds => serverTick_active ticked (owned.active client playerId holds)⟩

private theorem transition_moves {source target : PlayerStatus} (manager : PlayerManager) (slot p : Nat)
    (stays : source ≠ .disconnecting) (active : Active target) :
    ((manager.transition slot source target).players p).status = (manager.players p).status ∨
      (manager.players p).status ≠ .disconnecting ∧
        Active ((manager.transition slot source target).players p).status := by
  rcases transition_status manager slot p source target with same | ⟨before, after⟩
  · exact Or.inl same
  · rw [before, after]
    exact Or.inr ⟨stays, active⟩

/-- A call leaves a slot's status, or makes one of a slot in use of one that is not
on its way out. -/
private theorem call_moves (call : SlotCall) (manager : PlayerManager) (p : Nat) :
    ((call.apply manager).players p).status = (manager.players p).status ∨
      (manager.players p).status ≠ .disconnecting ∧ Active ((call.apply manager).players p).status := by
  cases call with
  | setPlayerDirection slot direction =>
    exact Or.inl (set_status (· = (manager.players p).status) rfl fun here => here ▸ rfl)
  | pause slot => exact transition_moves manager slot p nofun trivial
  | unpause slot => exact transition_moves manager slot p nofun trivial
  | respawn slot => exact transition_moves manager slot p nofun trivial

theorem call_active {manager : PlayerManager} (call : SlotCall) (active : Active (manager.players p).status) :
    Active ((call.apply manager).players p).status := by
  rcases call_moves call manager p with same | ⟨-, moved⟩
  · rwa [same]
  · exact moved

theorem call_owned (owned : Owned room) (call : SlotCall) :
    Owned (room.withManager (call.apply room.manager)) :=
  ⟨owned.exclusive, fun client playerId holds => call_active call (owned.active client playerId holds)⟩

theorem start_owned (map : Map) (directions : Nat → Direction) (cache : PlayerDataCache)
    (template : MapTemplate) : Owned (Room.start map directions cache template : Room ι) :=
  ⟨nofun, nofun⟩

section
variable [DecidableEq ι]

private theorem withClient_holding {registration : Registration}
    (holds : (room.withClient client registration).clients other = .holding playerId) :
    (other = client ∧ registration = .holding playerId) ∨
      (other ≠ client ∧ room.clients other = .holding playerId) := by
  simp only [Room.withClient, Function.update_apply] at holds
  split at holds
  · exact Or.inl ⟨‹_›, holds⟩
  · exact Or.inr ⟨‹_›, holds⟩

/-- A client that holds nothing afterwards takes nothing from anybody. -/
private theorem withClient_owned (owned : Owned room) {registration : Registration}
    (nothing : ∀ playerId, registration ≠ .holding playerId) : Owned (room.withClient client registration) where
  exclusive := by
    intro first second playerId holds alsoHolds
    rcases withClient_holding holds with ⟨-, held⟩ | ⟨-, holds⟩
    · exact absurd held (nothing _)
    · rcases withClient_holding alsoHolds with ⟨-, held⟩ | ⟨-, alsoHolds⟩
      · exact absurd held (nothing _)
      · exact owned.exclusive first second playerId holds alsoHolds
  active := by
    intro first playerId holds
    rcases withClient_holding holds with ⟨-, held⟩ | ⟨-, holds⟩
    · exact absurd held (nothing _)
    · exact owned.active first playerId holds

theorem register_owned (owned : Owned room) : Owned (room.register client) := by
  unfold Room.register
  split
  · exact withClient_owned owned (by simp)
  · exact owned

theorem register_elsewhere (away : other ≠ client) : (room.register client).clients other = room.clients other := by
  unfold Room.register
  split
  · exact Function.update_of_ne away _ _
  · rfl

theorem search_elsewhere (away : other ≠ client) : (room.search client).clients other = room.clients other := by
  unfold Room.search
  split
  case h_2 => rfl
  case h_1 slot searching =>
    split
    · split <;> exact Function.update_of_ne away _ _
    · exact Function.update_of_ne away _ _

theorem unregister_elsewhere (away : other ≠ client) : (room.unregister client).clients other = room.clients other := by
  unfold Room.unregister
  split
  · exact Function.update_of_ne away _ _
  · rfl

/-- The call itself finds nothing yet. -/
theorem register_nothing (held : (room.register client).clients client = .holding playerId) :
    room.clients client = .holding playerId := by
  unfold Room.register at held
  split at held
  · simp [Room.withClient] at held
  · exact held

theorem unregister_nothing (held : (room.unregister client).clients client = .holding playerId) :
    room.clients client = .holding playerId := by
  unfold Room.unregister at held
  split at held
  · simp [Room.withClient] at held
  · exact held

/-- The numbers of the slots. -/
theorem search_numbered (found : (room.search client).clients client = .holding playerId) :
    playerId < maxPlayers ∨ room.clients client = .holding playerId := by
  unfold Room.search at found
  split at found
  case h_2 => exact Or.inr found
  case h_1 slot searching =>
    split at found
    case isFalse =>
      simp [Room.withClient] at found
    case isTrue within =>
      split at found
      · simp [Room.withClient] at found
      · obtain rfl : slot = playerId := by simpa [Room.withClient] using found
        exact Or.inl within

/-- A slot that is found free has no owner. -/
theorem search_owned (owned : Owned room) : Owned (room.search client) := by
  unfold Room.search playerManagerRegisterSlot
  split
  case h_2 => exact owned
  case h_1 slot searching =>
    split
    case isFalse => exact withClient_owned owned (by simp)
    case isTrue within =>
      by_cases free : (room.manager.players slot).status = .notConnected
      · rw [if_neg (not_not.mpr free)]
        dsimp only
        have unowned : ∀ other, room.clients other ≠ .holding slot := by
          intro other holds
          have active := owned.active other slot holds
          rw [free] at active
          exact active
        refine ⟨fun first second playerId holds alsoHolds => ?_, fun first playerId holds => ?_⟩
        · rcases withClient_holding holds with ⟨here, held⟩ | ⟨away, holds⟩
          · rcases withClient_holding alsoHolds with ⟨alsoHere, -⟩ | ⟨-, alsoHolds⟩
            · exact here.trans alsoHere.symm
            · cases held
              exact absurd alsoHolds (unowned _)
          · rcases withClient_holding alsoHolds with ⟨-, held⟩ | ⟨-, alsoHolds⟩
            · cases held
              exact absurd holds (unowned _)
            · exact owned.exclusive first second playerId holds alsoHolds
        · change Active ((room.manager.set slot _).players playerId).status
          rcases withClient_holding holds with ⟨-, held⟩ | ⟨-, holds⟩
          · cases held
            rw [set_players, if_pos rfl]
            trivial
          · exact set_status Active (owned.active first playerId holds) fun _ => trivial
      · rw [if_pos free]
        exact withClient_owned owned (by simp)

/-- Whoever else holds a slot holds another one. -/
theorem unregister_owned (owned : Owned room) : Owned (room.unregister client) := by
  unfold Room.unregister
  split
  case h_2 => exact owned
  case h_1 slot held =>
    have others : Owned (room.withClient client .absent) := withClient_owned owned (by simp)
    refine ⟨others.exclusive, fun first playerId holds => ?_⟩
    change Active ((playerManagerUnregister room.manager slot).players playerId).status
    rcases withClient_holding holds with ⟨-, nothing⟩ | ⟨away, holds⟩
    · cases nothing
    · refine set_status Active (owned.active first playerId holds) fun here => ?_
      exact absurd (owned.exclusive first client playerId holds (here ▸ held)) away

theorem step_owned (owned : Owned room) (step : RoomStep ι) (ran : room.step step = .ok next) : Owned next := by
  cases step with
  | tick rng => exact tick_owned owned ran
  | register client =>
    cases ran
    exact register_owned owned
  | search client =>
    cases ran
    exact search_owned owned
  | unregister client =>
    cases ran
    exact unregister_owned owned
  | call call =>
    cases ran
    exact call_owned owned call

/-! ## A registration nobody interferes with -/

/-- The search passes over slots that are taken. -/
private theorem search_taken (room : Room ι) (client : ι) (count : Nat) (within : count ≤ maxPlayers)
    (taken : ∀ slot < count, (room.manager.players slot).status ≠ .notConnected) :
    (Room.search · client)^[count] (room.withClient client (.searching 0)) =
      room.withClient client (.searching count) := by
  induction count with
  | zero => rfl
  | succ count ih =>
    have here : (room.withClient client (.searching count)).clients client = .searching count :=
      Function.update_self client _ _
    have passed : playerManagerRegisterSlot (room.withClient client (.searching count)).manager count = none :=
      if_pos (taken count (Nat.lt_succ_self count))
    rw [Function.iterate_succ_apply', ih (by omega) fun slot below => taken slot (by omega), Room.search]
    simp only [here, if_pos (show count < maxPlayers by omega), passed]
    simp [Room.withClient]

/-- Without a step of anybody else in between, the search is the one change of
the slots that `playerManagerRegister` makes. -/
theorem register_alone {manager : PlayerManager} (absent : room.clients client = .absent)
    (registered : playerManagerRegister room.manager = some (playerId, manager)) :
    (Room.search · client)^[playerId + 1] (room.register client) =
      (room.withManager manager).withClient client (.holding playerId) := by
  obtain ⟨within, free, rfl⟩ := register_joins registered
  have taken : ∀ slot < playerId, (room.manager.players slot).status ≠ .notConnected := by
    obtain ⟨slot, found, result⟩ := Option.map_eq_some_iff.mp registered
    cases result
    simpa using (List.find?_range_eq_some.mp found).2.2
  have here : (room.withClient client (.searching playerId)).clients client = .searching playerId :=
    Function.update_self client _ _
  have joined : playerManagerRegisterSlot (room.withClient client (.searching playerId)).manager playerId =
      some (room.manager.set playerId { status := .joining, direction := .up }) :=
    if_neg (not_not.mpr free)
  rw [Room.register, absent, Function.iterate_succ_apply',
    search_taken room client playerId (Nat.le_of_lt within) taken, Room.search]
  simp only [here, if_pos within, joined]
  simp [Room.withClient, Room.withManager]

theorem register_alone_full (absent : room.clients client = .absent)
    (full : playerManagerRegister room.manager = none) :
    (Room.search · client)^[maxPlayers + 1] (room.register client) = room := by
  have taken : ∀ slot < maxPlayers, (room.manager.players slot).status ≠ .notConnected := by
    simpa using List.find?_range_eq_none.mp (Option.map_eq_none_iff.mp full)
  have here : (room.withClient client (.searching maxPlayers)).clients client = .searching maxPlayers :=
    Function.update_self client _ _
  rw [Room.register, absent, Function.iterate_succ_apply',
    search_taken room client maxPlayers (Nat.le_refl _) taken, Room.search]
  simp only [here, if_neg (Nat.lt_irrefl maxPlayers)]
  simp [Room.withClient, ← absent]

/-! ## Slots on their way out -/

private theorem call_leaving {manager : PlayerManager} (call : SlotCall)
    (leaving : (manager.players p).status = .disconnecting) :
    ((call.apply manager).players p).status = .disconnecting := by
  rcases call_moves call manager p with same | ⟨stays, -⟩
  · exact same.trans leaving
  · exact absurd leaving stays

private theorem search_leaving (leaving : (room.manager.players p).status = .disconnecting) :
    ((room.search client).manager.players p).status = .disconnecting := by
  unfold Room.search playerManagerRegisterSlot
  split
  case h_2 => exact leaving
  case h_1 slot searching =>
    split
    case isFalse => exact leaving
    case isTrue =>
      by_cases free : (room.manager.players slot).status = .notConnected
      · rw [if_neg (not_not.mpr free)]
        refine set_status (· = .disconnecting) leaving fun here => ?_
        rw [← here, leaving] at free
        cases free
      · rw [if_pos free]
        exact leaving

/-- Nobody holds a slot that is on its way out. -/
private theorem unregister_leaving (owned : Owned room) (leaving : (room.manager.players p).status = .disconnecting) :
    ((room.unregister client).manager.players p).status = .disconnecting := by
  unfold Room.unregister
  split
  case h_2 => exact leaving
  case h_1 slot held =>
    refine set_status (· = .disconnecting) leaving fun here => ?_
    have active := owned.active client slot held
    rw [← here, leaving] at active
    exact active.elim

/-- Nothing but a tick ends a slot's time as a disconnecting one. -/
theorem step_leaving (owned : Owned room) (step : RoomStep ι) (untimed : ∀ rng, step ≠ .tick rng)
    (leaving : (room.manager.players p).status = .disconnecting) (ran : room.step step = .ok next) :
    (next.manager.players p).status = .disconnecting := by
  cases step with
  | tick rng => exact absurd rfl (untimed rng)
  | register client =>
    cases ran
    unfold Room.register
    split <;> exact leaving
  | search client =>
    cases ran
    exact search_leaving leaving
  | unregister client =>
    cases ran
    exact unregister_leaving owned leaving
  | call call =>
    cases ran
    exact call_leaving call leaving

/-! ## Whole runs -/

/-- In every run of any number of clients: no two of them hold one slot, a slot
that is held is neither free nor on its way out, and a slot on its way out is
held by nobody until a tick comes. -/
theorem run_owners_exclusive {steps : List (RoomStep ι)}
    (ran : (Room.start map directions cache template).run steps = .ok room) :
    (∀ client other playerId, room.clients client = .holding playerId →
      room.clients other = .holding playerId → client = other) ∧
    (∀ client playerId, room.clients client = .holding playerId →
      (room.manager.players playerId).status ≠ .notConnected ∧
        (room.manager.players playerId).status ≠ .disconnecting) ∧
    ∀ playerId, (room.manager.players playerId).status = .disconnecting →
      ∀ (later : List (RoomStep ι)) next, (∀ rng, .tick rng ∉ later) → room.run later = .ok next →
        ∀ client, next.clients client ≠ .holding playerId := by
  have owned : Owned room := run_always Room.step Owned steps
    (fun _ step _ _ owned ran => step_owned owned step ran) (start_owned map directions cache template) ran
  have used : ∀ {room : Room ι}, Owned room → ∀ client playerId, room.clients client = .holding playerId →
      (room.manager.players playerId).status ≠ .notConnected ∧
        (room.manager.players playerId).status ≠ .disconnecting := by
    intro room owned client playerId holds
    have active := owned.active client playerId holds
    constructor
    · intro free
      rw [free] at active
      exact active
    · intro leaving
      rw [leaving] at active
      exact active
  refine ⟨owned.exclusive, used owned, fun playerId leaving later next untimed ranLater client holds => ?_⟩
  have kept := run_always Room.step
    (fun room => Owned room ∧ (room.manager.players playerId).status = .disconnecting) later
    (fun _ step member _ held ran => ⟨step_owned held.1 step ran, step_leaving held.1 step
      (fun rng tick => untimed rng (tick ▸ member)) held.2 ran⟩) ⟨owned, leaving⟩ ranLater
  exact (used kept.1 client playerId holds).2 kept.2

end

/-- The unfilled server of ten by ten cells. -/
def emptyRoom : Room ι :=
  Room.start { tiles := fun _ => { order := 0, type := .empty, player := 0 }, width := 0, height := 0 }
    (fun _ => .up) { head := fun _ => ⟨0, 0⟩, tail := fun _ => ⟨0, 0⟩ }
    { walls := fun _ => false, width := 10, height := 10 }

/-- One client's snake is on the map when it leaves; another client searches past
its slot. -/
def leaving : List (RoomStep Bool) :=
  [.register false, .search false, .tick (drawing [2, 2, 9, 9]), .register true, .search true,
    .unregister false, .search true]

private theorem leaving_slots : ∃ room, emptyRoom.run leaving = .ok room ∧
    room.clients true = .holding 1 ∧ (room.manager.players 0).status = .disconnecting := by decide +kernel

theorem run_owners_exclusive_leaving : ∃ room, emptyRoom.run leaving = .ok room ∧
    room.clients true = .holding 1 ∧ room.clients false ≠ .holding 1 ∧
      (room.manager.players 1).status ≠ .disconnecting ∧
      ∀ next, room.run [.register false, .search false] = .ok next → next.clients false ≠ .holding 0 := by
  obtain ⟨room, ran, holds, left⟩ := leaving_slots
  obtain ⟨exclusive, used, unowned⟩ := run_owners_exclusive ran
  refine ⟨room, ran, holds, fun also => ?_, (used true 1 holds).2, fun next ranLater => ?_⟩
  · cases exclusive false true 1 also holds
  · exact unowned 0 left _ next (by simp) ranLater false

end SnakePosix.SlotOwners
