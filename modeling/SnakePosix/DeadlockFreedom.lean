import Mathlib.Data.List.Range
import SnakePosix.Client.Locks

/-! No circle of threads waits for each other's mutexes. All programs take them in one
order: a renderer's queue, a map, the changelog, the players by their ids, the ticker. -/
namespace SnakePosix.DeadlockFreedom
open LockOrder

variable {ι κ : Type} [DecidableEq κ] {held : List (Mutex κ)}

/-- The order of the mutexes. -/
def lockRank : Mutex κ → Nat
  | .queue _ => 0
  | .map _ => 1
  | .changelog => 2
  | .player playerId => 3 + playerId
  | .ticker => 3 + maxPlayers

theorem playerManagerRegister_ascends (statuses : Nat → PlayerStatus) :
    Ascends lockRank ([] : List (Mutex κ)) (playerManagerRegisterLocks statuses) [] := by
  unfold playerManagerRegisterLocks
  induction List.range maxPlayers with
  | nil => exact ascends_nil
  | cons i slots ih =>
    unfold registerLocks
    split
    · exact ascends_append ascends_alone ih
    · exact ascends_alone

/-- The players' mutexes may be taken on top of any that come before them. -/
theorem playerManagerForEach_ascends (below : ∀ before ∈ held, lockRank before < 3) :
    Ascends lockRank held playerManagerForEachLocks held := by
  let players : List (Mutex κ) := (List.range maxPlayers).map .player
  have ordered : players.Pairwise (lockRank · < lockRank ·) := by
    rw [List.pairwise_map]
    exact List.pairwise_lt_range.imp fun less => Nat.add_lt_add_left less 3
  have above : ∀ before ∈ held, ∀ mutex ∈ players, lockRank before < lockRank mutex := by
    intro before member mutex taken
    obtain ⟨i, -, rfl⟩ := List.mem_map.mp taken
    exact Nat.lt_of_lt_of_le (below before member) (Nat.le_add_right 3 i)
  have acquired := ascends_acquires players ordered above
  have released : Ascends lockRank (players.reverse ++ held) (players.map .release) held :=
    ascends_releases players players.reverse_perm
  rw [List.map_map] at acquired released
  exact ascends_append acquired released

theorem tickerTick_ascends : Ascends lockRank ([] : List (Mutex κ)) tickerTickLocks [] :=
  ascends_acquire nofun (ascends_broadcast (ascends_release ascends_nil))

/-- The mutexes of a tick are nested; the ticker's is taken after all are given back. -/
theorem serverTick_ascends : Ascends lockRank ([] : List (Mutex κ)) serverTickLocks [] := by
  unfold serverTickLocks
  apply ascends_acquire nofun
  apply ascends_acquire
  · intro before member
    rw [List.mem_singleton.mp member]
    exact Nat.lt_succ_self 1
  apply ascends_append
  · apply playerManagerForEach_ascends
    intro before member
    rcases List.mem_pair.mp member with rfl | rfl <;> simp [lockRank]
  · apply ascends_release
    apply ascends_release
    exact tickerTick_ascends

/-- A wait gives up the only mutex its thread has. -/
theorem tickerObserverWaitForNextTick_ascends (wakeups : Nat) :
    Ascends lockRank ([] : List (Mutex κ)) (tickerObserverWaitForNextTickLocks wakeups) [] := by
  unfold tickerObserverWaitForNextTickLocks
  apply ascends_acquire nofun
  apply ascends_append (ascends_waits nofun wakeups)
  exact ascends_release ascends_nil

/-- A redraw takes the map's mutex on top of the queue's. -/
theorem rendererMain_ascends (client : κ) (drawn : Option κ) (wakeups : Nat) (command : Option RendererCommand) :
    Ascends lockRank [] (rendererMainLocks client drawn wakeups command) [] := by
  unfold rendererMainLocks
  apply ascends_acquire nofun
  apply ascends_append (ascends_waits nofun wakeups)
  match command with
  | some (.redraw _) =>
    apply ascends_acquire
    · intro before member
      rw [List.mem_singleton.mp member]
      exact Nat.zero_lt_one
    · exact ascends_release (ascends_release ascends_nil)
  | some (.update ..) | none => exact ascends_release ascends_nil

/-- Every call keeps to the order and gives back what it takes. -/
theorem locks_ascends (call : LockCall κ) : Ascends lockRank [] call.locks [] := by
  cases call with
  | serverTick => exact serverTick_ascends
  | serverEndGame | tickerTick => exact tickerTick_ascends
  | playerManagerRegister statuses => exact playerManagerRegister_ascends statuses
  | playerManagerForEach => exact playerManagerForEach_ascends nofun
  | tickerObserverWaitForNextTick wakeups => exact tickerObserverWaitForNextTick_ascends wakeups
  | rendererMain client drawn wakeups command => exact rendererMain_ascends client drawn wakeups command
  | shmClientUpdates client size => exact ascends_append ascends_alone (ascends_repeat ascends_alone size)
  | socketClientMap | socketClientTileChange => exact ascends_append ascends_alone ascends_alone
  | clientConnectionSendMap | clientConnectionSendChangelog | playerManagerUnregister | playerManagerPause
  | playerManagerUnpause | playerManagerRespawn | playerManagerGetPlayerState | playerManagerGetPlayerStatus
  | playerManagerSetPlayerDirection | synChangelogCopy | tickerObserverInit | rendererRedraw | rendererUpdate =>
    exact ascends_alone

/-- However many threads make these calls, for however many clients, and however they
are interleaved: none of them ever waits, directly or through others, for itself. -/
theorem locks_not_blocked [DecidableEq ι] (steps : List (LockStep ι (LockCall κ) (Mutex κ))) (thread : ι) :
    ¬ Relation.TransGen ((LockRoom.start : LockRoom ι (Mutex κ)).run LockCall.locks steps).Blocked thread thread :=
  run_not_blocked locks_ascends steps thread

end SnakePosix.DeadlockFreedom
