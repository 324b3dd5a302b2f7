import SnakePosix.Foundation.GuardedRuns
import SnakePosix.Libsnake.ShmGameState

/-! The names of shared memory keep the rooms apart. A server that comes up is the only
one of its room, its room leads to it for as long as it is up, and what it unlinks is its
own. Only a server that does not get to its end leaves a name behind. -/
namespace SnakePosix.SharedRooms
open GuardedRuns

/-! ## Names -/

theorem shmNameFormat_injective {name room : CString} (same : shmNameFormat name = shmNameFormat room) : name = room :=
  List.append_cancel_left same

/-- The buffer holds the name of a room with up to 237 characters. -/
theorem allocateAndFormatName_iff {name room : CString} :
    allocateAndFormatName room = .ok name ↔ name = shmNameFormat room ∧ room.length ≤ 237 := by
  have length : (shmNameFormat room).length < shmNameBufferSize ↔ room.length ≤ 237 := by
    unfold shmNameFormat shmNameBufferSize
    rw [List.length_append, show "/shm-zemcik-snake-".toList.length = 18 from rfl]
    omega
  unfold allocateAndFormatName
  dsimp only
  rw [← length]
  split
  · rename_i fits
    exact ⟨fun same => ⟨(Except.ok.inj same).symm, fits⟩, fun ⟨same, _⟩ => congrArg Except.ok same.symm⟩
  · rename_i large
    exact ⟨fun same => (by cases same), fun ⟨_, fits⟩ => absurd fits large⟩

/-! ## What a process has -/

/-- The memory a process has, in either role. -/
def held : ShmStage → Option ShmGameState
  | .truncating state | .mapping _ state | .mapped _ state | .unmapping _ state | .unlinking state => some state
  | .outside | .opening .. | .exited => none

/-- The memory a process has created and not yet unlinked. -/
def served : ShmStage → Option ShmGameState
  | .truncating state | .mapping .server state | .mapped .server state | .unmapping .server state
  | .unlinking state => some state
  | _ => none

variable {π : Type} [DecidableEq π]

/-- The process has created the next memory. -/
def created (host : ShmHost π) (process : π) (name : CString) : ShmHost π where
  shared :=
    { linked := Function.update host.shared.linked name (some host.shared.created)
      created := host.shared.created + 1 }
  stage := Function.update host.stage process (.truncating { name, memory := host.shared.created })
  creator := Function.update host.creator host.shared.created (some process)

def unlinked (host : ShmHost π) (process : π) (name : CString) : ShmHost π where
  shared := { host.shared with linked := Function.update host.shared.linked name none }
  stage := Function.update host.stage process .outside
  creator := host.creator

/-- The one way in which a step changes who has what. -/
inductive Turn (host : ShmHost π) : ShmHost π → Prop where
  | keeps (process : π) (same : held stage = held (host.stage process))
    (serves : served stage = served (host.stage process)) (there : host.stage process = .exited → stage = .exited) :
    Turn host (host.withStage process stage)
  | closes (process : π) (serves : served (host.stage process) = none) (there : host.stage process ≠ .exited) :
    Turn host (host.withStage process .outside)
  | exits (process : π) : Turn host (host.withStage process .exited)
  | creates (process : π) (opening : host.stage process = .opening .server name)
    (free : host.shared.linked name = none) :
    Turn host (created host process name)
  | joins (process : π) (opening : host.stage process = .opening .client name)
    (found : host.shared.linked name = some memory) :
    Turn host (host.withStage process (.mapping .client { name, memory }))
  | unlinks (process : π) (unlinking : host.stage process = .unlinking state) :
    Turn host (unlinked host process state.name)

variable {host next : ShmHost π} {process p q : π} {stage : ShmStage} {state other : ShmGameState} {role : ShmRole}
  {name room : CString} {memory : Nat} {step : ShmHostStep π}

/-- A call that leaves the names alone. -/
theorem call_quiet (advanced : (host.stage process).advance host.shared = (stage, host.shared)) :
    host.step (.call process true) = .ok (host.withStage process stage) := by
  simp only [ShmHost.step, advanced, if_true, Nat.lt_irrefl, if_false]
  rfl

theorem call_creates (opening : host.stage process = .opening .server name) (free : host.shared.linked name = none) :
    host.step (.call process true) = .ok (created host process name) := by
  simp only [ShmHost.step, opening, ShmStage.advance, SharedMemory.shmCreate, free, if_true, Nat.lt_succ_self]
  rfl

theorem call_unlinks (unlinking : host.stage process = .unlinking state)
    (found : host.shared.linked state.name = some memory) :
    host.step (.call process true) = .ok (unlinked host process state.name) := by
  simp only [ShmHost.step, unlinking, ShmStage.advance, SharedMemory.shmUnlink, found, if_true, Nat.lt_irrefl,
    if_false]
  rfl

theorem call_turn (host : ShmHost π) (process : π) :
    ∃ next, host.step (.call process true) = .ok next ∧ Turn host next := by
  cases now : host.stage process with
  | outside | mapped role state | exited =>
    exact ⟨_, call_quiet (by rw [now]; rfl), .keeps process (by rw [now]) (by rw [now]) fun there => now ▸ there⟩
  | truncating state =>
    refine ⟨_, call_quiet (by rw [now]; rfl), .keeps process (by rw [now]; rfl) (by rw [now]; rfl) ?_⟩
    rw [now]
    exact fun there => (by cases there)
  | mapping role state =>
    refine ⟨_, call_quiet (by rw [now]; rfl), .keeps process (by rw [now]; rfl) (by rw [now]; cases role <;> rfl) ?_⟩
    rw [now]
    exact fun there => (by cases there)
  | unmapping role state =>
    cases role with
    | server =>
      refine ⟨_, call_quiet (by rw [now]; rfl), .keeps process (by rw [now]; rfl) (by rw [now]; rfl) ?_⟩
      rw [now]
      exact fun there => (by cases there)
    | client =>
      refine ⟨_, call_quiet (by rw [now]; rfl), .closes process (by rw [now]; rfl) ?_⟩
      rw [now]
      exact fun there => (by cases there)
  | opening role name =>
    have refused : Turn host (host.withStage process .outside) := by
      apply Turn.closes process
      · rw [now]
        rfl
      · rw [now]
        exact fun there => (by cases there)
    cases role with
    | server =>
      cases found : host.shared.linked name with
      | none => exact ⟨_, call_creates now found, .creates process now found⟩
      | some memory =>
        exact ⟨_, call_quiet (by simp only [now, ShmStage.advance, SharedMemory.shmCreate, found]), refused⟩
    | client =>
      cases found : host.shared.linked name with
      | none => exact ⟨_, call_quiet (by simp only [now, ShmStage.advance, found]), refused⟩
      | some memory =>
        exact ⟨_, call_quiet (by simp only [now, ShmStage.advance, found]), .joins process now found⟩
  | unlinking state =>
    cases found : host.shared.linked state.name with
    | none =>
      exact ⟨_, call_quiet (by simp only [now, ShmStage.advance, SharedMemory.shmUnlink, found]), .exits process⟩
    | some memory => exact ⟨_, call_unlinks now found, .unlinks process now⟩

theorem fail_turn (host : ShmHost π) (process : π) : Turn host (host.withStage process (host.stage process).fail) := by
  cases now : host.stage process with
  | outside | mapped role state | exited =>
    exact .keeps process (by rw [now]; rfl) (by rw [now]; rfl) fun there => by rw [← now, there]; rfl
  | truncating state | mapping role state | unmapping role state | unlinking state => exact .exits process
  | opening role name =>
    apply Turn.closes process
    · rw [now]
      rfl
    · rw [now]
      exact fun there => (by cases there)

/-- Everything a step may do. -/
theorem step_turn (ran : host.step step = .ok next) : Turn host next := by
  have idle : ∀ process, Turn host host := fun process => by
    have same : host.withStage process (host.stage process) = host := by
      unfold ShmHost.withStage
      rw [Function.update_eq_self]
    have kept : Turn host (host.withStage process (host.stage process)) := .keeps process rfl rfl id
    rwa [same] at kept
  cases step with
  | enter process role roomName =>
    simp only [ShmHost.step] at ran
    split at ran
    · rename_i outside
      obtain ⟨name, -, ran⟩ := bind_ok.mp ran
      cases ran
      apply Turn.keeps process
      · rw [outside]
        rfl
      · rw [outside]
        rfl
      · rw [outside]
        exact fun there => (by cases there)
    · cases ran
      exact idle process
  | call process succeeds =>
    cases succeeds with
    | true =>
      obtain ⟨next', called, turn⟩ := call_turn host process
      obtain rfl := Except.ok.inj (called.symm.trans ran)
      exact turn
    | false =>
      cases ran
      exact fail_turn host process
  | leave process =>
    simp only [ShmHost.step] at ran
    split at ran
    · rename_i role state mapped
      cases ran
      apply Turn.keeps process
      · rw [mapped]
        rfl
      · rw [mapped]
        cases role <;> rfl
      · rw [mapped]
        exact fun there => (by cases there)
    · cases ran
      exact idle process
  | kill process =>
    cases ran
    exact .exits process

/-! ## The invariant -/

def Linked (host : ShmHost π) (state : ShmGameState) : Prop := host.shared.linked state.name = some state.memory

/-- A memory under the name it was created with. -/
def Known (host : ShmHost π) (state : ShmGameState) : Prop :=
  Linked host state ∨ ∃ process, held (host.stage process) = some state

structure Apart (host : ShmHost π) : Prop where
  fresh : ∀ state, Known host state → state.memory < host.shared.created
  named : ∀ state other, Known host state → Known host other → state.memory = other.memory → state = other
  serves : ∀ process state, served (host.stage process) = some state →
    Linked host state ∧ host.creator state.memory = some process
  left : ∀ state, Linked host state → ∃ process, host.creator state.memory = some process ∧
    (served (host.stage process) = some state ∨ host.stage process = .exited)

omit [DecidableEq π] in
theorem start_apart : Apart (ShmHost.start : ShmHost π) where
  fresh := by
    rintro state (linked | ⟨process, has⟩)
    · cases linked
    · cases has
  named := by
    rintro state other (linked | ⟨process, has⟩)
    · cases linked
    · cases has
  serves := fun process state serves => by cases serves
  left := fun state linked => by cases linked

theorem withStage_stage (host : ShmHost π) (process p : π) (stage : ShmStage) :
    (host.withStage process stage).stage p = if p = process then stage else host.stage p :=
  Function.update_apply ..

/-- Nothing new is known once a process has no more than it had. -/
theorem withStage_apart (apart : Apart host) (has : ∀ state, held stage = some state → Known host state)
    (serves : ∀ state, served stage = some state → served (host.stage process) = some state)
    (left : stage = .exited ∨ served (host.stage process) = served stage ∧
      (host.stage process = .exited → stage = .exited)) : Apart (host.withStage process stage) := by
  have known : ∀ state, Known (host.withStage process stage) state → Known host state := by
    rintro state (linked | ⟨p, holds⟩)
    · exact Or.inl linked
    · rw [withStage_stage] at holds
      split at holds
      · exact has state holds
      · exact Or.inr ⟨p, holds⟩
  constructor
  · exact fun state knows => apart.fresh state (known state knows)
  · exact fun state other knows others => apart.named state other (known state knows) (known other others)
  · intro p state serving
    rw [withStage_stage] at serving
    split at serving
    · rename_i same
      rw [same]
      exact apart.serves process state (serves state serving)
    · exact apart.serves p state serving
  · intro state linked
    obtain ⟨p, created, up⟩ := apart.left state linked
    refine ⟨p, created, ?_⟩
    rw [withStage_stage]
    split
    · rename_i same
      rw [same] at up
      rcases left with gone | ⟨same, there⟩
      · exact Or.inr gone
      · rw [← same]
        exact up.imp_right there
    · exact up

theorem created_stage (host : ShmHost π) (process p : π) (name : CString) :
    (created host process name).stage p =
      if p = process then .truncating { name, memory := host.shared.created } else host.stage p :=
  Function.update_apply ..

theorem created_linked (linked : Linked (created host process name) state) :
    state = { name, memory := host.shared.created } ∨ state.name ≠ name ∧ Linked host state := by
  unfold Linked created at linked
  dsimp only at linked
  rw [Function.update_apply] at linked
  split at linked
  · rename_i same
    cases state
    cases same
    cases linked
    exact Or.inl rfl
  · rename_i other
    exact Or.inr ⟨other, linked⟩

theorem created_known (knows : Known (created host process name) state) :
    state = { name, memory := host.shared.created } ∨ Known host state := by
  rcases knows with linked | ⟨p, holds⟩
  · exact (created_linked linked).imp_right fun old => Or.inl old.2
  · rw [created_stage] at holds
    split at holds
    · exact Or.inl (Option.some.inj holds).symm
    · exact Or.inr (Or.inr ⟨p, holds⟩)

/-- The memory that was created is the process's own, and nobody has known it. -/
theorem created_apart (apart : Apart host) (opening : host.stage process = .opening .server name)
    (free : host.shared.linked name = none) : Apart (created host process name) := by
  have older : ∀ state, Known host state → (created host process name).creator state.memory =
      host.creator state.memory :=
    fun state knows => Function.update_of_ne (Nat.ne_of_lt (apart.fresh state knows)) ..
  have own : (created host process name).creator host.shared.created = some process := Function.update_self ..
  constructor
  · intro state knows
    rcases created_known knows with rfl | knows
    · exact Nat.lt_succ_self _
    · exact Nat.lt_succ_of_lt (apart.fresh state knows)
  · intro state other knows others same
    rcases created_known knows with rfl | knows <;> rcases created_known others with rfl | others
    · rfl
    · exact absurd same (Nat.ne_of_gt (apart.fresh other others))
    · exact absurd same (Nat.ne_of_lt (apart.fresh state knows))
    · exact apart.named state other knows others same
  · intro p state serving
    rw [created_stage] at serving
    split at serving
    · rename_i same
      obtain rfl := Option.some.inj serving
      exact ⟨Function.update_self .., same ▸ own⟩
    · obtain ⟨linked, creator⟩ := apart.serves p state serving
      have differs : state.name ≠ name := fun same => by
        rw [Linked, same, free] at linked
        cases linked
      exact ⟨(Function.update_of_ne differs ..).trans linked, (older state (Or.inl linked)).trans creator⟩
  · intro state linked
    rcases created_linked linked with rfl | ⟨-, linked⟩
    · refine ⟨process, own, Or.inl ?_⟩
      rw [created_stage, if_pos rfl]
      rfl
    · obtain ⟨p, creator, up⟩ := apart.left state linked
      have away : p ≠ process := by
        rintro rfl
        rw [opening] at up
        rcases up with serving | gone
        · cases serving
        · cases gone
      refine ⟨p, (older state (Or.inl linked)).trans creator, ?_⟩
      rwa [created_stage, if_neg away]

theorem unlinked_stage (host : ShmHost π) (process p : π) (name : CString) :
    (unlinked host process name).stage p = if p = process then .outside else host.stage p :=
  Function.update_apply ..

theorem unlinked_linked (linked : Linked (unlinked host process name) state) :
    state.name ≠ name ∧ Linked host state := by
  unfold Linked unlinked at linked
  dsimp only at linked
  rw [Function.update_apply] at linked
  split at linked
  · cases linked
  · rename_i other
    exact ⟨other, linked⟩

theorem unlinked_known (knows : Known (unlinked host process name) state) : Known host state := by
  rcases knows with linked | ⟨p, holds⟩
  · exact Or.inl (unlinked_linked linked).2
  · rw [unlinked_stage] at holds
    split at holds
    · cases holds
    · exact Or.inr ⟨p, holds⟩

/-- A server unlinks its own name and no other server's. -/
theorem unlinked_apart (apart : Apart host) (unlinking : host.stage process = .unlinking state) :
    Apart (unlinked host process state.name) := by
  have serving : served (host.stage process) = some state := by
    rw [unlinking]
    rfl
  obtain ⟨own, creator⟩ := apart.serves process state serving
  constructor
  · exact fun other knows => apart.fresh other (unlinked_known knows)
  · exact fun first second knows others => apart.named first second (unlinked_known knows) (unlinked_known others)
  · intro p other serves
    rw [unlinked_stage] at serves
    split at serves
    · cases serves
    · rename_i away
      obtain ⟨linked, created⟩ := apart.serves p other serves
      have differs : other.name ≠ state.name := fun same => by
        rw [Linked, same, own] at linked
        rw [← Option.some.inj linked, creator] at created
        exact away (Option.some.inj created).symm
      exact ⟨(Function.update_of_ne differs ..).trans linked, created⟩
  · intro other linked
    obtain ⟨differs, linked⟩ := unlinked_linked linked
    obtain ⟨p, created, up⟩ := apart.left other linked
    have away : p ≠ process := by
      rintro rfl
      rw [unlinking] at up
      rcases up with serves | gone
      · exact differs (congrArg ShmGameState.name (Option.some.inj serves)).symm
      · cases gone
    refine ⟨p, created, ?_⟩
    rwa [unlinked_stage, if_neg away]

theorem turn_apart (apart : Apart host) (turn : Turn host next) : Apart next := by
  cases turn with
  | keeps process same serves there =>
    apply withStage_apart apart
    · exact fun state has => Or.inr ⟨process, same ▸ has⟩
    · exact fun state serving => serves ▸ serving
    · exact Or.inr ⟨serves.symm, there⟩
  | closes process serves there =>
    apply withStage_apart apart
    · exact fun state has => by cases has
    · exact fun state serving => by cases serving
    · exact Or.inr ⟨serves, fun gone => absurd gone there⟩
  | exits process =>
    apply withStage_apart apart
    · exact fun state has => by cases has
    · exact fun state serving => by cases serving
    · exact Or.inl rfl
  | creates process opening free => exact created_apart apart opening free
  | joins process opening found =>
    apply withStage_apart apart
    · intro state has
      cases has
      exact Or.inl found
    · exact fun state serving => by cases serving
    · rw [opening]
      exact Or.inr ⟨rfl, fun gone => by cases gone⟩
  | unlinks process unlinking => exact unlinked_apart apart unlinking

theorem run_apart {steps : List (ShmHostStep π)} (ran : ShmHost.start.run steps = .ok host) : Apart host :=
  run_always ShmHost.step Apart steps (fun _ _ _ _ apart stepped => turn_apart apart (step_turn stepped)) start_apart ran

/-! ## Rooms -/

/-- The process has the memory of this room and has not yet unlinked it. -/
def Serves (host : ShmHost π) (process : π) (room : CString) (memory : Nat) : Prop :=
  served (host.stage process) = some { name := shmNameFormat room, memory }

instance : Decidable (Serves host process room memory) := inferInstanceAs (Decidable (_ = _))

/-- The room's name is left of a server that has not got to its end. -/
def Orphaned (host : ShmHost π) (room : CString) : Prop :=
  ∃ memory process, host.shared.linked (shmNameFormat room) = some memory ∧ host.creator memory = some process ∧
    host.stage process = .exited

structure Rooms (host : ShmHost π) : Prop where
  alone : ∀ p q room memory other, Serves host p room memory → Serves host q room other → p = q
  /-- Whoever opens the room gets the memory of its server. -/
  joined : ∀ p q room memory, Serves host p room memory → host.stage q = .opening .client (shmNameFormat room) →
    ∃ next, host.step (.call q true) = .ok next ∧
      next.stage q = .mapping .client { name := shmNameFormat room, memory }
  created : ∀ q room, host.stage q = .opening .server (shmNameFormat room) →
    ∃ next, host.step (.call q true) = .ok next ∧
      ((∃ memory, Serves next q room memory) ↔ (∀ p memory, ¬ Serves host p room memory) ∧ ¬ Orphaned host room)
  destroyed : ∀ p state, host.stage p = .unlinking state →
    ∃ next, host.step (.call p true) = .ok next ∧ next.stage p = .outside ∧ next.shared.linked state.name = none
  apart : ∀ p q state other, held (host.stage p) = some state → held (host.stage q) = some other →
    state.memory = other.memory → state.name = other.name

omit [DecidableEq π] in
/-- A name is free if no server of the room is up and none has left it behind. -/
theorem free_iff (apart : Apart host) : host.shared.linked (shmNameFormat room) = none ↔
    (∀ p memory, ¬ Serves host p room memory) ∧ ¬ Orphaned host room := by
  constructor
  · intro free
    constructor
    · intro p memory serves
      have linked := (apart.serves p _ serves).1
      rw [Linked, free] at linked
      cases linked
    · rintro ⟨memory, p, linked, -, -⟩
      rw [free] at linked
      cases linked
  · rintro ⟨nobody, kept⟩
    refine Option.eq_none_iff_forall_ne_some.mpr fun memory linked => ?_
    obtain ⟨p, creator, up⟩ := apart.left { name := shmNameFormat room, memory } linked
    rcases up with serves | gone
    · exact nobody p memory serves
    · exact kept ⟨memory, p, linked, creator, gone⟩

theorem joins_server (apart : Apart host) (serves : Serves host p room memory)
    (opening : host.stage q = .opening .client (shmNameFormat room)) :
    ∃ next, host.step (.call q true) = .ok next ∧
      next.stage q = .mapping .client { name := shmNameFormat room, memory } := by
  have linked : host.shared.linked (shmNameFormat room) = some memory := (apart.serves p _ serves).1
  have advanced : (host.stage q).advance host.shared =
      (.mapping .client { name := shmNameFormat room, memory }, host.shared) := by
    simp only [opening, ShmStage.advance, linked]
  exact ⟨_, call_quiet advanced, Function.update_self ..⟩

theorem creates_room (apart : Apart host) (opening : host.stage q = .opening .server (shmNameFormat room)) :
    ∃ next, host.step (.call q true) = .ok next ∧
      ((∃ memory, Serves next q room memory) ↔ (∀ p memory, ¬ Serves host p room memory) ∧ ¬ Orphaned host room) := by
  rw [← free_iff apart]
  cases found : host.shared.linked (shmNameFormat room) with
  | none =>
    refine ⟨_, call_creates opening found, iff_of_true ⟨host.shared.created, ?_⟩ rfl⟩
    unfold Serves
    rw [created_stage, if_pos rfl]
    rfl
  | some memory =>
    have advanced : (host.stage q).advance host.shared = (.outside, host.shared) := by
      simp only [opening, ShmStage.advance, SharedMemory.shmCreate, found]
    refine ⟨_, call_quiet advanced, iff_of_false ?_ fun same => by cases same⟩
    rintro ⟨other, serves⟩
    rw [Serves, withStage_stage, if_pos rfl] at serves
    cases serves

theorem destroys_room (apart : Apart host) (unlinking : host.stage p = .unlinking state) :
    ∃ next, host.step (.call p true) = .ok next ∧ next.stage p = .outside ∧
      next.shared.linked state.name = none := by
  obtain ⟨linked, -⟩ := apart.serves p state (by rw [unlinking]; rfl)
  exact ⟨_, call_unlinks unlinking linked, Function.update_self .., Function.update_self ..⟩

/-- However servers and clients come and go, fail and are killed. -/
theorem run_rooms {steps : List (ShmHostStep π)} (ran : ShmHost.start.run steps = .ok host) : Rooms host := by
  have apart := run_apart ran
  constructor
  · intro p q room memory other serves serves'
    obtain ⟨linked, creator⟩ := apart.serves p _ serves
    obtain ⟨linked', creator'⟩ := apart.serves q _ serves'
    have same : memory = other := Option.some.inj (linked.symm.trans linked')
    rw [same, creator'] at creator
    exact (Option.some.inj creator).symm
  · exact fun p q room memory serves opening => joins_server apart serves opening
  · exact fun q room opening => creates_room apart opening
  · exact fun p state unlinking => destroys_room apart unlinking
  · intro p q state other has has' same
    exact congrArg ShmGameState.name (apart.named state other (Or.inr ⟨p, has⟩) (Or.inr ⟨q, has'⟩) same)

def den : CString := "den".toList

/-- A server opens a room, a second one is refused, and a client comes. -/
def twoServers : List (ShmHostStep Nat) :=
  [.enter 0 .server den, .enter 1 .server den, .call 0 true, .call 1 true, .call 0 true, .call 0 true,
    .enter 2 .client den]

private theorem twoServers_ran : ∃ host, ShmHost.start.run twoServers = .ok host ∧ host.stage 1 = .outside ∧
    host.stage 2 = .opening .client (shmNameFormat den) ∧ Serves host 0 den 0 := by decide +kernel

theorem run_rooms_twoServers : ∃ host, ShmHost.start.run twoServers = .ok host ∧ host.stage 1 = .outside ∧
    ∃ next, host.step (.call 2 true) = .ok next ∧
      next.stage 2 = .mapping .client { name := shmNameFormat den, memory := 0 } := by
  obtain ⟨host, ran, refused, opening, serves⟩ := twoServers_ran
  exact ⟨host, ran, refused, (run_rooms ran).joined 0 2 den 0 serves opening⟩

end SnakePosix.SharedRooms
