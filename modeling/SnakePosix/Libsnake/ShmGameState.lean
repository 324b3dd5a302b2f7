import Mathlib.Logic.Function.Basic
import SnakePosix.Client.Terminal

/-! `shm_game_state.c` in any number of processes over the names of POSIX shared
memory. Which memory a process has mapped is all that is kept of the memory. -/
namespace SnakePosix

def shmNameBufferSize : Nat := 256

/-- `SHM_NAME_FORMAT` -/
def shmNameFormat (roomName : CString) : CString := "/shm-zemcik-snake-".toList ++ roomName

/-- Nothing compares the length, which `sprintf` exceeds by the null. -/
def allocateAndFormatName (roomName : CString) : Except BufferOverflow CString :=
  let name := shmNameFormat roomName
  if name.length < shmNameBufferSize then .ok name else .error { index := shmNameBufferSize }

/-! ## The system's calls -/

/-- Memory is numbered in the order in which it is created. -/
structure SharedMemory where
  linked : CString → Option Nat
  created : Nat

/-- `shm_open(name, O_RDWR | O_CREAT | O_EXCL, S_IRUSR | S_IWUSR)` -/
def SharedMemory.shmCreate (self : SharedMemory) (name : CString) : Option (Nat × SharedMemory) :=
  match self.linked name with
  | some _ => none
  | none => some (self.created,
      { linked := Function.update self.linked name (some self.created), created := self.created + 1 })

/-- `shm_unlink`. The memory stays where it is mapped. -/
def SharedMemory.shmUnlink (self : SharedMemory) (name : CString) : Option SharedMemory :=
  match self.linked name with
  | some _ => some { self with linked := Function.update self.linked name none }
  | none => none

/-! ## One process -/

/-- `fd_` and `game_state_` are of this memory. -/
structure ShmGameState where
  name : CString
  memory : Nat
  deriving DecidableEq, Repr

/-- A server creates the memory and unlinks it, a client opens and closes it. -/
inductive ShmRole where
  | server
  | client
  deriving DecidableEq, Repr

/-- The call a process is about to make. -/
inductive ShmStage where
  /-- There is no `shm_game_state_t`. -/
  | outside
  /-- `shm_open` in `shm_game_state_init` or in `shm_game_state_open` -/
  | opening (role : ShmRole) (name : CString)
  /-- `ftruncate` -/
  | truncating (self : ShmGameState)
  /-- `mmap` -/
  | mapping (role : ShmRole) (self : ShmGameState)
  /-- The function has returned `true`. -/
  | mapped (role : ShmRole) (self : ShmGameState)
  /-- `munmap` and `close` in `shm_game_state_destroy` or in `shm_game_state_close` -/
  | unmapping (role : ShmRole) (self : ShmGameState)
  /-- `shm_unlink` -/
  | unlinking (self : ShmGameState)
  /-- The process is gone: a call has failed, or it was killed. -/
  | exited
  deriving DecidableEq, Repr

/-- The next call of a process and what it makes of the names, if nothing else keeps
the call from its success. -/
def ShmStage.advance (self : ShmStage) (shared : SharedMemory) : ShmStage × SharedMemory :=
  match self with
  | .opening .server name =>
    match shared.shmCreate name with
    | some (memory, shared) => (.truncating { name, memory }, shared)
    | none => (.outside, shared)
  | .opening .client name =>
    match shared.linked name with
    | some memory => (.mapping .client { name, memory }, shared)
    | none => (.outside, shared)
  | .truncating self => (.mapping .server self, shared)
  | .mapping role self => (.mapped role self, shared)
  | .unmapping .server self => (.unlinking self, shared)
  | .unmapping .client _ => (.outside, shared)
  | .unlinking self =>
    match shared.shmUnlink self.name with
    | some shared => (.outside, shared)
    | none => (.exited, shared)
  | .outside | .mapped .. | .exited => (self, shared)

/-- The next call fails. Only `shm_open` is let fail. -/
def ShmStage.fail : ShmStage → ShmStage
  | .opening .. => .outside
  | .truncating _ | .mapping .. | .unmapping .. | .unlinking _ => .exited
  | self => self

/-! ## All processes -/

structure ShmHost (π : Type) where
  shared : SharedMemory
  stage : π → ShmStage
  /-- Who has created a memory; no step reads it. -/
  creator : Nat → Option π

inductive ShmHostStep (π : Type) where
  /-- A call of `shm_game_state_init` or `shm_game_state_open` -/
  | enter (process : π) (role : ShmRole) (roomName : CString)
  | call (process : π) (succeeds : Bool)
  /-- A call of `shm_game_state_destroy` or `shm_game_state_close` -/
  | leave (process : π)
  | kill (process : π)

variable {π : Type} [DecidableEq π]

def ShmHost.start : ShmHost π where
  shared := { linked := fun _ => none, created := 0 }
  stage := fun _ => .outside
  creator := fun _ => none

def ShmHost.withStage (self : ShmHost π) (process : π) (stage : ShmStage) : ShmHost π :=
  { self with stage := Function.update self.stage process stage }

/-- A step that is not the process's next one does nothing. -/
def ShmHost.step (self : ShmHost π) : ShmHostStep π → Except BufferOverflow (ShmHost π)
  | .enter process role roomName =>
    if self.stage process = .outside then do
      let name ← allocateAndFormatName roomName
      .ok (self.withStage process (.opening role name))
    else .ok self
  | .call process succeeds =>
    if succeeds then
      let (stage, shared) := (self.stage process).advance self.shared
      .ok { shared
            stage := Function.update self.stage process stage
            creator := if self.shared.created < shared.created then
              Function.update self.creator self.shared.created (some process) else self.creator }
    else .ok (self.withStage process (self.stage process).fail)
  | .leave process =>
    match self.stage process with
    | .mapped role state => .ok (self.withStage process (.unmapping role state))
    | _ => .ok self
  | .kill process => .ok (self.withStage process .exited)

def ShmHost.run (self : ShmHost π) (steps : List (ShmHostStep π)) : Except BufferOverflow (ShmHost π) :=
  steps.foldlM ShmHost.step self

end SnakePosix
