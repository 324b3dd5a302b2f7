import Mathlib.Data.List.Induction
import Mathlib.Logic.Function.Basic

/-! Logs of keyed writes to a function. What a replay leaves at a key is the last
value the log holds for it, so a log that turns one function into another does
the same to everything between the two. -/
namespace SnakePosix.WriteLogs

variable {κ β : Type} [DecidableEq κ]

/-- Applies the writes in order. -/
def replay (log : List (κ × β)) (store : κ → β) : κ → β :=
  log.foldl (fun store entry => Function.update store entry.1 entry.2) store

/-- The last value written to a key. -/
def lastWrite (log : List (κ × β)) (key : κ) : Option β :=
  log.foldl (fun last entry => if entry.1 = key then some entry.2 else last) none

theorem replay_append (log : List (κ × β)) (entry : κ × β) (store : κ → β) :
    replay (log ++ [entry]) store = Function.update (replay log store) entry.1 entry.2 := by
  simp [replay, List.foldl_append]

theorem replay_cons (log : List (κ × β)) (entry : κ × β) (store : κ → β) :
    replay (entry :: log) store = replay log (Function.update store entry.1 entry.2) := rfl

private theorem lastWrite_append (log : List (κ × β)) (entry : κ × β) (key : κ) :
    lastWrite (log ++ [entry]) key = if entry.1 = key then some entry.2 else lastWrite log key := by
  simp [lastWrite, List.foldl_append]

theorem replay_eq_lastWrite (log : List (κ × β)) (store : κ → β) (key : κ) :
    replay log store key = (lastWrite log key).getD (store key) := by
  induction log using List.reverseRecOn with
  | nil => rfl
  | append_singleton log entry ih =>
    rw [replay_append, lastWrite_append]
    by_cases same : entry.1 = key
    · subst same
      simp
    · rw [Function.update_of_ne (Ne.symm same), ih, if_neg same]

/-- A key at which the start already agrees with one of the two ends is brought
to the second end. -/
theorem replay_between {log : List (κ × β)} {source target store : κ → β} {key : κ}
    (carries : replay log source key = target key)
    (between : store key = source key ∨ store key = target key) :
    replay log store key = target key := by
  rw [replay_eq_lastWrite] at carries ⊢
  cases last : lastWrite log key with
  | some value => simpa [last] using carries
  | none =>
    simp only [last, Option.getD_none] at carries ⊢
    rcases between with atSource | atTarget
    · rw [atSource, carries]
    · exact atTarget

end SnakePosix.WriteLogs
