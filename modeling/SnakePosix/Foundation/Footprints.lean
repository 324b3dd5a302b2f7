import Mathlib.Data.List.Infix

/-! A body of vertices in a row that is watched from outside. The watcher notes the
whole body when it first appears and after that only the vertex in front, whenever it
is a new one; the body never lies anywhere but on the last of these notes. -/
namespace SnakePosix.Footprints

variable {α : Type}

/-- What may have become of a body, written from its back to its front. -/
inductive Shift (body : List α) : List α → Prop where
  | gone : Shift body []
  | rests : Shift body body
  | appears (nowhere : body = []) : Shift body after
  | moves (fresh : body.getLast? ≠ some next) : Shift body (body.tail ++ [next])
  | grows (fresh : body.getLast? ≠ some next) : Shift body (body ++ [next])

/-- The watcher's notes after one more look. -/
def note [DecidableEq α] (notes body : List α) : List α :=
  match body.getLast? with
  | none => []
  | some front => if notes = [] then body else if notes.getLast? = some front then notes else notes ++ [front]

/-- The body lies on the end of the notes, and there are none without a body. -/
structure Noted (notes body : List α) : Prop where
  suffix : body <:+ notes
  blank : body = [] → notes = []

theorem noted_nothing : Noted ([] : List α) [] := ⟨List.suffix_rfl, fun _ => rfl⟩

variable {notes body after : List α} {next : α}

theorem noted_getLast (noted : Noted notes body) : notes.getLast? = body.getLast? := by
  rcases List.eq_nil_or_concat' body with nowhere | ⟨front, last, rfl⟩
  · rw [nowhere, noted.blank nowhere]
  · obtain ⟨earlier, rfl⟩ := noted.suffix
    rw [← List.append_assoc, List.getLast?_concat, List.getLast?_concat]

variable [DecidableEq α]

@[simp] theorem note_concat (notes body : List α) (next : α) : note notes (body ++ [next]) =
    if notes = [] then body ++ [next] else if notes.getLast? = some next then notes else notes ++ [next] := by
  simp [note]

/-- A new vertex in front of what is left of the body. -/
private theorem noted_front (noted : Noted notes body) (fresh : body.getLast? ≠ some next) {kept : List α}
    (left : kept <:+ body) : Noted (note notes (kept ++ [next])) (kept ++ [next]) where
  suffix := by
    rw [note_concat, noted_getLast noted, if_neg fresh]
    split
    · exact List.suffix_rfl
    · obtain ⟨earlier, same⟩ := left.trans noted.suffix
      exact ⟨earlier, by rw [← List.append_assoc, same]⟩
  blank := fun nowhere => absurd nowhere (by simp)

/-- However the body shifts, it stays on the end of the notes. -/
theorem noted_shift (noted : Noted notes body) (shift : Shift body after) : Noted (note notes after) after := by
  cases shift with
  | gone => exact noted_nothing
  | rests =>
    rcases List.eq_nil_or_concat' body with rfl | ⟨front, last, rfl⟩
    · exact noted_nothing
    · have ends := noted_getLast noted
      rw [List.getLast?_concat] at ends
      have occupied : notes ≠ [] := fun nowhere => by simp [nowhere] at ends
      rw [note_concat, if_neg occupied, if_pos ends]
      exact noted
  | appears nowhere =>
    rw [noted.blank nowhere]
    rcases List.eq_nil_or_concat' after with rfl | ⟨front, last, rfl⟩
    · exact noted_nothing
    · rw [note_concat, if_pos rfl]
      exact ⟨List.suffix_rfl, id⟩
  | moves fresh => exact noted_front noted fresh (List.tail_suffix body)
  | grows fresh => exact noted_front noted fresh List.suffix_rfl

end SnakePosix.Footprints
