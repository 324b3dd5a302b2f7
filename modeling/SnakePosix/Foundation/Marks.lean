import Mathlib.Data.List.Basic

/-! Texts of marks and blanks. A reader takes one mark after the other and skips
the blanks behind each, so it sees the marks and nothing of their layout. -/
namespace SnakePosix.Marks

variable {α σ ι : Type} {blank : α → Bool} {text : List α}

def marks (blank : α → Bool) (text : List α) : List α := text.filter fun c => !blank c

def skip (blank : α → Bool) (text : List α) : List α := text.dropWhile blank

/-- The text does not begin with a blank. -/
def Skipped (blank : α → Bool) (text : List α) : Prop := ∀ c ∈ text.head?, blank c = false

/-- The next mark, if there is one, and what is left behind it. -/
def take (blank : α → Bool) (text : List α) : Option α × List α :=
  match text with
  | [] => (none, [])
  | c :: rest => (some c, skip blank rest)

theorem marks_skip (blank : α → Bool) (text : List α) : marks blank (skip blank text) = marks blank text := by
  unfold skip
  induction text with
  | nil => rfl
  | cons c rest ih =>
    rw [List.dropWhile_cons]
    split
    · rename_i leading
      rw [ih]
      simp [marks, leading]
    · rfl

theorem skip_skipped (blank : α → Bool) (text : List α) : Skipped blank (skip blank text) := by
  unfold skip
  induction text with
  | nil => exact nofun
  | cons c rest ih =>
    rw [List.dropWhile_cons]
    split
    · exact ih
    · rename_i mark
      intro first head
      obtain rfl := Option.some.inj head
      exact Bool.eq_false_iff.mpr mark

theorem skip_append (blanks : ∀ c ∈ text, blank c = true) (rest : List α) :
    skip blank (text ++ rest) = skip blank rest := List.dropWhile_append_of_pos blanks

theorem skip_of_skipped (skipped : Skipped blank text) : skip blank text = text := by
  cases text with
  | nil => rfl
  | cons c rest => exact List.dropWhile_cons_of_neg (Bool.eq_false_iff.mp (skipped c rfl))

/-- A reader that stands at a mark takes it. -/
theorem take_spec (skipped : Skipped blank text) :
    (take blank text).1 = (marks blank text).head? ∧ marks blank (take blank text).2 = (marks blank text).tail ∧
      Skipped blank (take blank text).2 := by
  cases text with
  | nil => exact ⟨rfl, rfl, nofun⟩
  | cons c rest =>
    have mark : blank c = false := skipped c rfl
    have first : marks blank (c :: rest) = c :: marks blank rest := by simp [marks, mark]
    rw [first]
    exact ⟨rfl, marks_skip blank rest, skip_skipped blank rest⟩

/-- A loop that takes a mark for each of its inputs. -/
def takeEach (blank : α → Bool) (step : σ → ι → Option α → σ) (inputs : List ι) (state : σ) (text : List α) :
    σ × List α :=
  inputs.foldl (fun (state, text) input => (step state input (take blank text).1, (take blank text).2)) (state, text)

/-- The same loop over the marks themselves. -/
def feed (step : σ → ι → Option α → σ) : List ι → σ → List α → σ
  | [], state, _ => state
  | input :: inputs, state, marks => feed step inputs (step state input marks.head?) marks.tail

/-- What such a loop computes depends on the marks alone. -/
theorem takeEach_marks (step : σ → ι → Option α → σ) (inputs : List ι) (state : σ) (skipped : Skipped blank text) :
    (takeEach blank step inputs state text).1 = feed step inputs state (marks blank text) := by
  induction inputs generalizing state text with
  | nil => rfl
  | cons input inputs ih =>
    obtain ⟨taken, left, ready⟩ := take_spec skipped
    rw [feed, ← taken, ← left]
    exact ih (step state input (take blank text).1) ready

end SnakePosix.Marks
