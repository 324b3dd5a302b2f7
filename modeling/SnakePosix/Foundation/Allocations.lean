import Mathlib.Data.Finset.Basic

/-! Computations that allocate blocks of memory, use them and free them, and what they
own. A specification names the blocks that a computation is given and those it ends
with; whatever else is allocated stays as it is. -/
namespace SnakePosix.Allocations

/-- Why a computation does not go on. -/
inductive Fault (α ε : Type) where
  /-- The pointer leads to no allocated block. -/
  | dangling (pointer : Option α)
  | failure (reason : ε)
  deriving DecidableEq, Repr

/-- A computation over the blocks that are allocated. -/
abbrev Heaped (α ε β : Type) := StateT (Finset α) (Except (Fault α ε)) β

/-- Where the next block is found. -/
structure Allocator (α : Type) where
  find : Finset α → α
  fresh : ∀ blocks, find blocks ∉ blocks

variable {α ε β γ : Type} [DecidableEq α]

def malloc (allocator : Allocator α) : Heaped α ε α := fun blocks =>
  .ok (allocator.find blocks, insert (allocator.find blocks) blocks)

/-- A read or a write; `none` is a pointer without a value. -/
def access (pointer : Option α) : Heaped α ε Unit := fun blocks =>
  match pointer with
  | none => .error (.dangling none)
  | some block => if block ∈ blocks then .ok ((), blocks) else .error (.dangling (some block))

def free (pointer : Option α) : Heaped α ε Unit := fun blocks =>
  match pointer with
  | none => .error (.dangling none)
  | some block => if block ∈ blocks then .ok ((), blocks.erase block) else .error (.dangling (some block))

def fail (reason : ε) : Heaped α ε β := fun _ => .error (.failure reason)

/-! ## What is owned -/

/-- How a computation may come out that leaves these other blocks alone. -/
def Outcome (ends : β → Multiset α → Prop) (fails : ε → Prop) (others : Multiset α) :
    Except (Fault α ε) (β × Finset α) → Prop
  | .ok (result, after) => ∃ owned, ends result owned ∧ after.val = owned + others
  | .error (.failure reason) => fails reason
  | .error (.dangling _) => False

/-- Given the blocks of `needs` among others, the computation follows no dangling
pointer, leaves the others alone, and ends with a result and the blocks it then owns, or
fails for a reason that is allowed. -/
def Owns (needs : Multiset α) (program : Heaped α ε β) (ends : β → Multiset α → Prop) (fails : ε → Prop) : Prop :=
  ∀ (others : Multiset α) (blocks : Finset α), blocks.val = needs + others →
    Outcome ends fails others (program blocks)

variable {needs rest : Multiset α} {program : Heaped α ε β} {next : β → Heaped α ε γ} {ends middle : β → Multiset α → Prop}
  {last : γ → Multiset α → Prop} {fails : ε → Prop} {block : α}

omit [DecidableEq α] in
theorem owns_pure {result : β} (ended : ends result needs) : Owns needs (pure result : Heaped α ε β) ends fails :=
  fun _ _ same => ⟨needs, ended, same⟩

omit [DecidableEq α] in
theorem owns_fail {reason : ε} (allowed : fails reason) : Owns needs (fail reason : Heaped α ε β) ends fails :=
  fun _ _ _ => allowed

omit [DecidableEq α] in
/-- One computation after another. -/
theorem owns_bind (first : Owns needs program middle fails)
    (second : ∀ result owned, middle result owned → Owns owned (next result) last fails) :
    Owns needs (program >>= next) last fails := by
  intro others blocks same
  have ran := first others blocks same
  change Outcome last fails others ((program blocks).bind fun (result, after) => next result after)
  cases reached : program blocks with
  | error fault =>
    rw [reached] at ran
    cases fault <;> exact ran
  | ok pair =>
    rw [reached] at ran
    obtain ⟨owned, ended, after⟩ := ran
    exact second pair.1 owned ended others pair.2 after

omit [DecidableEq α] in
/-- What holds of a computation holds of it beside more blocks. -/
theorem owns_frame (owns : Owns needs program ends fails) (more : Multiset α) :
    Owns (needs + more) program (fun result owned => ∃ own, ends result own ∧ owned = own + more) fails := by
  intro others blocks same
  have ran := owns (more + others) blocks (by rw [same, Multiset.add_assoc])
  cases reached : program blocks with
  | error fault =>
    rw [reached] at ran
    cases fault <;> exact ran
  | ok pair =>
    rw [reached] at ran
    obtain ⟨owned, ended, after⟩ := ran
    exact ⟨owned + more, ⟨owned, ended, rfl⟩, by rw [after, Multiset.add_assoc]⟩

omit [DecidableEq α] in
theorem owns_mono {stronger : β → Multiset α → Prop} (owns : Owns needs program stronger fails)
    (weaker : ∀ result owned, stronger result owned → ends result owned) : Owns needs program ends fails := by
  intro others blocks same
  have ran := owns others blocks same
  cases reached : program blocks with
  | error fault =>
    rw [reached] at ran
    cases fault <;> exact ran
  | ok pair =>
    rw [reached] at ran
    obtain ⟨owned, ended, after⟩ := ran
    exact ⟨owned, weaker _ _ ended, after⟩

/-! ## One step and what comes after it -/

omit [DecidableEq α] in
/-- A call of a computation that is given some of the blocks. -/
theorem owns_call {given : Multiset α} (owns : Owns given program ends fails) (split : needs = given + rest)
    (later : ∀ result own, ends result own → Owns (own + rest) (next result) last fails) :
    Owns needs (program >>= next) last fails := by
  subst split
  refine owns_bind (owns_frame owns rest) ?_
  rintro result owned ⟨own, ended, rfl⟩
  exact later result own ended

theorem owns_malloced (allocator : Allocator α) :
    Owns needs (malloc allocator) (fun block owned => owned = block ::ₘ needs) fails := by
  intro others blocks same
  refine ⟨_, rfl, ?_⟩
  rw [Finset.insert_val_of_notMem (allocator.fresh blocks), same, Multiset.cons_add]

theorem owns_malloc (allocator : Allocator α) {next : α → Heaped α ε γ}
    (later : ∀ block, Owns (block ::ₘ needs) (next block) last fails) :
    Owns needs (malloc allocator >>= next) last fails :=
  owns_bind (owns_malloced allocator) fun block _ same => same ▸ later block

theorem owns_accessed (member : block ∈ needs) :
    Owns needs (access (some block)) (fun _ owned => owned = needs) fails := by
  intro others blocks same
  have allocated : block ∈ blocks := by
    rw [← Finset.mem_val, same]
    exact Multiset.mem_add.mpr (Or.inl member)
  simp only [access, if_pos allocated]
  exact ⟨_, rfl, same⟩

theorem owns_access (member : block ∈ needs) {next : Unit → Heaped α ε γ} (later : Owns needs (next ()) last fails) :
    Owns needs (access (some block) >>= next) last fails :=
  owns_bind (owns_accessed member) fun _ _ same => same ▸ later

theorem owns_freed (owned : needs = block ::ₘ rest) :
    Owns needs (free (some block)) (fun _ owned => owned = rest) fails := by
  subst owned
  intro others blocks same
  have allocated : block ∈ blocks := by
    rw [← Finset.mem_val, same, Multiset.cons_add]
    exact Multiset.mem_cons_self _ _
  simp only [free, if_pos allocated]
  refine ⟨_, rfl, ?_⟩
  rw [Finset.erase_val, same, Multiset.cons_add, Multiset.erase_cons_head]

theorem owns_free (owned : needs = block ::ₘ rest) {next : Unit → Heaped α ε γ}
    (later : Owns rest (next ()) last fails) : Owns needs (free (some block) >>= next) last fails :=
  owns_bind (owns_freed owned) fun _ _ same => same ▸ later

omit [DecidableEq α] in
/-- A loop that gives back in each round what it takes. -/
theorem owns_each {ι : Type} {body : ι → Heaped α ε Unit} (inputs : List ι)
    (each : ∀ input ∈ inputs, Owns needs (body input) (fun _ owned => owned = needs) fails) :
    Owns needs (inputs.forM body) (fun _ owned => owned = needs) fails := by
  induction inputs with
  | nil => exact owns_pure rfl
  | cons input inputs ih =>
    refine owns_bind (each input List.mem_cons_self) fun _ owned same => ?_
    rw [same]
    exact ih fun other member => each other (List.mem_cons_of_mem _ member)

/-! ## Whole computations -/

omit [DecidableEq α] in
/-- A computation that is given nothing beside what is allocated. -/
theorem owns_ends (owns : Owns 0 program ends fails) (blocks : Finset α) :
    (∃ result after owned, program blocks = .ok (result, after) ∧ ends result owned ∧
        after.val = owned + blocks.val) ∨
      ∃ reason, fails reason ∧ program blocks = .error (.failure reason) := by
  have ran := owns blocks.val blocks (Multiset.zero_add _).symm
  cases reached : program blocks with
  | error fault =>
    rw [reached] at ran
    cases fault with
    | dangling => exact ran.elim
    | failure reason => exact Or.inr ⟨reason, ran, rfl⟩
  | ok pair =>
    rw [reached] at ran
    obtain ⟨owned, ended, after⟩ := ran
    exact Or.inl ⟨pair.1, pair.2, owned, rfl, ended, after⟩

omit [DecidableEq α] in
/-- One that gives back all it takes. -/
theorem owns_returns (owns : Owns 0 program (fun _ owned => owned = 0) fails) (blocks : Finset α) :
    (∃ result, program blocks = .ok (result, blocks)) ∨
      ∃ reason, fails reason ∧ program blocks = .error (.failure reason) := by
  apply (owns_ends owns blocks).imp_left
  rintro ⟨result, after, _, ran, rfl, same⟩
  rw [Multiset.zero_add] at same
  exact ⟨result, by rw [ran, Finset.val_inj.mp same]⟩

end SnakePosix.Allocations
