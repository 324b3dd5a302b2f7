import Mathlib.Data.Finset.Card
import Mathlib.Data.Finset.Filter
import Mathlib.Logic.Relation

/-! Depth-first exploration of a finite region of a graph. The marks live in a
state of the caller's, which may carry more than marks (a source of randomness
that orders the neighbors, or the very map the marks are written to), and an
exploration may stop early at a goal. One lemma says what an exploration leaves
behind; exact reachability and termination follow from it. -/
namespace SnakePosix.Exploration

/-- How an exploration reads and writes its caller's state. A vertex is entered
only while it is fresh, and is marked before its neighbors are listed. -/
structure Explorer (α σ : Type) where
  fresh : σ → α → Bool
  goal : α → Bool
  mark : σ → α → σ
  next : σ → α → List α × σ

/-- Visits the vertices one after another until a visit finds something. -/
def firstHit (visit : α → σ → Option (Option α × σ)) : List α → σ → Option (Option α × σ)
  | [], state => some (none, state)
  | vertex :: rest, state => do
    let (found, state) ← visit vertex state
    if found.isSome then some (found, state) else firstHit visit rest state

/-- The exploration itself. `none` is a recursion that needs more than the given
depth. -/
def explore (explorer : Explorer α σ) : Nat → α → σ → Option (Option α × σ)
  | 0, _, _ => none
  | depth + 1, vertex, state =>
    if explorer.fresh state vertex then
      if explorer.goal vertex then some (some vertex, state)
      else
        let marked := explorer.next (explorer.mark state vertex) vertex
        firstHit (explore explorer depth) marked.1 marked.2
    else some (none, state)

/-- What the region, the adjacency and the marks have to do with each other. -/
structure Lawful (explorer : Explorer α σ) (region : Finset α) (adjacent : α → α → Prop) : Prop where
  fresh_mark : ∀ state, ∀ a ∈ region, ∀ b ∈ region,
    (explorer.fresh (explorer.mark state a) b = true ↔ explorer.fresh state b = true ∧ b ≠ a)
  fresh_next : ∀ state a b, explorer.fresh (explorer.next state a).2 b = explorer.fresh state b
  mem_next : ∀ state, ∀ a ∈ region, ∀ b, (b ∈ (explorer.next state a).1 ↔ adjacent a b)
  closed : ∀ a ∈ region, ∀ b, adjacent a b → b ∈ region

/-- A vertex of the region that an exploration may still enter. -/
def Live (explorer : Explorer α σ) (region : Finset α) (state : σ) (vertex : α) : Prop :=
  vertex ∈ region ∧ explorer.fresh state vertex = true

/-- A path whose vertices are all live. -/
def Reaches (live : α → Prop) (adjacent : α → α → Prop) (a b : α) : Prop :=
  live a ∧ Relation.ReflTransGen (fun x y => adjacent x y ∧ live y) a b

theorem reaches_self (held : live a) : Reaches live adjacent a a := ⟨held, .refl⟩

theorem reaches_step (held : live a) (edge : adjacent a b) (path : Reaches live adjacent b c) :
    Reaches live adjacent a c :=
  ⟨held, .head ⟨edge, path.1⟩ path.2⟩

theorem reaches_mono (weaker : ∀ x, first x → second x) (path : Reaches first adjacent a b) :
    Reaches second adjacent a b :=
  ⟨weaker _ path.1, Relation.ReflTransGen.mono (fun _ _ edge => ⟨edge.1, weaker _ edge.2⟩) _ _ path.2⟩

theorem reaches_live (path : Reaches live adjacent a b) : live b := by
  obtain ⟨held, steps⟩ := path
  cases steps with
  | refl => exact held
  | tail _ last => exact last.2

/-- What an exploration from the given vertices leaves behind. -/
structure Explored (explorer : Explorer α σ) (region : Finset α) (adjacent : α → α → Prop)
    (before : σ) (starts : List α) (found : Option α) (after : σ) : Prop where
  shrinks : ∀ b, Live explorer region after b → Live explorer region before b
  reached : ∀ b, Live explorer region before b → ¬ Live explorer region after b →
    ∃ a ∈ starts, Reaches (Live explorer region before) adjacent a b
  goal : ∀ b, found = some b → Live explorer region before b ∧ explorer.goal b = true
  entered : found = none → ∀ a ∈ starts, ¬ Live explorer region after a
  exhausted : found = none → ∀ b, Live explorer region before b → ¬ Live explorer region after b →
    explorer.goal b = false ∧ ∀ c, adjacent b c → ¬ Live explorer region after c

section
variable {explorer : Explorer α σ} {region : Finset α} {adjacent : α → α → Prop}

theorem live_marked (lawful : Lawful explorer region adjacent) (inside : a ∈ region) :
    Live explorer region (explorer.next (explorer.mark state a) a).2 b ↔
      Live explorer region state b ∧ b ≠ a := by
  unfold Live
  rw [lawful.fresh_next]
  constructor
  · rintro ⟨member, fresh⟩
    have split := (lawful.fresh_mark state a inside b member).mp fresh
    exact ⟨⟨member, split.1⟩, split.2⟩
  · rintro ⟨⟨member, fresh⟩, other⟩
    exact ⟨member, (lawful.fresh_mark state a inside b member).mpr ⟨fresh, other⟩⟩

private theorem explored_nothing (starts : List α) (dead : ∀ a ∈ starts, ¬ Live explorer region state a) :
    Explored explorer region adjacent state starts none state where
  shrinks := fun _ held => held
  reached := fun _ held gone => absurd held gone
  goal := fun _ impossible => nomatch impossible
  entered := fun _ => dead
  exhausted := fun _ _ held gone => absurd held gone

/-- Exploring one vertex and then the others explores them all. -/
private theorem explored_cons
    (first : Explored explorer region adjacent before [a] none middle)
    (second : Explored explorer region adjacent middle rest found after) :
    Explored explorer region adjacent before (a :: rest) found after where
  shrinks := fun b held => first.shrinks b (second.shrinks b held)
  reached := by
    intro b held gone
    by_cases between : Live explorer region middle b
    · obtain ⟨c, member, path⟩ := second.reached b between gone
      exact ⟨c, List.mem_cons_of_mem _ member, reaches_mono first.shrinks path⟩
    · obtain ⟨c, member, path⟩ := first.reached b held between
      exact ⟨c, by simp_all, path⟩
  goal := by
    intro b hit
    obtain ⟨held, met⟩ := second.goal b hit
    exact ⟨first.shrinks b held, met⟩
  entered := by
    intro miss c member held
    rcases List.mem_cons.mp member with rfl | member
    · exact first.entered rfl c (by simp) (second.shrinks c held)
    · exact second.entered miss c member held
  exhausted := by
    intro miss b held gone
    by_cases between : Live explorer region middle b
    · exact second.exhausted miss b between gone
    · obtain ⟨unmet, closed⟩ := first.exhausted rfl b held between
      exact ⟨unmet, fun c edge live => closed c edge (second.shrinks c live)⟩

private theorem firstHit_explored (visit : α → σ → Option (Option α × σ))
    (each : ∀ a ∈ region, ∀ before found after, visit a before = some (found, after) →
      Explored explorer region adjacent before [a] found after)
    (starts : List α) (inside : ∀ a ∈ starts, a ∈ region)
    (ran : firstHit visit starts before = some (found, after)) :
    Explored explorer region adjacent before starts found after := by
  induction starts generalizing before with
  | nil =>
    simp only [firstHit, Option.some.injEq, Prod.mk.injEq] at ran
    obtain ⟨rfl, rfl⟩ := ran
    exact explored_nothing [] (by simp)
  | cons a rest ih =>
    simp only [firstHit, Option.bind_eq_bind, Option.bind_eq_some_iff, Prod.exists] at ran
    obtain ⟨hit, middle, visited, ran⟩ := ran
    have first := each a (inside a (by simp)) before hit middle visited
    cases hit with
    | none =>
      simp only [Option.isSome_none, Bool.false_eq_true, ↓reduceIte] at ran
      exact explored_cons first (ih (fun b member => inside b (List.mem_cons_of_mem _ member)) ran)
    | some goal =>
      simp only [Option.isSome_some, ↓reduceIte, Option.some.injEq, Prod.mk.injEq] at ran
      obtain ⟨rfl, rfl⟩ := ran
      refine ⟨first.shrinks, ?_, first.goal, nofun, nofun⟩
      intro b held gone
      obtain ⟨c, member, path⟩ := first.reached b held gone
      exact ⟨c, by simp_all, path⟩

/-- An exploration that comes back has entered everything it could reach, or has
found a goal among it. -/
theorem explore_explored (lawful : Lawful explorer region adjacent) (inside : a ∈ region)
    (ran : explore explorer depth a before = some (found, after)) :
    Explored explorer region adjacent before [a] found after := by
  induction depth generalizing a before found after with
  | zero => simp [explore] at ran
  | succ depth ih =>
    unfold explore at ran
    split at ran
    · rename_i fresh
      have live : Live explorer region before a := ⟨inside, fresh⟩
      split at ran
      · rename_i met
        simp only [Option.some.injEq, Prod.mk.injEq] at ran
        obtain ⟨rfl, rfl⟩ := ran
        refine ⟨fun _ held => held, fun _ held gone => absurd held gone, ?_, nofun, nofun⟩
        rintro b ⟨⟩
        exact ⟨live, met⟩
      · rename_i unmet
        have marked : ∀ b, Live explorer region (explorer.next (explorer.mark before a) a).2 b ↔
            Live explorer region before b ∧ b ≠ a := fun b => live_marked lawful inside
        have below := firstHit_explored _ (fun b member _ _ _ => ih member) _
          (fun b member => lawful.closed a inside b ((lawful.mem_next _ a inside b).mp member)) ran
        have goneHere : ¬ Live explorer region after a :=
          fun held => ((marked a).mp (below.shrinks a held)).2 rfl
        refine ⟨fun b held => ((marked b).mp (below.shrinks b held)).1, ?_, ?_, ?_, ?_⟩
        · intro b held gone
          by_cases same : b = a
          · rw [same]
            exact ⟨a, by simp, reaches_self live⟩
          · obtain ⟨c, member, path⟩ := below.reached b ((marked b).mpr ⟨held, same⟩) gone
            exact ⟨a, by simp, reaches_step live ((lawful.mem_next _ a inside c).mp member)
              (reaches_mono (fun x held => ((marked x).mp held).1) path)⟩
        · intro b hit
          obtain ⟨held, met⟩ := below.goal b hit
          exact ⟨((marked b).mp held).1, met⟩
        · intro _ b member
          rw [List.mem_singleton.mp member]
          exact goneHere
        · intro miss b held gone
          by_cases same : b = a
          · subst same
            exact ⟨by simpa using unmet,
              fun c edge => below.entered miss c ((lawful.mem_next _ b inside c).mpr edge)⟩
          · exact below.exhausted miss b ((marked b).mpr ⟨held, same⟩) gone
    · rename_i stale
      simp only [Option.some.injEq, Prod.mk.injEq] at ran
      obtain ⟨rfl, rfl⟩ := ran
      exact explored_nothing [a] (by
        intro b member held
        rw [List.mem_singleton.mp member] at held
        exact stale held.2)

/-- An exploration that finds no goal takes exactly the reachable vertices. -/
theorem explore_exact (lawful : Lawful explorer region adjacent) (inside : a ∈ region)
    (ran : explore explorer depth a before = some (none, after)) (b : α) :
    Live explorer region after b ↔ Live explorer region before b ∧
      ¬ Reaches (Live explorer region before) adjacent a b := by
  have explored := explore_explored lawful inside ran
  constructor
  · intro held
    refine ⟨explored.shrinks b held, fun path => ?_⟩
    have along : ∀ c, Relation.ReflTransGen (fun x y => adjacent x y ∧ Live explorer region before y) a c →
        Live explorer region before c ∧ ¬ Live explorer region after c := by
      intro c steps
      induction steps with
      | refl => exact ⟨path.1, explored.entered rfl a (by simp)⟩
      | tail _ edge ih => exact ⟨edge.2, (explored.exhausted rfl _ ih.1 ih.2).2 _ edge.1⟩
    exact (along b path.2).2 held
  · rintro ⟨held, apart⟩
    by_contra gone
    obtain ⟨c, member, path⟩ := explored.reached b held gone
    rw [List.mem_singleton.mp member] at path
    exact apart path

/-- An exploration that finds no goal has passed none on any path from its start. -/
theorem explore_misses (lawful : Lawful explorer region adjacent) (inside : a ∈ region)
    (ran : explore explorer depth a before = some (none, after))
    (path : Reaches (Live explorer region before) adjacent a b) : explorer.goal b = false := by
  have gone : ¬ Live explorer region after b := fun held =>
    ((explore_exact lawful inside ran b).mp held).2 path
  exact ((explore_explored lawful inside ran).exhausted rfl b (reaches_live path) gone).1

/-- Visits that keep two states related and find the same keep them related one
after another. -/
theorem firstHit_related (related : σ → τ → Prop) {first : α → σ → Option (Option α × σ)}
    {second : α → τ → Option (Option α × τ)} (starts : List α)
    (each : ∀ a ∈ starts, ∀ state shadow, related state shadow → ∀ found after,
      first a state = some (found, after) →
        ∃ shadowAfter, second a shadow = some (found, shadowAfter) ∧ related after shadowAfter)
    (held : related state shadow) (ran : firstHit first starts state = some (found, after)) :
    ∃ shadowAfter, firstHit second starts shadow = some (found, shadowAfter) ∧ related after shadowAfter := by
  induction starts generalizing state shadow with
  | nil =>
    simp only [firstHit, Option.some.injEq, Prod.mk.injEq] at ran
    obtain ⟨rfl, rfl⟩ := ran
    exact ⟨shadow, rfl, held⟩
  | cons a rest ih =>
    simp only [firstHit, Option.bind_eq_bind, Option.bind_eq_some_iff, Prod.exists] at ran
    obtain ⟨hit, middle, visited, ran⟩ := ran
    obtain ⟨shadowMiddle, shadowed, between⟩ := each a List.mem_cons_self state shadow held hit middle visited
    simp only [firstHit, shadowed, Option.bind_eq_bind, Option.bind_some]
    split at ran
    · rename_i stops
      simp only [Option.some.injEq, Prod.mk.injEq] at ran
      obtain ⟨rfl, rfl⟩ := ran
      exact ⟨shadowMiddle, if_pos stops, between⟩
    · rename_i goes
      rw [if_neg goes]
      exact ih (fun b member => each b (List.mem_cons_of_mem _ member)) between ran

/-- Where nothing is a goal, visiting the vertices is running one visit after
another. -/
theorem firstHit_goalless (visit : α → σ → Option (Option α × σ))
    (misses : ∀ a before found after, visit a before = some (found, after) → found = none) :
    (firstHit visit (a :: rest) state).map Prod.snd =
      ((visit a state).map Prod.snd).bind fun next => (firstHit visit rest next).map Prod.snd := by
  simp only [firstHit, Option.bind_eq_bind]
  cases visited : visit a state with
  | none => rfl
  | some result =>
    obtain ⟨found, next⟩ := result
    cases misses a state found next visited
    rfl

theorem explore_goalless (goalless : ∀ a, explorer.goal a = false)
    (ran : explore explorer depth a before = some (found, after)) : found = none := by
  have hits : ∀ (visit : α → σ → Option (Option α × σ)),
      (∀ a before found after, visit a before = some (found, after) → found = none) →
      ∀ starts before found after, firstHit visit starts before = some (found, after) → found = none := by
    intro visit misses starts
    induction starts with
    | nil =>
      intro before found after ran
      simp only [firstHit, Option.some.injEq, Prod.mk.injEq] at ran
      exact ran.1.symm
    | cons a rest ih =>
      intro before found after ran
      simp only [firstHit, Option.bind_eq_bind, Option.bind_eq_some_iff, Prod.exists] at ran
      obtain ⟨hit, middle, visited, ran⟩ := ran
      cases misses a before hit middle visited
      exact ih middle found after (by simpa using ran)
  induction depth generalizing a before found after with
  | zero => simp [explore] at ran
  | succ depth ih =>
    unfold explore at ran
    split at ran
    · rw [goalless] at ran
      exact hits _ (fun _ _ _ _ visited => ih visited) _ _ _ _ ran
    · simp only [Option.some.injEq, Prod.mk.injEq] at ran
      exact ran.1.symm

/-! ## Termination -/

/-- How much of the region is still fresh: every entered vertex lowers it. -/
def freshCount (explorer : Explorer α σ) (region : Finset α) (state : σ) : Nat :=
  (region.filter fun a => explorer.fresh state a = true).card

theorem mem_fresh_filter :
    a ∈ region.filter (fun a => explorer.fresh state a = true) ↔ Live explorer region state a :=
  Finset.mem_filter

private theorem freshCount_shrinks (shrinks : ∀ b, Live explorer region after b → Live explorer region before b) :
    freshCount explorer region after ≤ freshCount explorer region before := by
  apply Finset.card_le_card
  intro b member
  exact mem_fresh_filter.mpr (shrinks b (mem_fresh_filter.mp member))

private theorem freshCount_marked (lawful : Lawful explorer region adjacent)
    (live : Live explorer region state a) :
    freshCount explorer region (explorer.next (explorer.mark state a) a).2 <
      freshCount explorer region state := by
  apply Finset.card_lt_card
  rw [Finset.ssubset_iff_of_subset]
  · refine ⟨a, mem_fresh_filter.mpr live, fun member => ?_⟩
    exact ((live_marked lawful live.1).mp (mem_fresh_filter.mp member)).2 rfl
  · intro b member
    exact mem_fresh_filter.mpr ((live_marked lawful live.1).mp (mem_fresh_filter.mp member)).1

private theorem firstHit_terminates (lawful : Lawful explorer region adjacent)
    (each : ∀ a ∈ region, ∀ state, freshCount explorer region state < depth →
      (explore explorer depth a state).isSome)
    (starts : List α) (inside : ∀ a ∈ starts, a ∈ region)
    (enough : freshCount explorer region state < depth) :
    (firstHit (explore explorer depth) starts state).isSome := by
  induction starts generalizing state with
  | nil => simp [firstHit]
  | cons a rest ih =>
    obtain ⟨⟨hit, middle⟩, visited⟩ := Option.isSome_iff_exists.mp
      (each a (inside a (by simp)) state enough)
    have smaller := freshCount_shrinks (explore_explored lawful (inside a (by simp)) visited).shrinks
    simp only [firstHit, visited, Option.bind_eq_bind, Option.bind_some]
    split
    · rfl
    · exact ih (fun b member => inside b (List.mem_cons_of_mem _ member)) (by omega)

/-- The recursion is never deeper than the number of fresh vertices, plus the
call that finds nothing fresh. -/
theorem explore_terminates (lawful : Lawful explorer region adjacent) (inside : a ∈ region)
    (enough : freshCount explorer region state < depth) :
    (explore explorer depth a state).isSome := by
  induction depth generalizing a state with
  | zero => omega
  | succ depth ih =>
    unfold explore
    split
    · rename_i fresh
      split
      · rfl
      · have live : Live explorer region state a := ⟨inside, fresh⟩
        have smaller := freshCount_marked lawful live
        exact firstHit_terminates lawful (fun b member _ => ih member) _
          (fun b member => lawful.closed a inside b ((lawful.mem_next _ a inside b).mp member)) (by omega)
    · rfl

/-! ## What the marks preserve -/

private theorem firstHit_preserves (keeps : σ → Prop) (visit : α → σ → Option (Option α × σ))
    (each : ∀ a ∈ region, ∀ before found after, keeps before → visit a before = some (found, after) →
      keeps after)
    (starts : List α) (inside : ∀ a ∈ starts, a ∈ region) (held : keeps before)
    (ran : firstHit visit starts before = some (found, after)) : keeps after := by
  induction starts generalizing before with
  | nil =>
    simp only [firstHit, Option.some.injEq, Prod.mk.injEq] at ran
    exact ran.2 ▸ held
  | cons a rest ih =>
    simp only [firstHit, Option.bind_eq_bind, Option.bind_eq_some_iff, Prod.exists] at ran
    obtain ⟨hit, middle, visited, ran⟩ := ran
    have kept := each a (inside a (by simp)) before hit middle held visited
    split at ran
    · simp only [Option.some.injEq, Prod.mk.injEq] at ran
      exact ran.2 ▸ kept
    · exact ih (fun b member => inside b (List.mem_cons_of_mem _ member)) kept ran

/-- Whatever survives marking a fresh vertex survives an exploration. -/
theorem explore_preserves (lawful : Lawful explorer region adjacent) (keeps : σ → Prop)
    (marks : ∀ state, ∀ a ∈ region, keeps state → explorer.fresh state a = true →
      keeps (explorer.next (explorer.mark state a) a).2)
    (inside : a ∈ region) (held : keeps before)
    (ran : explore explorer depth a before = some (found, after)) : keeps after := by
  induction depth generalizing a before found after with
  | zero => simp [explore] at ran
  | succ depth ih =>
    unfold explore at ran
    split at ran
    · rename_i fresh
      split at ran
      · simp only [Option.some.injEq, Prod.mk.injEq] at ran
        exact ran.2 ▸ held
      · exact firstHit_preserves keeps _ (fun b member _ _ _ kept below => ih member kept below) _
          (fun b member => lawful.closed a inside b ((lawful.mem_next _ a inside b).mp member))
          (marks before a inside held fresh) ran
    · simp only [Option.some.injEq, Prod.mk.injEq] at ran
      exact ran.2 ▸ held

end
end SnakePosix.Exploration
