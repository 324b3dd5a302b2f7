import Mathlib.Data.List.Chain
import Mathlib.Data.List.Nodup
import Mathlib.Data.List.Sort
import Mathlib.Logic.Relation

/-! Trails: paths of distinct vertices that move by gaining a vertex in front and,
unless they grow, giving up the one at the back. -/
namespace SnakePosix.Trails

/-- A path of at least two distinct vertices, written from its tail to its head. -/
structure Trail (adjacent : α → α → Prop) where
  tail : α
  rest : List α
  occupied : rest ≠ []
  nodup : (tail :: rest).Nodup
  linked : (tail :: rest).IsChain adjacent

namespace Trail
variable {adjacent : α → α → Prop}

/-- All vertices, from the tail to the head. -/
def cells (trail : Trail adjacent) : List α := trail.tail :: trail.rest

def head (trail : Trail adjacent) : α := trail.rest.getLast trail.occupied

/-- The vertex that becomes the tail when the trail moves. -/
def second (trail : Trail adjacent) : α := trail.rest.head trail.occupied

variable (trail : Trail adjacent)

@[simp] theorem mem_cells : c ∈ trail.cells ↔ c = trail.tail ∨ c ∈ trail.rest := List.mem_cons

theorem tail_not_mem : trail.tail ∉ trail.rest := (List.nodup_cons.mp trail.nodup).1

theorem rest_nodup : trail.rest.Nodup := (List.nodup_cons.mp trail.nodup).2

theorem rest_linked : trail.rest.IsChain adjacent := trail.linked.tail

theorem head_mem : trail.head ∈ trail.rest := List.getLast_mem _

theorem second_mem : trail.second ∈ trail.rest := List.head_mem _

theorem rest_eq : trail.rest = trail.second :: trail.rest.tail :=
  (List.cons_head_tail trail.occupied).symm

theorem tail_second : adjacent trail.tail trail.second := by
  have linked := trail.linked
  rw [trail.rest_eq, List.isChain_cons_cons] at linked
  exact linked.1

theorem two_le_length : 2 ≤ trail.cells.length := by
  have positive := List.length_pos_iff.mpr trail.occupied
  simp only [cells, List.length_cons]
  omega

theorem getLast?_rest : trail.rest.getLast? = some trail.head := List.getLast?_eq_some_getLast _

theorem getLast?_cells : trail.cells.getLast? = some trail.head := by
  rw [cells, List.getLast?_cons, trail.getLast?_rest]
  rfl

/-- Appending one more linked vertex to a linked list. -/
theorem isChain_concat {relation : α → α → Prop} {vertices : List α} (linked : vertices.IsChain relation)
    (edge : ∀ last ∈ vertices.getLast?, relation last vertex) :
    (vertices ++ [vertex]).IsChain relation := by
  rw [List.isChain_append]
  exact ⟨linked, List.isChain_singleton _, fun last atEnd _ atStart => by
    cases atStart
    exact edge last atEnd⟩

/-- The trail moves: a new head, and the second vertex becomes the tail. The new
head may be the old tail, which is given up in the same move. -/
def advance (next : α) (edge : adjacent trail.head next) (free : next ∉ trail.rest) :
    Trail adjacent where
  tail := trail.second
  rest := trail.rest.tail ++ [next]
  occupied := by simp
  nodup := by
    rw [← List.cons_append, ← trail.rest_eq]
    exact List.nodup_append.mpr ⟨trail.rest_nodup, List.nodup_singleton _, fun a member b single => by
      rw [List.mem_singleton.mp single]
      exact fun same => free (same ▸ member)⟩
  linked := by
    rw [← List.cons_append, ← trail.rest_eq]
    refine isChain_concat trail.rest_linked fun last atEnd => ?_
    rw [trail.getLast?_rest] at atEnd
    cases atEnd
    exact edge

/-- The trail grows: a new head, the tail stays. -/
def grow (next : α) (edge : adjacent trail.head next) (free : next ∉ trail.cells) : Trail adjacent where
  tail := trail.tail
  rest := trail.rest ++ [next]
  occupied := by simp
  nodup := by
    rw [← List.cons_append]
    exact List.nodup_append.mpr ⟨trail.nodup, List.nodup_singleton _, fun a member b single => by
      rw [List.mem_singleton.mp single]
      exact fun same => free (same ▸ member)⟩
  linked := by
    rw [← List.cons_append]
    refine isChain_concat trail.linked fun last atEnd => ?_
    rw [show (trail.tail :: trail.rest).getLast? = some trail.head from trail.getLast?_cells] at atEnd
    cases atEnd
    exact edge

/-- The shortest trail. -/
def start (tail head : α) (edge : adjacent tail head) (distinct : tail ≠ head) : Trail adjacent where
  tail := tail
  rest := [head]
  occupied := by simp
  nodup := by simp [distinct]
  linked := by simp [edge]

@[simp] theorem advance_cells (edge : adjacent trail.head next) (free : next ∉ trail.rest) :
    (trail.advance next edge free).cells = trail.rest ++ [next] := by
  simp only [cells, advance]
  rw [← List.cons_append, ← trail.rest_eq]

@[simp] theorem advance_tail (edge : adjacent trail.head next) (free : next ∉ trail.rest) :
    (trail.advance next edge free).tail = trail.second := rfl

@[simp] theorem advance_head (edge : adjacent trail.head next) (free : next ∉ trail.rest) :
    (trail.advance next edge free).head = next := by
  simp [head, advance]

@[simp] theorem grow_cells (edge : adjacent trail.head next) (free : next ∉ trail.cells) :
    (trail.grow next edge free).cells = trail.cells ++ [next] := rfl

@[simp] theorem grow_tail (edge : adjacent trail.head next) (free : next ∉ trail.cells) :
    (trail.grow next edge free).tail = trail.tail := rfl

@[simp] theorem grow_head (edge : adjacent trail.head next) (free : next ∉ trail.cells) :
    (trail.grow next edge free).head = next := by
  simp [head, grow]

end Trail

/-- The end of a linked list reaches each of its vertices backwards, without
leaving it. -/
theorem reaches_back {adjacent : α → α → Prop}
    (symmetric : ∀ a ∈ vertices, ∀ b ∈ vertices, adjacent a b → adjacent b a)
    (linked : vertices.IsChain adjacent) (occupied : vertices ≠ []) (member : c ∈ vertices) :
    Relation.ReflTransGen (fun x y => adjacent x y ∧ y ∈ vertices) (vertices.getLast occupied) c := by
  induction vertices generalizing c with
  | nil => exact absurd rfl occupied
  | cons first rest ih =>
    cases rest with
    | nil =>
      rw [List.mem_singleton.mp member]
      exact .refl
    | cons next rest =>
      obtain ⟨edge, linked⟩ := List.isChain_cons_cons.mp linked
      rw [List.getLast_cons (by simp)]
      have widen : ∀ c, c ∈ next :: rest → Relation.ReflTransGen
          (fun x y => adjacent x y ∧ y ∈ first :: next :: rest) ((next :: rest).getLast (by simp)) c := by
        intro c member
        have below := ih
          (fun a ha b hb => symmetric a (List.mem_cons_of_mem _ ha) b (List.mem_cons_of_mem _ hb))
          linked (by simp) member
        exact Relation.ReflTransGen.mono
          (fun _ _ step => ⟨step.1, List.mem_cons_of_mem _ step.2⟩) _ _ below
      rcases List.mem_cons.mp member with rfl | member
      · exact .tail (widen next (by simp)) ⟨symmetric _ (by simp) _ (by simp) edge, by simp⟩
      · exact widen c member

/-! ## Consecutive numbers along a list -/

/-- The vertices are numbered upwards by one, from some number on. -/
def Numbered (number : α → Nat) (vertices : List α) : Prop :=
  ∃ base, vertices.map number = List.range' base vertices.length

theorem numbered_congr {number other : α → Nat} (same : ∀ a ∈ vertices, other a = number a)
    (numbered : Numbered number vertices) : Numbered other vertices := by
  obtain ⟨base, numbers⟩ := numbered
  exact ⟨base, (List.map_congr_left same).trans numbers⟩

theorem numbered_tail {number : α → Nat} (numbered : Numbered number (first :: rest)) :
    Numbered number rest := by
  obtain ⟨base, numbers⟩ := numbered
  rw [List.map_cons, List.length_cons, List.range'_succ] at numbers
  exact ⟨base + 1, (List.cons.inj numbers).2⟩

/-- One more vertex with the number after the last one's. -/
theorem numbered_concat {number : α → Nat} (numbered : Numbered number vertices)
    (following : ∀ last ∈ vertices.getLast?, number vertex = number last + 1) :
    Numbered number (vertices ++ [vertex]) := by
  obtain ⟨base, numbers⟩ := numbered
  cases atEnd : vertices.getLast? with
  | none =>
    rw [List.getLast?_eq_none_iff.mp atEnd]
    exact ⟨number vertex, rfl⟩
  | some last =>
    have final : number last = base + vertices.length - 1 := by
      have mapped := congrArg List.getLast? numbers
      rw [List.getLast?_map, atEnd, List.getLast?_range'] at mapped
      split at mapped
      · cases mapped
      · simpa using mapped
    have occupied : 0 < vertices.length := List.length_pos_of_mem (List.mem_of_getLast? atEnd)
    refine ⟨base, ?_⟩
    rw [List.map_append, numbers, List.length_append, List.length_singleton, ← List.range'_append]
    simp only [List.map_cons, List.map_nil, List.range'_one, Nat.one_mul, following last atEnd, final]
    congr 2
    omega

/-- No vertex is numbered below the first, and none but the first as low. -/
theorem first_of_lowest {number : α → Nat} (numbered : Numbered number (first :: rest))
    (member : a ∈ first :: rest) (lowest : number a ≤ number first) : a = first := by
  obtain ⟨base, numbers⟩ := numbered
  rw [List.map_cons, List.length_cons, List.range'_succ] at numbers
  obtain ⟨atFirst, atRest⟩ := List.cons.inj numbers
  rcases List.mem_cons.mp member with same | later
  · exact same
  · have higher : number a ∈ List.range' (base + 1) rest.length := atRest ▸ List.mem_map_of_mem later
    have := List.mem_range'_1.mp higher
    omega

theorem numbered_getElem {number : α → Nat} (numbered : Numbered number (first :: rest))
    (position : (first :: rest)[i]? = some a) : number a = number first + i := by
  obtain ⟨base, numbers⟩ := numbered
  have atFirst := congrArg (·[0]?) numbers
  have here := congrArg (·[i]?) numbers
  obtain ⟨within, -⟩ := List.getElem?_eq_some_iff.mp position
  simp only [List.getElem?_map, position, List.getElem?_range' within] at here
  simp only [List.map_cons, List.getElem?_cons_zero, List.length_cons, List.range'_succ] at atFirst
  simp only [Option.map_some, Option.some.injEq] at here atFirst
  omega

theorem numbered_of_getElem {number : α → Nat} {base : Nat} {vertices : List α}
    (numbers : ∀ i a, vertices[i]? = some a → number a = base + i) : Numbered number vertices := by
  refine ⟨base, List.ext_getElem? fun i => ?_⟩
  rw [List.getElem?_map]
  cases position : vertices[i]? with
  | none =>
    have beyond := List.getElem?_eq_none_iff.mp position
    rw [Option.map_none, List.getElem?_eq_none_iff.mpr (by simpa using beyond)]
  | some a =>
    obtain ⟨within, -⟩ := List.getElem?_eq_some_iff.mp position
    rw [Option.map_some, numbers i a position, List.getElem?_range' within, Nat.one_mul]

/-- The numbers tell the order: whoever knows the vertices finds it by sorting. -/
theorem insertionSort_numbered {number : α → Nat} {list vertices : List α} (numbered : Numbered number vertices)
    (nodup : list.Nodup) (same : ∀ a, a ∈ list ↔ a ∈ vertices) :
    list.insertionSort (fun a b => number a ≤ number b) = vertices := by
  obtain ⟨base, numbers⟩ := numbered
  have total : Std.Total fun a b => number a ≤ number b := ⟨fun a b => Nat.le_total (number a) (number b)⟩
  have transitive : IsTrans α fun a b => number a ≤ number b := ⟨fun _ _ _ => Nat.le_trans⟩
  have rising : vertices.Pairwise fun a b => number a < number b := by
    rw [← List.pairwise_map (f := number) (R := (· < ·)), numbers]
    exact List.pairwise_lt_range'
  have distinct : (vertices.map number).Nodup := by
    rw [numbers]
    exact List.nodup_range'
  have perm := List.perm_insertionSort (fun a b => number a ≤ number b) list
  refine List.Perm.eq_of_pairwise (fun a b memberA memberB low high => ?_)
    (List.pairwise_insertionSort _ list) (rising.imp Nat.le_of_lt)
    (perm.trans ((List.perm_ext_iff_of_nodup nodup distinct.of_map).mpr same))
  exact List.inj_on_of_nodup_map distinct ((same a).mp (perm.mem_iff.mp memberA)) memberB (Nat.le_antisymm low high)

end SnakePosix.Trails
