import Mathlib.Data.List.Count
import Mathlib.Data.Nat.Find
import Mathlib.Logic.Function.Basic

/-! Tables with linear probing: an entry stands in the first free slot from the home of
its key on, along the cycle of the slots. A table that is filled in this way stands for
a dictionary, and while a slot is free a key is found within one round. -/
namespace SnakePosix.Probing

variable {κ ε : Type} {found : ε → Bool} {slots : List (Option ε)} {start distance fuel : Nat}

/-- The first slot that is free or has what is sought; `none` if the slots are left, or
the rounds are used up. -/
def probe (found : ε → Bool) (slots : List (Option ε)) : Nat → Nat → Option Nat
  | 0, _ => none
  | fuel + 1, index =>
    match slots[index]? with
    | none => none
    | some none => some index
    | some (some entry) => if found entry then some index else probe found slots fuel ((index + 1) % slots.length)

/-- The slot at a distance along the cycle. -/
def slotAt (slots : List (Option ε)) (start distance : Nat) : Option (Option ε) :=
  slots[(start + distance) % slots.length]?

/-- A probe from the start ends at this distance. -/
structure Stops (found : ε → Bool) (slots : List (Option ε)) (start distance : Nat) : Prop where
  passed : ∀ nearer < distance, ∃ entry, slotAt slots start nearer = some (some entry) ∧ found entry = false
  here : slotAt slots start distance = some none ∨
    ∃ entry, slotAt slots start distance = some (some entry) ∧ found entry = true

theorem slotAt_succ : slotAt slots start (distance + 1) = slotAt slots (start + 1) distance := by
  unfold slotAt
  rw [Nat.add_right_comm, Nat.add_assoc start]

theorem probe_stops (stops : Stops found slots start distance) (enough : distance < fuel) :
    probe found slots fuel (start % slots.length) = some ((start + distance) % slots.length) := by
  induction distance generalizing start fuel with
  | zero =>
    obtain ⟨fuel, rfl⟩ := Nat.exists_eq_add_of_lt enough
    rcases stops.here with free | ⟨entry, taken, same⟩
    · have free : slots[start % slots.length]? = some none := free
      simp [probe, free]
    · have taken : slots[start % slots.length]? = some (some entry) := taken
      simp [probe, taken, same]
  | succ distance ih =>
    obtain ⟨entry, taken, other⟩ := stops.passed 0 (Nat.succ_pos _)
    have taken : slots[start % slots.length]? = some (some entry) := taken
    have later : Stops found slots (start + 1) distance :=
      { passed := fun nearer near => by
          rw [← slotAt_succ]
          exact stops.passed _ (Nat.succ_lt_succ near)
        here := by
          rw [← slotAt_succ]
          exact stops.here }
    cases fuel with
    | zero => exact absurd enough (Nat.not_lt_zero _)
    | succ fuel =>
      have ran := ih later (Nat.lt_of_succ_lt_succ enough)
      rw [Nat.add_right_comm] at ran
      simp only [probe, taken, other, Bool.false_eq_true, ↓reduceIte, Nat.mod_add_mod]
      exact ran

theorem slotAt_some (start distance : Nat) (nonempty : 0 < slots.length) : ∃ slot, slotAt slots start distance = some slot :=
  ⟨_, List.getElem?_eq_getElem (Nat.mod_lt _ nonempty)⟩

/-- Every slot is at some distance of less than a round. -/
theorem exists_distance (start : Nat) {index : Nat} (inside : index < slots.length) :
    ∃ distance < slots.length, slotAt slots start distance = slots[index]? := by
  have positive := Nat.zero_lt_of_lt inside
  refine ⟨(index + (slots.length - start % slots.length)) % slots.length, Nat.mod_lt _ positive, ?_⟩
  have below := Nat.mod_lt start positive
  unfold slotAt
  rw [← Nat.mod_add_mod, Nat.add_mod_mod, show start % slots.length + (index + (slots.length - start % slots.length)) =
    index + slots.length by omega, Nat.add_mod_right, Nat.mod_eq_of_lt inside]

/-- While a slot is free, a probe ends within one round, wherever it starts. -/
theorem exists_stops (found : ε → Bool) (start : Nat) (free : none ∈ slots) :
    ∃ distance < slots.length, Stops found slots start distance := by
  obtain ⟨index, empty⟩ := List.mem_iff_getElem?.mp free
  have inside : index < slots.length := (List.getElem?_eq_some_iff.mp empty).1
  obtain ⟨last, within, same⟩ := exists_distance start inside
  let ends (distance : Nat) : Prop := slotAt slots start distance = some none ∨
    ∃ entry, slotAt slots start distance = some (some entry) ∧ found entry = true
  have exists_end : ∃ distance, ends distance := ⟨last, Or.inl (same.trans empty)⟩
  classical
  refine ⟨Nat.find exists_end, ?_, ?_, Nat.find_spec exists_end⟩
  · exact Nat.lt_of_le_of_lt (Nat.find_min' exists_end (Or.inl (same.trans empty))) within
  · intro nearer near
    have goesOn : ¬ends nearer := Nat.find_min exists_end near
    obtain ⟨slot, taken⟩ := slotAt_some start nearer (Nat.zero_lt_of_lt inside)
    cases slot with
    | none => exact absurd (Or.inl taken) goesOn
    | some entry =>
      cases matched : found entry with
      | false => exact ⟨entry, taken, matched⟩
      | true => exact absurd (Or.inr ⟨entry, taken, matched⟩) goesOn

theorem probe_congr {other : ε → Bool} (same : ∀ entry, some entry ∈ slots → found entry = other entry)
    (index : Nat) : probe found slots fuel index = probe other slots fuel index := by
  induction fuel generalizing index with
  | zero => rfl
  | succ fuel ih =>
    rw [probe, probe]
    cases reached : slots[index]? with
    | none => rfl
    | some slot =>
      cases slot with
      | none => rfl
      | some entry =>
        dsimp only
        rw [same entry (List.mem_of_getElem? reached), ih]

/-! ## What a table stands for -/

variable {key : ε → κ} {home : κ → Nat} {dictionary : κ → Option ε} {entry : ε}

/-- Between the home of an entry's key and its slot there are only entries of other
keys. -/
def Placed (key : ε → κ) (home : κ → Nat) (slots : List (Option ε)) : Prop :=
  ∀ index entry, slots[index]? = some (some entry) → ∃ distance < slots.length,
    index = (home (key entry) + distance) % slots.length ∧
      ∀ nearer < distance, ∃ other, slotAt slots (home (key entry)) nearer = some (some other) ∧ key other ≠ key entry

/-- The entries of the table are those of the dictionary. -/
structure Represents (key : ε → κ) (home : κ → Nat) (slots : List (Option ε)) (dictionary : κ → Option ε) : Prop where
  placed : Placed key home slots
  holds : ∀ name entry, dictionary name = some entry ↔ some entry ∈ slots ∧ key entry = name

theorem replicate_represents (key : ε → κ) (home : κ → Nat) (count : Nat) :
    Represents key home (List.replicate count none) fun _ => none where
  placed := by
    intro index entry taken
    cases List.eq_of_mem_replicate (List.mem_of_getElem? taken)
  holds := by
    intro name entry
    constructor
    · intro absent
      cases absent
    · rintro ⟨member, -⟩
      cases List.eq_of_mem_replicate member

/-- No key is in two slots. -/
theorem placed_unique (placed : Placed key home slots) {first second : Nat} {one two : ε}
    (atFirst : slots[first]? = some (some one)) (atSecond : slots[second]? = some (some two))
    (same : key one = key two) : first = second := by
  obtain ⟨near, -, rfl, passedOne⟩ := placed first one atFirst
  obtain ⟨far, -, rfl, passedTwo⟩ := placed second two atSecond
  rw [same] at passedOne atFirst ⊢
  rcases Nat.lt_trichotomy near far with less | rfl | more
  · obtain ⟨other, taken, differs⟩ := passedTwo near less
    cases Option.some.inj (taken.symm.trans atFirst)
    exact absurd same differs
  · rfl
  · obtain ⟨other, taken, differs⟩ := passedOne far more
    cases Option.some.inj (taken.symm.trans atSecond)
    exact absurd rfl differs

variable [DecidableEq κ]

/-- Where a probe for a key ends, there is the key's entry, or a free slot if the
dictionary has none. -/
theorem stops_lookup (represents : Represents key home slots dictionary) {name : κ}
    (stops : Stops (fun entry => key entry = name) slots (home name) distance) :
    slotAt slots (home name) distance = some (dictionary name) := by
  rcases stops.here with free | ⟨entry, taken, same⟩
  · cases held : dictionary name with
    | none => exact free
    | some entry =>
      obtain ⟨member, rfl⟩ := (represents.holds name entry).mp held
      obtain ⟨index, taken⟩ := List.mem_iff_getElem?.mp member
      obtain ⟨far, -, rfl, passed⟩ := represents.placed index entry taken
      rcases Nat.lt_trichotomy distance far with less | rfl | more
      · obtain ⟨other, occupied, -⟩ := passed distance less
        cases free.symm.trans occupied
      · cases free.symm.trans taken
      · obtain ⟨other, occupied, differs⟩ := stops.passed far more
        cases Option.some.inj (occupied.symm.trans taken)
        exact absurd rfl (of_decide_eq_false differs)
  · have held : dictionary name = some entry :=
      (represents.holds name entry).mpr ⟨List.mem_of_getElem? taken, of_decide_eq_true same⟩
    rw [held, taken]

/-- The slot where a probe for an entry's key ends has no other key's entry, so the
entry may be written there. -/
theorem set_placed (placed : Placed key home slots)
    (stops : Stops (fun other => key other = key entry) slots (home (key entry)) distance)
    (within : distance < slots.length) :
    Placed key home (slots.set ((home (key entry) + distance) % slots.length) (some entry)) := by
  have inside : (home (key entry) + distance) % slots.length < slots.length :=
    Nat.mod_lt _ (Nat.zero_lt_of_lt within)
  have same_key : ∀ other, slotAt slots (home (key entry)) distance = some (some other) → key other = key entry := by
    intro other taken
    rcases stops.here with free | ⟨there, occupied, same⟩
    · cases free.symm.trans taken
    · cases Option.some.inj (occupied.symm.trans taken)
      exact of_decide_eq_true same
  unfold slotAt at same_key
  generalize at_end : (home (key entry) + distance) % slots.length = position at *
  have kept : ∀ index, index ≠ position → (slots.set position (some entry))[index]? = slots[index]? :=
    fun index other => List.getElem?_set_ne (Ne.symm other)
  intro index other taken
  rw [List.length_set]
  by_cases moved : index = position
  · subst moved
    cases Option.some.inj ((List.getElem?_set_self inside).symm.trans taken)
    refine ⟨distance, within, at_end.symm, fun nearer near => ?_⟩
    obtain ⟨passed, occupied, differs⟩ := stops.passed nearer near
    refine ⟨passed, ?_, of_decide_eq_false differs⟩
    unfold slotAt at occupied ⊢
    rw [List.length_set, kept _ fun same => of_decide_eq_false differs (same_key passed (same ▸ occupied))]
    exact occupied
  · rw [kept index moved] at taken
    obtain ⟨far, near, same, passed⟩ := placed index other taken
    refine ⟨far, near, same, fun nearer less => ?_⟩
    obtain ⟨between, occupied, differs⟩ := passed nearer less
    unfold slotAt at occupied ⊢
    rw [List.length_set]
    by_cases changed : (home (key other) + nearer) % slots.length = position
    · rw [changed] at occupied ⊢
      exact ⟨entry, List.getElem?_set_self inside, fun equal => differs ((same_key between occupied).trans equal)⟩
    · exact ⟨between, (kept _ changed).trans occupied, differs⟩

omit [DecidableEq κ] in
/-- An entry that is written over a free slot, or over an entry of its key, is the only
one of its key, and those of other keys stay. -/
theorem mem_set {position : Nat} {old : Option ε} (placed : Placed key home slots) (here : slots[position]? = some old)
    (same_key : ∀ other, old = some other → key other = key entry)
    (present : ∀ other, some other ∈ slots → key other = key entry → old = some other) (other : ε) :
    some other ∈ slots.set position (some entry) ↔ other = entry ∨ some other ∈ slots ∧ key other ≠ key entry := by
  have inside : position < slots.length := (List.getElem?_eq_some_iff.mp here).1
  have written : (slots.set position (some entry))[position]? = some (some entry) := List.getElem?_set_self inside
  have kept : ∀ index, index ≠ position → (slots.set position (some entry))[index]? = slots[index]? :=
    fun index other => List.getElem?_set_ne (Ne.symm other)
  constructor
  · intro member
    obtain ⟨index, taken⟩ := List.mem_iff_getElem?.mp member
    by_cases moved : index = position
    · subst moved
      exact Or.inl (Option.some.inj (Option.some.inj (taken.symm.trans written)))
    · rw [kept index moved] at taken
      refine Or.inr ⟨List.mem_of_getElem? taken, fun same => moved ?_⟩
      rw [present other (List.mem_of_getElem? taken) same] at here
      exact placed_unique placed taken here rfl
  · rintro (rfl | ⟨member, differs⟩)
    · exact List.mem_of_getElem? written
    · obtain ⟨index, taken⟩ := List.mem_iff_getElem?.mp member
      have moved : index ≠ position := by
        rintro rfl
        exact differs (same_key other (Option.some.inj (here.symm.trans taken)))
      exact List.mem_of_getElem? ((kept index moved).trans taken)

/-- An entry that is written where the probe for its key ends takes the place of the
key's entry, if there was one, and stands for itself. -/
theorem set_represents (represents : Represents key home slots dictionary)
    (stops : Stops (fun other => key other = key entry) slots (home (key entry)) distance)
    (within : distance < slots.length) :
    Represents key home (slots.set ((home (key entry) + distance) % slots.length) (some entry))
      (Function.update dictionary (key entry) (some entry)) := by
  have known : ∀ other, dictionary (key entry) = some other ↔ some other ∈ slots ∧ key other = key entry :=
    represents.holds (key entry)
  refine ⟨set_placed represents.placed stops within, fun name other => ?_⟩
  rw [mem_set represents.placed (stops_lookup represents stops) (fun other held => ((known other).mp held).2)
    (fun other member same => (known other).mpr ⟨member, same⟩)]
  by_cases ours : name = key entry
  · subst ours
    rw [Function.update_self]
    constructor
    · rintro ⟨⟩
      exact ⟨Or.inl rfl, rfl⟩
    · rintro ⟨rfl | ⟨-, differs⟩, same⟩
      · rfl
      · exact absurd same differs
  · rw [Function.update_of_ne ours, represents.holds]
    constructor
    · rintro ⟨member, rfl⟩
      exact ⟨Or.inr ⟨member, ours⟩, rfl⟩
    · rintro ⟨rfl | ⟨member, -⟩, same⟩
      · exact absurd same.symm ours
      · exact ⟨member, same⟩

/-! ## Filling a table -/

def occupied (slots : List (Option ε)) : Nat := slots.countP Option.isSome

theorem free_of_occupied (room : occupied slots < slots.length) : none ∈ slots := by
  obtain ⟨slot, member, free⟩ := List.countP_lt_length_iff.mp room
  cases slot with
  | none => exact member
  | some entry => cases free

theorem occupied_pos (member : some entry ∈ slots) : 0 < occupied slots :=
  List.countP_pos_iff.mpr ⟨_, member, rfl⟩

omit [DecidableEq κ] in
/-- An entry in a free slot is one more, and one in the place of another is not. -/
theorem occupied_set {index : Nat} {slot : Option ε} (here : slots[index]? = some slot) (entry : ε) :
    occupied (slots.set index (some entry)) = occupied slots + if slot.isNone then 1 else 0 := by
  obtain ⟨inside, same⟩ := List.getElem?_eq_some_iff.mp here
  unfold occupied
  rw [List.countP_set inside, same]
  cases slot with
  | none => simp
  | some other =>
    have positive : 0 < slots.countP Option.isSome := occupied_pos (List.mem_of_getElem? here)
    simp only [Option.isSome_some, ↓reduceIte, Option.isNone_some, Bool.false_eq_true]
    omega

/-- Puts an entry where the probe for its key ends. -/
def place (key : ε → κ) (home : κ → Nat) (slots : List (Option ε)) (entry : ε) : Option (List (Option ε)) :=
  (probe (fun other => key other = key entry) slots slots.length (home (key entry) % slots.length)).map
    fun index => slots.set index (some entry)

/-- While a slot is free, a placement goes through. -/
theorem place_represents (represents : Represents key home slots dictionary) (room : occupied slots < slots.length)
    (entry : ε) : ∃ filled, place key home slots entry = some filled ∧ filled.length = slots.length ∧
      Represents key home filled (Function.update dictionary (key entry) (some entry)) ∧
      occupied filled = occupied slots + if (dictionary (key entry)).isNone then 1 else 0 := by
  obtain ⟨distance, within, stops⟩ :=
    exists_stops (fun other => key other = key entry) (home (key entry)) (free_of_occupied room)
  refine ⟨_, ?_, List.length_set, set_represents represents stops within, ?_⟩
  · rw [place, probe_stops stops within]
    rfl
  · exact occupied_set (stops_lookup represents stops) entry

/-- The entries of one table are put one by one into another. -/
def refill (key : ε → κ) (home : κ → Nat) (slots : List (Option ε)) (old : List (Option ε)) : Option (List (Option ε)) :=
  old.foldlM (fun slots slot =>
    match slot with
    | none => some slots
    | some entry => place key home slots entry) slots

omit [DecidableEq κ] in
/-- The keys of the entries before are other keys. -/
theorem placed_fresh {done rest : List (Option ε)} {other : ε} (placed : Placed key home (done ++ some entry :: rest))
    (member : some other ∈ done) : key other ≠ key entry := by
  intro same
  obtain ⟨index, earlier⟩ := List.mem_iff_getElem?.mp member
  have inside := (List.getElem?_eq_some_iff.mp earlier).1
  have before : (done ++ some entry :: rest)[index]? = some (some other) := by
    rw [List.getElem?_append_left inside]
    exact earlier
  have here : (done ++ some entry :: rest)[done.length]? = some (some entry) := by
    rw [List.getElem?_append_right (Nat.le_refl _), Nat.sub_self]
    rfl
  have met := placed_unique placed before here same
  omega

/-- What a dictionary knows of the entries so far, it knows of one more. -/
theorem update_knows {done : List (Option ε)} (fresh : ∀ other, some other ∈ done → key other ≠ key entry)
    (knows : ∀ name other, dictionary name = some other ↔ some other ∈ done ∧ key other = name) (name : κ) (other : ε) :
    Function.update dictionary (key entry) (some entry) name = some other ↔
      some other ∈ done ++ [some entry] ∧ key other = name := by
  by_cases same : name = key entry
  · subst same
    rw [Function.update_self]
    constructor
    · rintro ⟨⟩
      exact ⟨by simp, rfl⟩
    · rintro ⟨member, equal⟩
      rcases List.mem_append.mp member with earlier | last
      · exact absurd equal (fresh other earlier)
      · exact (List.mem_singleton.mp last).symm
  · rw [Function.update_of_ne same, knows]
    constructor
    · exact fun ⟨member, equal⟩ => ⟨List.mem_append_left _ member, equal⟩
    · rintro ⟨member, equal⟩
      rcases List.mem_append.mp member with earlier | last
      · exact ⟨earlier, equal⟩
      · cases List.mem_singleton.mp last
        exact absurd equal.symm same

/-- The rest of the loop, when the new table has the entries so far. -/
theorem refill_rest (done : List (Option ε)) {old rest : List (Option ε)} {partly : κ → Option ε}
    (represents : Represents key home old dictionary) (split : old = done ++ rest) (room : occupied old < slots.length)
    (so_far : Represents key home slots partly)
    (knows : ∀ name entry, partly name = some entry ↔ some entry ∈ done ∧ key entry = name)
    (counted : occupied slots = occupied done) :
    ∃ filled, refill key home slots rest = some filled ∧ filled.length = slots.length ∧
      Represents key home filled dictionary ∧ occupied filled = occupied old := by
  induction rest generalizing done slots partly with
  | nil =>
    rw [List.append_nil] at split
    subst split
    have all : partly = dictionary := by
      funext name
      apply Option.ext
      intro entry
      rw [knows, represents.holds]
    exact ⟨slots, rfl, rfl, all ▸ so_far, counted⟩
  | cons slot rest ih =>
    have next : old = (done ++ [slot]) ++ rest := by rw [split, List.append_assoc]; rfl
    cases slot with
    | none =>
      apply ih _ next room so_far
      · intro name entry
        rw [knows]
        simp
      · rw [counted]
        simp [occupied]
    | some entry =>
      have fresh : ∀ other, some other ∈ done → key other ≠ key entry :=
        fun other member => placed_fresh (split ▸ represents.placed) member
      have absent : partly (key entry) = none := by
        apply Option.eq_none_iff_forall_ne_some.mpr
        intro other held
        obtain ⟨member, same⟩ := (knows _ other).mp held
        exact fresh other member same
      have few : occupied done ≤ occupied old := by
        rw [split, occupied, occupied, List.countP_append]
        exact Nat.le_add_right _ _
      obtain ⟨grown, went, length, holds, count⟩ := place_represents so_far (by omega) entry
      rw [absent, Option.isNone_none, if_pos rfl] at count
      have goesOn : refill key home slots (some entry :: rest) = refill key home grown rest := by
        simp only [refill, List.foldlM_cons, went]
        rfl
      rw [goesOn, ← length]
      apply ih _ next (length ▸ room) holds (update_knows fresh knows)
      rw [count, counted]
      simp [occupied]

/-- A table with more slots than entries takes over another table. -/
theorem refill_represents {old : List (Option ε)} (represents : Represents key home old dictionary) {count : Nat}
    (room : occupied old < count) :
    ∃ filled, refill key home (List.replicate count none) old = some filled ∧ filled.length = count ∧
      Represents key home filled dictionary ∧ occupied filled = occupied old := by
  have length : (List.replicate count (none : Option ε)).length = count := List.length_replicate
  rw [← length] at room
  obtain ⟨filled, ran, same, holds, counted⟩ := refill_rest [] represents (List.nil_append old).symm room
    (replicate_represents key home count) (by simp) (by simp [occupied, List.countP_replicate])
  exact ⟨filled, ran, same.trans length, holds, counted⟩

end SnakePosix.Probing
