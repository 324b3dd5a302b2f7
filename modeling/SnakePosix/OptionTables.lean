import Mathlib.Algebra.Ring.Nat
import SnakePosix.Foundation.Probing
import SnakePosix.Libargs.HashMap

/-! The hash map of `args.c` is a dictionary: every lookup finds what was stored last
under the key, and no call leaves the entries or runs for ever, since at most half of
the entries are taken. -/
namespace SnakePosix.OptionTables
open Libargs Probing

variable {β : Type} {map : Libargs.Map β} {dictionary : CString → Option β} {key : CString} {value : β}

/-- Where the search for a key starts, before it is brought within the capacity. -/
def homeOf (key : CString) : Nat := (strHash key).toNat

/-! ## Searching -/

/-- What `map_find` relies on. -/
structure Shaped (map : Libargs.Map β) : Prop where
  length : map.entries.length = map.capacity
  power : ∃ exponent, map.capacity = 2 ^ exponent
  hashed : ∀ entry, some entry ∈ map.entries → entry.keyHash = strHash entry.key

theorem masked (power : ∃ exponent, map.capacity = 2 ^ exponent) (index : Nat) :
    index &&& (map.capacity - 1) = index % map.capacity := by
  obtain ⟨exponent, same⟩ := power
  rw [same, Nat.and_two_pow_sub_one_eq_mod]

theorem findLoop_probes (shaped : Shaped map) (key : CString) (fuel index : Nat) :
    mapFindLoop map key (strHash key) fuel index = probe (fun entry => entry.key = key) map.entries fuel index := by
  have matched : ∀ entry, some entry ∈ map.entries →
      decide (entry.key = key) = decide (strHash key = entry.keyHash ∧ key = entry.key) := by
    intro entry member
    rw [shaped.hashed entry member]
    apply decide_eq_decide.mpr
    constructor
    · rintro rfl
      exact ⟨rfl, rfl⟩
    · exact fun same => same.2.symm
  rw [probe_congr matched]
  induction fuel generalizing index with
  | zero => rfl
  | succ fuel ih =>
    rw [mapFindLoop, probe]
    cases map.entries[index]? with
    | none => rfl
    | some slot =>
      cases slot with
      | none => rfl
      | some entry =>
        dsimp only
        simp only [decide_eq_true_eq, masked shaped.power, ih, shaped.length]

theorem find_probes (shaped : Shaped map) (key : CString) :
    mapFind map key (strHash key) =
      probe (fun entry => entry.key = key) map.entries map.entries.length (homeOf key % map.entries.length) := by
  rw [mapFind, findLoop_probes shaped, masked shaped.power, shaped.length]
  rfl

/-- Storing an entry that is hashed under its key is a placement. -/
theorem move_places (shaped : Shaped map) {src : MapEntry β} (hashed : src.keyHash = strHash src.key) :
    mapMove map (some src) = (place MapEntry.key homeOf map.entries src).map fun entries =>
      { map with entries, count := map.count + 1 } := by
  simp only [mapMove, hashed, find_probes shaped, place, Option.map_map]
  cases probe (fun entry => entry.key = src.key) map.entries map.entries.length
    (homeOf src.key % map.entries.length) with
  | none => rfl
  | some index => rfl

theorem shaped_set (shaped : Shaped map) {entry : MapEntry β} (hashed : entry.keyHash = strHash entry.key)
    (index count : Nat) : Shaped { map with entries := map.entries.set index (some entry), count } where
  length := by rw [← shaped.length]; exact List.length_set
  power := shaped.power
  hashed := by
    intro other member
    rcases List.mem_or_eq_of_mem_set member with old | new
    · exact shaped.hashed other old
    · cases new
      exact hashed

/-- The loop of `map_grow` fills the new entries from the old ones. -/
theorem moves_refill {old : List (Option (MapEntry β))} (shaped : Shaped map)
    (hashed : ∀ entry, some entry ∈ old → entry.keyHash = strHash entry.key) :
    old.foldlM mapMove map = (refill MapEntry.key homeOf map.entries old).map fun entries =>
      { map with entries, count := map.count + occupied old } := by
  induction old generalizing map with
  | nil => rfl
  | cons slot rest ih =>
    have later : ∀ entry, some entry ∈ rest → entry.keyHash = strHash entry.key :=
      fun entry member => hashed entry (List.mem_cons_of_mem _ member)
    cases slot with
    | none =>
      rw [List.foldlM_cons]
      refine (ih shaped later).trans ?_
      simp [refill, occupied]
    | some src =>
      have ours := hashed src List.mem_cons_self
      rw [List.foldlM_cons, move_places shaped ours]
      simp only [refill, List.foldlM_cons]
      cases placed : place MapEntry.key homeOf map.entries src with
      | none => rfl
      | some entries =>
        obtain ⟨index, -, rfl⟩ := Option.map_eq_some_iff.mp placed
        refine (ih (shaped_set shaped ours index _) later).trans ?_
        simp [refill, occupied, Nat.add_assoc, Nat.add_comm 1]

/-! ## The calls -/

/-- What the entry for a key is. -/
def entriesOf (dictionary : CString → Option β) (key : CString) : Option (MapEntry β) :=
  (dictionary key).map fun value => { key, value, keyHash := strHash key }

/-- The map stands for the dictionary, and at most half of it is taken. It has only
been made larger when it had to be. -/
structure Stands (map : Libargs.Map β) (dictionary : CString → Option β) : Prop where
  length : map.entries.length = map.capacity
  power : map.capacity = 0 ∨ 8 ≤ map.capacity ∧ ∃ exponent, map.capacity = 2 ^ exponent
  threshold : map.maxLoadThreshold = map.capacity / 2
  count : map.count = occupied map.entries
  within : map.count ≤ map.maxLoadThreshold
  needed : map.capacity ≤ 8 ∨ map.capacity ≤ 4 * map.count
  represents : Represents MapEntry.key homeOf map.entries (entriesOf dictionary)

theorem new_stands : Stands (mapNew : Libargs.Map β) fun _ => none where
  length := rfl
  power := Or.inl rfl
  threshold := (Nat.zero_div 2).symm
  count := rfl
  within := Nat.le_refl 0
  needed := Or.inl (Nat.zero_le 8)
  represents := replicate_represents _ _ 0

theorem stands_hashed (stands : Stands map dictionary) {entry : MapEntry β} (member : some entry ∈ map.entries) :
    entry.keyHash = strHash entry.key := by
  have held := (stands.represents.holds _ entry).mpr ⟨member, rfl⟩
  obtain ⟨value, -, same⟩ := Option.map_eq_some_iff.mp held
  rw [← same]

theorem stands_shaped (stands : Stands map dictionary) (some_entries : 0 < map.capacity) : Shaped map where
  length := stands.length
  power := (stands.power.resolve_left (Nat.ne_of_gt some_entries)).2
  hashed := fun _ => stands_hashed stands

theorem entriesOf_update (dictionary : CString → Option β) (key : CString) (value : β) :
    entriesOf (Function.update dictionary key (some value)) =
      Function.update (entriesOf dictionary) key (some { key, value, keyHash := strHash key }) := by
  funext name
  by_cases same : name = key
  · subst same
    simp [entriesOf]
  · simp [entriesOf, same]

theorem stands_room (stands : Stands map dictionary) (some_entries : 0 < map.capacity) :
    occupied map.entries < map.entries.length := by
  have within := stands.within
  rw [stands.threshold] at within
  rw [← stands.count, stands.length]
  omega

/-- The search for a key ends at its entry, or at a free one. -/
theorem find_stands (stands : Stands map dictionary) (some_entries : 0 < map.capacity) (key : CString) :
    ∃ index, mapFind map key (strHash key) = some index ∧ map.entries[index]? = some (entriesOf dictionary key) ∧
      ∀ value, Represents MapEntry.key homeOf
        (map.entries.set index (some { key, value, keyHash := strHash key }))
        (entriesOf (Function.update dictionary key (some value))) := by
  obtain ⟨distance, within, stops⟩ := exists_stops (fun entry : MapEntry β => entry.key = key) (homeOf key)
    (free_of_occupied (stands_room stands some_entries))
  refine ⟨_, ?_, stops_lookup stands.represents stops, fun value => ?_⟩
  · rw [find_probes (stands_shaped stands some_entries)]
    exact probe_stops stops within
  · rw [entriesOf_update]
    exact @set_represents _ _ _ _ _ _ _ { key, value, keyHash := strHash key } _ stands.represents stops within

theorem get_stands (stands : Stands map dictionary) (key : CString) : mapGet map key = some (dictionary key) := by
  unfold mapGet
  split
  case isTrue empty =>
    rw [stands.count] at empty
    cases held : dictionary key with
    | none => rfl
    | some value =>
      have entry : entriesOf dictionary key = some { key, value, keyHash := strHash key } := by
        simp [entriesOf, held]
      have member := ((stands.represents.holds _ _).mp entry).1
      have positive := occupied_pos member
      omega
  case isFalse taken =>
    have some_entries : 0 < map.capacity := by
      have within := stands.within
      rw [stands.threshold] at within
      omega
    obtain ⟨index, went, here, -⟩ := find_stands stands some_entries key
    simp [went, here, entriesOf, Function.comp_def]

/-- The next capacity is a power of two again, has room for another entry, and is not
larger than a full map of the old capacity needs. -/
theorem next_capacity {capacity next : Nat} (power : capacity = 0 ∨ 8 ≤ capacity ∧ ∃ exponent, capacity = 2 ^ exponent)
    (larger : (if capacity < 8 then 8 else capacity * 2) = next) :
    (8 ≤ next ∧ ∃ exponent, next = 2 ^ exponent) ∧ capacity / 2 < next / 2 ∧
      (next ≤ 8 ∨ next ≤ 4 * (capacity / 2)) := by
  rcases power with rfl | ⟨eight, exponent, same⟩
  · subst larger
    exact ⟨⟨Nat.le_refl 8, 3, rfl⟩, Nat.succ_pos 3, Or.inl (Nat.le_refl 8)⟩
  · rw [if_neg (Nat.not_lt.mpr eight)] at larger
    have even : 2 * (capacity / 2) = capacity := by
      apply Nat.mul_div_cancel'
      cases exponent with
      | zero => omega
      | succ exponent => exact same ▸ Nat.dvd_mul_left 2 _
    refine ⟨⟨by omega, exponent + 1, ?_⟩, by omega, Or.inr (by omega)⟩
    rw [← larger, same, Nat.pow_succ]

/-- A full map gets twice the entries, or its first eight. -/
theorem grow_stands (stands : Stands map dictionary) (full : map.count = map.maxLoadThreshold) :
    ∃ grown, mapGrow map true = some (true, grown) ∧ Stands grown dictionary ∧ grown.count = map.count ∧
      grown.count < grown.maxLoadThreshold := by
  have threshold := stands.threshold
  generalize larger : (if map.capacity < 8 then 8 else map.capacity * 2) = newCapacity
  obtain ⟨power, roomy, needed⟩ := next_capacity stands.power larger
  have room : occupied map.entries < newCapacity := by
    rw [← stands.count]
    omega
  obtain ⟨filled, ran, length, represents, counted⟩ := refill_represents stands.represents room
  have shaped : @Shaped β ⟨0, newCapacity, newCapacity / 2, List.replicate newCapacity none⟩ :=
    { length := List.length_replicate
      power := power.2
      hashed := fun entry member => by cases List.eq_of_mem_replicate member }
  have moved := moves_refill shaped fun _ => stands_hashed stands
  have below : map.count < newCapacity / 2 := by omega
  refine ⟨⟨map.count, newCapacity, newCapacity / 2, filled⟩, ?_, ?_, rfl, below⟩
  · simp only [mapGrow, ↓reduceIte, larger, moved, ran, ← stands.count, Nat.zero_add]
    rfl
  · refine { length, threshold := rfl, count := ?_, within := Nat.le_of_lt below, needed := ?_, represents,
             power := Or.inr power }
    · exact stands.count.trans counted.symm
    · dsimp only
      omega

theorem store_stands (stands : Stands map dictionary) (roomy : map.count < map.maxLoadThreshold) (key : CString)
    (value : β) (copied : Bool) : ∃ stored after, mapStore map key value copied = some (stored, after) ∧
      Stands after (if stored then Function.update dictionary key (some value) else dictionary) ∧
      after.count ≤ map.count + 1 ∧ (stored = false → copied = false) := by
  have threshold := stands.threshold
  have some_entries : 0 < map.capacity := by omega
  obtain ⟨index, went, here, represents⟩ := find_stands stands some_entries key
  have counted := occupied_set here { key, value, keyHash := strHash key }
  -- The map once the entry is written, with one more or the same count.
  have written : ∀ count, count = map.count + (if (entriesOf dictionary key).isNone then 1 else 0) →
      Stands { map with count, entries := map.entries.set index (some { key, value, keyHash := strHash key }) }
        (Function.update dictionary key (some value)) := by
    intro count same
    have more : count ≤ map.maxLoadThreshold ∧ map.count ≤ count := by
      rw [same]
      split <;> omega
    refine { stands with
      length := by rw [← stands.length]; exact List.length_set
      count := by rw [counted, ← stands.count]; exact same
      within := more.1
      needed := ?_
      represents := represents value }
    have needed := stands.needed
    dsimp only
    omega
  cases held : dictionary key with
  | none =>
    have absent : entriesOf dictionary key = none := by rw [entriesOf, held]; rfl
    rw [absent] at here
    cases copied with
    | false => exact ⟨false, map, by simp [mapStore, went, here], stands, Nat.le_succ _, fun _ => rfl⟩
    | true =>
      refine ⟨true, _, by simp [mapStore, went, here]; rfl, ?_, Nat.le_refl _, fun failed => ?_⟩
      · exact written _ (by rw [absent]; rfl)
      · cases failed
  | some old =>
    have present : entriesOf dictionary key = some { key, value := old, keyHash := strHash key } := by
      rw [entriesOf, held]
      rfl
    rw [present] at here
    have same : map.count = map.count + if (entriesOf dictionary key).isNone then 1 else 0 := by simp [present]
    refine ⟨true, _, ?_, written map.count same, Nat.le_succ _, fun failed => ?_⟩
    · simp [mapStore, went, here]
    · cases failed

/-- What `map_set` stores is found, and it fails only without memory. -/
theorem set_stands (stands : Stands map dictionary) (key : CString) (value : β) (memory : SetMemory) :
    ∃ stored after, mapSet map key value memory = some (stored, after) ∧
      Stands after (if stored then Function.update dictionary key (some value) else dictionary) ∧
      after.count ≤ map.count + 1 ∧ (stored = false → memory.grown = false ∨ memory.copied = false) := by
  unfold mapSet
  split
  case isTrue full =>
    cases granted : memory.grown with
    | false =>
      exact ⟨false, map, by simp [mapGrow], stands, Nat.le_succ _, fun _ => Or.inl rfl⟩
    | true =>
      obtain ⟨grown, went, standsGrown, counted, roomy⟩ := grow_stands stands full
      obtain ⟨stored, after, ran, standsAfter, few, failed⟩ :=
        store_stands standsGrown roomy key value memory.copied
      exact ⟨stored, after, by simp [went, ran], standsAfter, counted ▸ few, fun not => Or.inr (failed not)⟩
  case isFalse roomy =>
    have within := stands.within
    obtain ⟨stored, after, ran, standsAfter, few, failed⟩ :=
      store_stands stands (by omega) key value memory.copied
    exact ⟨stored, after, ran, standsAfter, few, fun not => Or.inr (failed not)⟩

/-! ## Keys of several words -/

/-- The words between the spaces of a string. -/
def wordsOf (string : CString) : List CString := (string.splitOnP (· = ' ')).filter (· ≠ [])

theorem wordsOf_nil : wordsOf [] = [] := by
  rw [wordsOf, List.splitOnP_nil]
  rfl

theorem wordsOf_space (rest : CString) : wordsOf (' ' :: rest) = wordsOf rest := by
  rw [wordsOf, List.splitOnP_cons_eq_if_modifyHead]
  simp [wordsOf]

/-- The first word ends before the next space. -/
theorem wordsOf_word {c : Char} (word : c ≠ ' ') (rest : CString) :
    wordsOf (c :: rest) =
      (c :: rest.takeWhile (· ≠ ' ')) :: wordsOf ((rest.dropWhile (· ≠ ' ')).drop 1) := by
  have letters : ∀ x ∈ c :: rest.takeWhile (· ≠ ' '), decide (x = ' ') = false := by
    intro x member
    rcases List.mem_cons.mp member with rfl | later
    · exact decide_eq_false word
    · exact decide_eq_false (of_decide_eq_true (List.all_eq_true.mp List.all_takeWhile x later))
  have parts : c :: rest = (c :: rest.takeWhile (· ≠ ' ')) ++ rest.dropWhile (· ≠ ' ') := by
    rw [List.cons_append, List.takeWhile_append_dropWhile]
  cases ends : rest.dropWhile (· ≠ ' ') with
  | nil =>
    rw [ends, List.append_nil] at parts
    rw [wordsOf, parts, List.splitOnP_eq_singleton letters]
    rfl
  | cons space later =>
    have stops : space = ' ' := by
      have first := List.head?_dropWhile_not (fun x => decide (x ≠ ' ')) rest
      rw [ends] at first
      simpa using first
    subst stops
    rw [ends] at parts
    rw [wordsOf, parts, List.splitOnP_append_cons_of_forall_mem letters ' ' rfl]
    rfl

/-- The dictionary with a value under each of the keys. -/
def withKeys (dictionary : CString → Option β) (keys : List CString) (value : β) : CString → Option β :=
  keys.foldl (fun known key => Function.update known key (some value)) dictionary

/-- What stops `map_set`. -/
def SetMemory.Short (memory : SetMemory) : Prop := memory.grown = false ∨ memory.copied = false

theorem setWords_stands (stands : Stands map dictionary) (value : β) (memory : Nat → SetMemory) (word : Nat)
    (string : CString) : ∃ stored after reached, mapSetWords map value memory word string = some (stored, after) ∧
      Stands after (withKeys dictionary ((wordsOf string).take reached) value) ∧
      after.count ≤ map.count + (wordsOf string).length ∧
      (stored = true → reached = (wordsOf string).length) ∧
      (stored = false → reached < (wordsOf string).length ∧ SetMemory.Short (memory (word + reached))) := by
  induction sized : string.length using Nat.strongRecOn generalizing map dictionary word string with
  | ind size ih =>
    subst sized
    cases string with
    | nil =>
      refine ⟨true, map, 0, by rw [mapSetWords], stands, Nat.le_add_right _ _, fun _ => ?_, fun failed => ?_⟩
      · rw [wordsOf_nil]
        rfl
      · cases failed
    | cons c rest =>
      rw [mapSetWords]
      by_cases space : c = ' '
      · subst space
        rw [if_pos rfl, wordsOf_space]
        exact ih rest.length (Nat.lt_succ_self _) stands word rest rfl
      · have shorter : ((rest.dropWhile (· ≠ ' ')).drop 1).length < (c :: rest).length := by
          have less := (rest.dropWhile_suffix (· ≠ ' ')).length_le
          simp only [List.length_drop, List.length_cons]
          omega
        obtain ⟨stored, next, went, standsNext, few, failed⟩ :=
          set_stands stands (c :: rest.takeWhile (· ≠ ' ')) value (memory word)
        rw [if_neg space, wordsOf_word space, went, List.length_cons]
        cases stored with
        | false =>
          refine ⟨false, next, 0, rfl, standsNext, by omega, fun not => ?_, fun _ => ?_⟩
          · cases not
          · exact ⟨Nat.succ_pos _, failed rfl⟩
        | true =>
          obtain ⟨stored, after, reached, ran, standsAfter, more, all, some_failed⟩ :=
            ih _ shorter standsNext (word + 1) _ rfl
          refine ⟨stored, after, reached + 1, ran, standsAfter, by omega, fun done => ?_, fun not => ?_⟩
          · rw [all done]
          · obtain ⟨before, short⟩ := some_failed not
            rw [Nat.add_assoc, Nat.add_comm 1] at short
            exact ⟨Nat.succ_lt_succ before, short⟩

/-! ## Runs -/

/-- What a dictionary answers to a call, and what it knows then. A call that fails has
stored the value under the words before the one without memory. -/
inductive Serves : (CString → Option β) → MapCall β → MapAnswer β → (CString → Option β) → Prop where
  | get : Serves known (.get name) (.found (known name)) known
  | set : Serves known (.set name content memory) (.stored true) (Function.update known name (some content))
  | setFails (short : SetMemory.Short memory) : Serves known (.set name content memory) (.stored false) known
  | split : Serves known (.setSplitkey string content copied memory) (.stored true)
      (withKeys known (wordsOf string) content)
  | splitUncopied : Serves known (.setSplitkey string content false memory) (.stored false) known
  | splitFails (before : reached < (wordsOf string).length) (short : SetMemory.Short (memory reached)) :
      Serves known (.setSplitkey string content copied memory) (.stored false)
        (withKeys known ((wordsOf string).take reached) content)

inductive Session : (CString → Option β) → List (MapCall β) → List (MapAnswer β) → (CString → Option β) → Prop where
  | done : Session known [] [] known
  | next (first : Serves known call answer middle) (later : Session middle calls answers final) :
      Session known (call :: calls) (answer :: answers) final

/-- The keys that a call may add. -/
def keysOf : MapCall β → Nat
  | .get _ => 0
  | .set .. => 1
  | .setSplitkey keyString .. => (wordsOf keyString).length

theorem call_stands (stands : Stands map dictionary) (call : MapCall β) :
    ∃ answer after middle, map.call call = some (answer, after) ∧ Serves dictionary call answer middle ∧
      Stands after middle ∧ after.count ≤ map.count + keysOf call := by
  cases call with
  | get key =>
    refine ⟨_, map, dictionary, ?_, .get, stands, Nat.le_refl _⟩
    rw [Map.call, get_stands stands]
    rfl
  | set key value memory =>
    obtain ⟨stored, after, ran, standsAfter, few, failed⟩ := set_stands stands key value memory
    refine ⟨.stored stored, after, _, by simp [Map.call, ran], ?_, standsAfter, few⟩
    cases stored with
    | false => exact .setFails (failed rfl)
    | true => exact .set
  | setSplitkey keyString value copied memory =>
    cases copied with
    | false => exact ⟨.stored false, map, dictionary, rfl, .splitUncopied, stands, Nat.le_add_right _ _⟩
    | true =>
      obtain ⟨stored, after, reached, ran, standsAfter, few, all, failed⟩ :=
        setWords_stands stands value memory 0 keyString
      refine ⟨.stored stored, after, _, by simp [Map.call, mapSetSplitkey, ran], ?_, standsAfter, few⟩
      cases stored with
      | false =>
        obtain ⟨before, short⟩ := failed rfl
        rw [Nat.zero_add] at short
        exact .splitFails before short
      | true =>
        rw [all rfl, List.take_length]
        exact .split

theorem run_stands (stands : Stands map dictionary) (calls : List (MapCall β)) :
    ∃ answers after final, map.run calls = some (answers, after) ∧ Session dictionary calls answers final ∧
      Stands after final ∧ after.count ≤ map.count + (calls.map keysOf).sum := by
  induction calls generalizing map dictionary with
  | nil => exact ⟨[], map, dictionary, rfl, .done, stands, Nat.le_refl _⟩
  | cons call calls ih =>
    obtain ⟨answer, next, middle, called, serves, standsNext, few⟩ := call_stands stands call
    obtain ⟨answers, after, final, ran, session, standsAfter, more⟩ := ih standsNext
    refine ⟨answer :: answers, after, final, ?_, .next serves session, standsAfter, ?_⟩
    · rw [Map.run, called]
      simp [ran]
    · rw [List.map_cons, List.sum_cons]
      omega

/-- Whatever is called on a new map, and whichever allocations fail, the calls return,
answer as a dictionary does, and leave a map that still does, of whose entries at most
half are taken. No `int` overflows. -/
theorem run_serves (calls : List (MapCall β)) (few : (calls.map keysOf).sum ≤ 2 ^ 28) :
    ∃ answers map dictionary, Libargs.Map.run mapNew calls = some (answers, map) ∧
      Session (fun _ => none) calls answers dictionary ∧ (∀ key, mapGet map key = some (dictionary key)) ∧
      map.entries.length = map.capacity ∧ map.count = map.entries.countP Option.isSome ∧
      2 * map.count ≤ map.capacity ∧ map.capacity < 2 ^ 31 := by
  obtain ⟨answers, map, dictionary, ran, session, stands, count⟩ := run_stands new_stands calls
  refine ⟨answers, map, dictionary, ran, session, get_stands stands, stands.length, stands.count, ?_, ?_⟩
  · have within := stands.within
    rw [stands.threshold] at within
    omega
  · have needed := stands.needed
    have none_yet : (mapNew : Libargs.Map β).count = 0 := rfl
    omega

/-- Seven names for three values, a name that gets no memory, and a lookup. -/
def someNames : List (MapCall Nat) :=
  [.setSplitkey "name n".toList 1 true fun _ => ⟨true, true⟩, .set "map".toList 2 ⟨true, true⟩,
    .set "port".toList 3 ⟨true, false⟩, .setSplitkey "width w height h".toList 4 true fun _ => ⟨true, true⟩,
    .get "n".toList]

/-- The fifth name has made the map twice as large. -/
theorem run_serves_someNames : ∃ answers map dictionary, Libargs.Map.run mapNew someNames = some (answers, map) ∧
    Session (fun _ => none) someNames answers dictionary ∧ (∀ key, mapGet map key = some (dictionary key)) ∧
    map.capacity = 16 ∧ 2 * map.entries.countP Option.isSome ≤ 16 := by
  obtain ⟨answers, map, dictionary, ran, session, serves, -, count, half, -⟩ := run_serves someNames (by decide +kernel)
  have doubled : (Libargs.Map.run mapNew someNames).map (·.2.capacity) = some 16 := by decide +kernel
  rw [ran] at doubled
  have capacity : map.capacity = 16 := Option.some.inj doubled
  exact ⟨answers, map, dictionary, ran, session, serves, capacity, by omega⟩

end SnakePosix.OptionTables
