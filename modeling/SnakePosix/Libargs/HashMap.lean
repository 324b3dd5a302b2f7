import SnakePosix.Libargs.Args

/-! The hash map of `args.c`, from strings to pointers. `none` is a call that leaves the
map's entries or never returns; whether `malloc` succeeds is given to each call. -/
namespace SnakePosix.Libargs

/-- FNV-1a -/
def strHash (string : CString) : UInt32 :=
  string.foldl (fun hash c => (hash ^^^ c.toNat.toUInt8.toUInt32) * 16777619) 2166136261

structure MapEntry (β : Type) where
  key : CString
  value : β
  keyHash : UInt32
  deriving DecidableEq, Repr

/-- An entry whose key is `NULL` is `none`. -/
structure Map (β : Type) where
  count : Nat
  capacity : Nat
  maxLoadThreshold : Nat
  entries : List (Option (MapEntry β))
  deriving DecidableEq, Repr

variable {β : Type}

def mapNew : Map β where
  count := 0
  capacity := 0
  maxLoadThreshold := 0
  entries := []

/-- The loop of `map_find`. A round of `capacity` turns has seen every entry, and then
the loop goes on for ever. -/
def mapFindLoop (map : Map β) (key : CString) (keyHash : UInt32) : Nat → Nat → Option Nat
  | 0, _ => none
  | fuel + 1, index =>
    match map.entries[index]? with
    | none => none
    | some none => some index
    | some (some entry) =>
      if keyHash = entry.keyHash ∧ key = entry.key then some index
      else mapFindLoop map key keyHash fuel ((index + 1) &&& (map.capacity - 1))

def mapFind (map : Map β) (key : CString) (keyHash : UInt32) : Option Nat :=
  mapFindLoop map key keyHash map.capacity (keyHash.toNat &&& (map.capacity - 1))

/-- The body of the loop in `map_grow`. -/
def mapMove (map : Map β) (src : Option (MapEntry β)) : Option (Map β) :=
  match src with
  | none => some map
  | some src => do
    let dst ← mapFind map src.key src.keyHash
    some { map with entries := map.entries.set dst (some src), count := map.count + 1 }

def mapGrow (map : Map β) (allocated : Bool) : Option (Bool × Map β) :=
  let newCapacity := if map.capacity < 8 then 8 else map.capacity * 2
  if allocated then do
    let grown ← map.entries.foldlM mapMove {
      count := 0
      capacity := newCapacity
      maxLoadThreshold := newCapacity / 2
      entries := List.replicate newCapacity none }
    some (true, grown)
  else some (false, map)

/-- The value, if the key was found. -/
def mapGet (map : Map β) (key : CString) : Option (Option β) :=
  if map.count = 0 then some none
  else do
    let index ← mapFind map key (strHash key)
    let entry ← map.entries[index]?
    some (entry.map MapEntry.value)

/-- Whether the entries and the copy of the key get their memory. -/
structure SetMemory where
  grown : Bool
  copied : Bool
  deriving DecidableEq, Repr

/-- `map_set` once there is room. -/
def mapStore (map : Map β) (key : CString) (value : β) (copied : Bool) : Option (Bool × Map β) := do
  let keyHash := strHash key
  let index ← mapFind map key keyHash
  match ← map.entries[index]? with
  | none =>
    if copied then
      some (true, { map with count := map.count + 1, entries := map.entries.set index (some { key, value, keyHash }) })
    else some (false, map)
  | some entry => some (true, { map with entries := map.entries.set index (some { entry with value }) })

def mapSet (map : Map β) (key : CString) (value : β) (memory : SetMemory) : Option (Bool × Map β) :=
  if map.count = map.maxLoadThreshold then do
    let (grown, map) ← mapGrow map memory.grown
    if grown then mapStore map key value memory.copied else some (false, map)
  else mapStore map key value memory.copied

/-- The loop of `map_set_splitkey` over the string from `word_start` on; `memory` is
that of each word's `map_set`. -/
def mapSetWords (map : Map β) (value : β) (memory : Nat → SetMemory) (word : Nat) (string : CString) :
    Option (Bool × Map β) :=
  match string with
  | [] => some (true, map)
  | c :: rest =>
    if c = ' ' then mapSetWords map value memory word rest
    else do
      let (stored, map) ← mapSet map (c :: rest.takeWhile (· ≠ ' ')) value (memory word)
      if stored then mapSetWords map value memory (word + 1) ((rest.dropWhile (· ≠ ' ')).drop 1)
      else some (false, map)
termination_by string.length
decreasing_by
  · simp
  · have shorter := (rest.dropWhile_suffix (· ≠ ' ')).length_le
    simp only [List.length_drop, List.length_cons]
    omega

def mapSetSplitkey (map : Map β) (keyString : CString) (value : β) (copied : Bool) (memory : Nat → SetMemory) :
    Option (Bool × Map β) :=
  if copied then mapSetWords map value memory 0 keyString else some (false, map)

inductive MapCall (β : Type) where
  | get (key : CString)
  | set (key : CString) (value : β) (memory : SetMemory)
  | setSplitkey (keyString : CString) (value : β) (copied : Bool) (memory : Nat → SetMemory)

inductive MapAnswer (β : Type) where
  | found (value : Option β)
  | stored (all : Bool)
  deriving DecidableEq, Repr

def Map.call (map : Map β) : MapCall β → Option (MapAnswer β × Map β)
  | .get key => (mapGet map key).map fun value => (.found value, map)
  | .set key value memory => (mapSet map key value memory).map fun (stored, map) => (.stored stored, map)
  | .setSplitkey keyString value copied memory =>
    (mapSetSplitkey map keyString value copied memory).map fun (stored, map) => (.stored stored, map)

/-- The calls one after the other, with all their answers. -/
def Map.run (map : Map β) : List (MapCall β) → Option (List (MapAnswer β) × Map β)
  | [] => some ([], map)
  | call :: calls => do
    let (answer, map) ← map.call call
    let (answers, map) ← map.run calls
    some (answer :: answers, map)

end SnakePosix.Libargs
