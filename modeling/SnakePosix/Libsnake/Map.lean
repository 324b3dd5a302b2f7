import SnakePosix.Foundation.Exploration
import SnakePosix.Libsnake.Coordinates

/-! The map of `map.c` and its template. Tiles are a total function of the
coordinates; which of them the C arrays hold is the subject of the bounds
proofs. -/
namespace SnakePosix

/-! ## `map_template.h` -/

structure MapTemplate where
  walls : Coordinates → Bool
  width : Nat
  height : Nat

def mapTemplateInit (self : MapTemplate) (width height : Nat) : MapTemplate :=
  (cells width height).foldl
    (fun template cell => { template with
      walls := fun c => if c = cell then false else template.walls c })
    { self with width, height }

def mapTemplateHasWall (self : MapTemplate) (coordinates : Coordinates) : Bool :=
  self.walls coordinates

def mapTemplateSetWall (self : MapTemplate) (coordinates : Coordinates) : MapTemplate :=
  { self with walls := fun c => if c = coordinates then true else self.walls c }

def mapTemplateGetWidth (self : MapTemplate) : Nat := self.width

def mapTemplateGetHeight (self : MapTemplate) : Nat := self.height

/-! ## `map.h` -/

/-- `map_tile_type_t`, with the unnamed value `5 + k` as `undeclared k`. -/
inductive MapTileType where
  | empty
  | player
  | fruit
  | wall
  | dead
  | undeclared (excess : Nat)
  deriving DecidableEq, Repr

structure MapTile where
  order : Nat
  type : MapTileType
  player : Nat
  deriving DecidableEq, Repr

structure Map where
  tiles : Coordinates → MapTile
  width : Nat
  height : Nat

/-- The coordinates the game plays on. -/
def Map.InBounds (self : Map) (coordinates : Coordinates) : Prop :=
  coordinates.InGrid self.width self.height

instance (self : Map) : DecidablePred self.InBounds :=
  fun coordinates => inferInstanceAs (Decidable (coordinates.InGrid self.width self.height))

def mapGetWidth (self : Map) : Nat := self.width

def mapGetHeight (self : Map) : Nat := self.height

def mapGetTileState (self : Map) (coordinates : Coordinates) : MapTile :=
  self.tiles coordinates

def mapSetTileState (self : Map) (coordinates : Coordinates) (tile : MapTile) : Map :=
  { self with tiles := fun c => if c = coordinates then tile else self.tiles c }

def mapIsTileEmpty (self : Map) (coordinates : Coordinates) : Bool :=
  (self.tiles coordinates).type == .empty

def mapIsTileDead (self : Map) (coordinates : Coordinates) : Bool :=
  (self.tiles coordinates).type == .dead

/-- The write every `map_set_tile_*` makes: the type changes, order and player stay. -/
def mapSetTileType (self : Map) (coordinates : Coordinates) (type : MapTileType) : Map :=
  mapSetTileState self coordinates { self.tiles coordinates with type }

def mapSetTileEmpty (self : Map) (coordinates : Coordinates) : Map :=
  mapSetTileType self coordinates .empty

def mapSetTilePlayer (self : Map) (coordinates : Coordinates) (player order : Nat) : Map :=
  mapSetTileState self coordinates { order, type := .player, player }

def mapSetTileFruit (self : Map) (coordinates : Coordinates) : Map :=
  mapSetTileType self coordinates .fruit

def mapSetTileDead (self : Map) (coordinates : Coordinates) : Map :=
  mapSetTileType self coordinates .dead

def mapInit (self : Map) (width height : Nat) : Map :=
  (cells width height).foldl mapSetTileEmpty { self with width, height }

def mapInitFromTemplate (self : Map) (template : MapTemplate) : Map :=
  let width := mapTemplateGetWidth template
  let height := mapTemplateGetHeight template
  (cells width height).foldl
    (fun map cell => mapSetTileState map cell
      { order := 0, type := if mapTemplateHasWall template cell then .wall else .empty, player := 0 })
    { self with width, height }

/-! ## Movement on the torus -/

/-- Any direction that is neither up, down nor left moves right, as the code's
last branch does. -/
def mapMoveInDirection (self : Map) (coordinates : Coordinates) (direction : Direction) :
    Coordinates :=
  if direction = .up ∨ direction = .down then
    let height := mapGetHeight self
    if direction = .up then
      { coordinates with
        row := if coordinates.row = 0 then dec32 height else dec32 coordinates.row }
    else
      { coordinates with
        row := if coordinates.row = dec32 height then 0 else inc32 coordinates.row }
  else
    let width := mapGetWidth self
    if direction = .left then
      { coordinates with
        column := if coordinates.column = 0 then dec32 width else dec32 coordinates.column }
    else
      { coordinates with
        column := if coordinates.column = dec32 width then 0 else inc32 coordinates.column }

/-- The order in which the code looks around a cell. -/
def neighborDirections : List Direction := [.up, .down, .left, .right]

/-! ## Searches -/

/-- Depth-first removal of one player's connected tiles. The recursion depth is
explicit; `none` is a call that has not come back within it. -/
def mapMarkPlayerAsDead : Nat → Map → Nat → Coordinates → Option Map
  | 0, _, _, _ => none
  | depth + 1, self, player, start =>
    let tile := self.tiles start
    if tile.type ≠ .player ∨ tile.player ≠ player then some self
    else do
      let self := mapSetTileDead self start
      let self ← mapMarkPlayerAsDead depth self player (mapMoveInDirection self start .up)
      let self ← mapMarkPlayerAsDead depth self player (mapMoveInDirection self start .down)
      let self ← mapMarkPlayerAsDead depth self player (mapMoveInDirection self start .left)
      mapMarkPlayerAsDead depth self player (mapMoveInDirection self start .right)

/-- `MAP_ASSIGN_BETTER_TILE`: the neighbor replaces the best one so far when it
is the player's and has a strictly lower order. -/
def mapAssignBetterTile (self : Map) (player : Nat) (coordinates : Coordinates)
    (best : Option Coordinates) (direction : Direction) : Option Coordinates :=
  let candidate := mapMoveInDirection self coordinates direction
  let tile := self.tiles candidate
  if tile.type = .player ∧ tile.player = player ∧
      (best.all fun c => (self.tiles c).order > tile.order) then some candidate
  else best

def mapFindPlayerNeighborWithLowestOrder (self : Map) (player : Nat) (coordinates : Coordinates) :
    Option Coordinates :=
  neighborDirections.foldl (mapAssignBetterTile self player coordinates) none

def mapFindEmptyNeighbor (self : Map) (coordinates : Coordinates) :
    Option (Coordinates × Direction) :=
  neighborDirections.findSome? fun direction =>
    let candidate := mapMoveInDirection self coordinates direction
    if (self.tiles candidate).type = .empty then some (candidate, direction) else none

/-- The four swaps of two random positions that shuffle the directions. -/
def shuffleDirections (directions : List Direction) : Nat → Rng → List Direction × Rng
  | 0, rng => (directions, rng)
  | swaps + 1, rng =>
    let (source, rng) := rngUniformDist 0 4 rng
    let (target, rng) := rngUniformDist 0 4 rng
    let temp := directions.getD source .up
    shuffleDirections ((directions.set source (directions.getD target .up)).set target temp)
      swaps rng

/-- What a search carries besides the map: the visited cells by index, and the
generator. -/
structure MapSearchData where
  visited : Nat → Bool
  rng : Rng

/-- Depth-first search in random order for a tile matching the predicate, with
explicit recursion depth. The first recursive call that finds a tile ends the
loop over the shuffled directions. -/
def mapFindRandomMatchingPredicateSearch (map : Map) (predicate : Map → Coordinates → Bool) :
    Nat → Coordinates → MapSearchData → Option (Option Coordinates × MapSearchData)
  | 0, _, _ => none
  | depth + 1, coordinates, data =>
    let index := wrap32 (wrap32 (map.width * coordinates.row) + coordinates.column)
    if data.visited index then some (none, data)
    else if predicate map coordinates then some (some coordinates, data)
    else
      let visited := fun i => if i = index then true else data.visited i
      let (directions, rng) := shuffleDirections [.up, .down, .left, .right] 4 data.rng
      Exploration.firstHit (mapFindRandomMatchingPredicateSearch map predicate depth)
        (directions.map (mapMoveInDirection map coordinates)) { visited, rng }

/-- A call on every cell is as deep as either recursion can get. -/
def Map.searchDepth (self : Map) : Nat := self.width * self.height + 1

def mapFindRandomMatchingPredicate (self : Map) (predicate : Map → Coordinates → Bool) (rng : Rng) :
    Option (Option Coordinates × Rng) := do
  let (row, rng) := rngUniformDist 0 self.height rng
  let (column, rng) := rngUniformDist 0 self.width rng
  let (found, data) ← mapFindRandomMatchingPredicateSearch self predicate self.searchDepth
    { row, column } { visited := fun _ => false, rng }
  some (found, data.rng)

/-! ## The array of visited cells -/

/-- A search's data with `visited` as the array it is. -/
structure MapSearchArrayData where
  visited : List Bool
  rng : Rng

/-- The search on the array: `none` is also an index the array does not hold. -/
def mapFindRandomMatchingPredicateSearchArray (map : Map) (predicate : Map → Coordinates → Bool) :
    Nat → Coordinates → MapSearchArrayData → Option (Option Coordinates × MapSearchArrayData)
  | 0, _, _ => none
  | depth + 1, coordinates, data => do
    let index := wrap32 (wrap32 (map.width * coordinates.row) + coordinates.column)
    let seen ← data.visited[index]?
    if seen then some (none, data)
    else if predicate map coordinates then some (some coordinates, data)
    else
      let visited := data.visited.set index true
      let (directions, rng) := shuffleDirections [.up, .down, .left, .right] 4 data.rng
      Exploration.firstHit (mapFindRandomMatchingPredicateSearchArray map predicate depth)
        (directions.map (mapMoveInDirection map coordinates)) { visited, rng }

/-- The array is as long as `calloc` is asked to make it. -/
def mapFindRandomMatchingPredicateArray (self : Map) (predicate : Map → Coordinates → Bool) (rng : Rng) :
    Option (Option Coordinates × Rng) := do
  let visited := List.replicate (wrap32 (self.width * self.height)) false
  let (row, rng) := rngUniformDist 0 self.height rng
  let (column, rng) := rngUniformDist 0 self.width rng
  let (found, data) ← mapFindRandomMatchingPredicateSearchArray self predicate self.searchDepth
    { row, column } { visited, rng }
  some (found, data.rng)

end SnakePosix
