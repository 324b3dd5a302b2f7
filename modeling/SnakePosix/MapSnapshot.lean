import SnakePosix.MapProofs
import SnakePosix.SocketRoundTrip

/-! A map sent as a snapshot arrives as it was. The sender walks rows and columns
with one running index, the receiver clears the cells and then walks them the same
way, so each index is read back at the cell it was written for, whatever the
receiving map held. -/
namespace SnakePosix.MapSnapshot
open MapProofs SocketRoundTrip Torus

variable {map target : Map} {list : List Coordinates}

/-! ## The two loops of the receiver -/

theorem clears_of_cells (list : List Coordinates) (map : Map) (inside : ∀ c ∈ list, c.InArrays) :
    list.foldlM (mapTilesWrite mapSetTileEmpty) map = some (list.foldl mapSetTileEmpty map) := by
  induction list generalizing map with
  | nil => rfl
  | cons c rest ih =>
    rw [List.foldlM_cons, List.foldl_cons]
    simp only [mapTilesWrite, if_pos (inside c List.mem_cons_self), Option.bind_eq_bind, Option.bind_some]
    exact ih _ fun c member => inside c (List.mem_cons_of_mem _ member)

theorem clears_size (list : List Coordinates) (map : Map) :
    SameSize (list.foldl mapSetTileEmpty map) map := by
  induction list generalizing map with
  | nil => exact ⟨rfl, rfl⟩
  | cons c rest ih => exact ih (mapSetTileEmpty map c)

/-- Cells written from an array that holds their tiles in order. -/
theorem writes_of_tiles (list : List Coordinates) (tile : Coordinates → MapTile) (tiles : List MapTile)
    (start : Nat) (map : Map) (inside : ∀ c ∈ list, c.InArrays)
    (brought : ∀ i c, list[i]? = some c → tiles[start + i]? = some (tile c)) :
    (list.zipIdx start).foldlM (fun map (visit : Coordinates × Nat) => do
        let tile ← tiles[visit.2]?
        mapTilesWrite (mapSetTileState · · tile) map visit.1) map =
      some (list.foldl (fun map cell => mapSetTileState map cell (tile cell)) map) := by
  induction list generalizing start map with
  | nil => rfl
  | cons c rest ih =>
    have here := brought 0 c rfl
    rw [Nat.add_zero] at here
    rw [List.zipIdx_cons, List.foldlM_cons, List.foldl_cons]
    simp only [here, Option.bind_eq_bind, Option.bind_some, mapTilesWrite, if_pos (inside c List.mem_cons_self)]
    refine ih (start + 1) _ (fun c member => inside c (List.mem_cons_of_mem _ member)) fun i c' position => ?_
    have later := brought (i + 1) c' (by simpa using position)
    rwa [show start + 1 + i = start + (i + 1) by omega]

/-- The sender's array has the tile of each cell at that cell's place in the order
of the loops. -/
private theorem tiles_brought (map : Map) (list : List Coordinates) :
    ∀ i c, list[i]? = some c → (list.map (mapGetTileState map))[0 + i]? = some (mapGetTileState map c) := by
  intro i c position
  rw [Nat.zero_add, List.getElem?_map, position]
  rfl

/-! ## A whole snapshot -/

/-- The receiving map takes the sender's size and tiles. -/
theorem deserializeToMap_initMap (map target : Map) (width : map.width ≤ maxMapWidth)
    (height : map.height ≤ maxMapHeight) :
    ∃ copy, socketMessageDeserializeToMap (socketMessageInitMap map) target = some copy ∧
      SameSize copy map ∧ ∀ c, map.InBounds c → copy.tiles c = map.tiles c := by
  have inside : ∀ c ∈ cells map.width map.height, c.InArrays := fun c member =>
    ⟨Nat.lt_of_lt_of_le (mem_cells.mp member).1 height, Nat.lt_of_lt_of_le (mem_cells.mp member).2 width⟩
  have size := clears_size (cells map.width map.height) { target with width := map.width, height := map.height }
  have cleared := clears_of_cells _ { target with width := map.width, height := map.height } inside
  generalize (cells map.width map.height).foldl mapSetTileEmpty
    { target with width := map.width, height := map.height } = blank at size cleared
  have written := writes_of_tiles _ (mapGetTileState map) _ 0 blank inside (tiles_brought map _)
  have final := foldl_writes (mapGetTileState map) (cells map.width map.height) blank
  simp only [Option.bind_eq_bind] at written
  refine ⟨_, ?_, final.1.trans size, fun c member => ?_⟩
  · simp only [socketMessageInitMap, socketMessageDeserializeToMap, mapGetWidth, mapGetHeight, cleared,
      Option.bind_eq_bind, Option.bind_some, written]
  · exact (final.2 c).trans (if_pos (mem_cells.mpr member))

/-- The snapshot of a map, read off the socket and applied to any other map, makes
it a copy: the bytes after the snapshot are left for the next message. -/
theorem snapshot_arrives (width : map.width ≤ maxMapWidth) (height : map.height ≤ maxMapHeight)
    (tiles : ∀ c, map.InBounds c → TileInRange (mapGetTileState map c)) (target : Map) (rest : List UInt8) :
    ∃ message copy,
      socketMessageDeserializeFromSocket (socketMessageSerialize (socketMessageInitMap map) ++ rest) =
        some (message, rest) ∧
      socketMessageDeserializeToMap message target = some copy ∧
      mapGetWidth copy = mapGetWidth map ∧ mapGetHeight copy = mapGetHeight map ∧
      ∀ c, copy.InBounds c → mapGetTileState copy c = mapGetTileState map c := by
  obtain ⟨copy, applied, size, same⟩ := deserializeToMap_initMap map target width height
  refine ⟨_, copy, deserialize_serialize (.map width height tiles) rest, applied, size.1, size.2, ?_⟩
  intro c inside
  unfold Map.InBounds at inside
  rw [size.1, size.2] at inside
  exact same c inside

/-- A map of two rows and three columns, each tile different. -/
def twoByThree : Map where
  tiles := fun c => { order := 2 ^ 63 + c.row, type := .player, player := 65535 - c.column }
  width := 3
  height := 2

/-- It replaces a larger map. -/
theorem snapshot_arrives_twoByThree :
    ∃ message copy,
      socketMessageDeserializeFromSocket (socketMessageSerialize (socketMessageInitMap twoByThree) ++ [7]) =
        some (message, [7]) ∧
      socketMessageDeserializeToMap message
          { tiles := fun _ => { order := 1, type := .wall, player := 0 }, width := 100, height := 50 } = some copy ∧
      mapGetWidth copy = 3 ∧ mapGetHeight copy = 2 ∧
      ∀ c, copy.InBounds c → mapGetTileState copy c = mapGetTileState twoByThree c := by
  refine @snapshot_arrives twoByThree (by decide) (by decide) (fun c inside => ⟨?_, ?_, trivial⟩) _ [7]
  · have row : c.row < 2 := inside.1
    change 2 ^ 63 + c.row < 2 ^ 64
    omega
  · change 65535 - c.column < 2 ^ 16
    omega

end SnakePosix.MapSnapshot
