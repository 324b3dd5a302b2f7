import SnakePosix.AdmittedSettings
import SnakePosix.DigitStrings
import SnakePosix.MapProofs

/-! Map files. The loader reads two numbers and then one mark for every cell, row
by row; blanks only separate. It looks at no result of `fscanf`, so what is
missing from a file is taken from the memory of its locals. -/
namespace SnakePosix.MapFiles
open Marks DigitStrings AdmittedSettings MapProofs Torus

variable {environment : Environment} {filePath input rest : CString} {width height : Nat} {c : Coordinates}

/-! ## The grid row by row -/

theorem cells_eq_map (width height : Nat) :
    cells width height = (List.range (height * width)).map fun k => ⟨k / width, k % width⟩ := by
  induction height with
  | zero => simp [cells]
  | succ height ih =>
    have row : ((List.range width).map fun j => height * width + j).map
        (fun k => (⟨k / width, k % width⟩ : Coordinates)) = (List.range width).map fun j => ⟨height, j⟩ := by
      rw [List.map_map]
      refine List.map_congr_left fun j member => ?_
      have within := List.mem_range.mp member
      have positive : 0 < width := Nat.zero_lt_of_lt within
      simp only [Function.comp_apply, Coordinates.mk.injEq]
      refine ⟨?_, ?_⟩
      · rw [Nat.mul_comm, Nat.mul_add_div positive, Nat.div_eq_of_lt within, Nat.add_zero]
      · rw [Nat.mul_comm, Nat.mul_add_mod, Nat.mod_eq_of_lt within]
    rw [Nat.succ_mul, List.range_add, List.map_append, row, ← ih]
    simp [cells, List.range_succ]

private theorem place_lt (inside : c.InGrid width height) : c.row * width + c.column < width * height := calc
  c.row * width + c.column < c.row * width + width := Nat.add_lt_add_left inside.2 _
  _ = (c.row + 1) * width := (Nat.succ_mul _ _).symm
  _ ≤ height * width := Nat.mul_le_mul_right width inside.1
  _ = width * height := Nat.mul_comm _ _

/-- A cell's place in the loop over the grid. -/
theorem cells_getElem? (k : Nat) (c : Coordinates) :
    (cells width height)[k]? = some c ↔ c.InGrid width height ∧ k = c.row * width + c.column := by
  rw [cells_eq_map, List.getElem?_map, Option.map_eq_some_iff]
  constructor
  · rintro ⟨place, found, rfl⟩
    obtain ⟨within, rfl⟩ := List.getElem?_eq_some_iff.mp found
    rw [List.length_range] at within
    have positive : 0 < width := Nat.pos_of_lt_mul_left within
    rw [List.getElem_range, Coordinates.InGrid, Nat.div_lt_iff_lt_mul positive]
    exact ⟨⟨within, Nat.mod_lt k positive⟩, (Nat.div_add_mod' k width).symm⟩
  · rintro ⟨inside, rfl⟩
    have positive : 0 < width := Nat.zero_lt_of_lt inside.2
    refine ⟨_, List.getElem?_range (Nat.mul_comm height width ▸ place_lt inside), ?_⟩
    rw [Nat.mul_comm, Nat.mul_add_div positive, Nat.mul_add_mod, Nat.div_eq_of_lt inside.2,
      Nat.mod_eq_of_lt inside.2, Nat.add_zero]

/-! ## The loop over the cells -/

/-- What a cell's mark does; a cell without one has what the variable holds. -/
def setTile (environment : Environment) (template : MapTemplate) (cell : Coordinates) (mark : Option Char) :
    MapTemplate :=
  if mark.getD (environment.character cell) = '#' then mapTemplateSetWall template cell else template

theorem loadTiles_takeEach (environment : Environment) (template : MapTemplate) (list : List Coordinates)
    (text : CString) :
    list.foldl (loadTile environment) (template, text) =
      takeEach isSpace (setTile environment) list template text := by
  have step : ∀ (loaded : MapTemplate × CString) cell, loadTile environment loaded cell =
      (setTile environment loaded.1 cell (take isSpace loaded.2).1, (take isSpace loaded.2).2) := by
    rintro ⟨template, text⟩ cell
    cases text with
    | nil => rfl
    | cons c rest => rfl
  unfold takeEach
  induction list generalizing template text with
  | nil => rfl
  | cons cell rest ih =>
    rw [List.foldl_cons, step]
    exact ih _ _

theorem feed_walls (environment : Environment) (list : List Coordinates) (template : MapTemplate) (marks : CString)
    (c : Coordinates) :
    (feed (setTile environment) list template marks).walls c = true ↔
      template.walls c = true ∨
        ∃ k : Nat, list[k]? = some c ∧ (marks[k]?).getD (environment.character c) = '#' := by
  induction list generalizing template marks with
  | nil => simp [feed]
  | cons cell rest ih =>
    have head : (setTile environment template cell marks.head?).walls c = true ↔
        template.walls c = true ∨ cell = c ∧ marks.head?.getD (environment.character c) = '#' := by
      unfold setTile
      split
      · rename_i wall
        by_cases here : c = cell
        · subst here
          simp [mapTemplateSetWall, wall]
        · simp [mapTemplateSetWall, here, Ne.symm here]
      · rename_i clear
        refine (or_iff_left ?_).symm
        rintro ⟨rfl, wall⟩
        exact clear wall
    rw [feed, ih, head, or_assoc]
    refine or_congr_right ⟨?_, ?_⟩
    · rintro (⟨rfl, wall⟩ | ⟨k, found, wall⟩)
      · exact ⟨0, rfl, by rwa [← List.head?_eq_getElem?]⟩
      · exact ⟨k + 1, found, by rwa [List.getElem?_tail] at wall⟩
    · rintro ⟨k, found, wall⟩
      cases k with
      | zero => exact Or.inl ⟨Option.some.inj found, by rwa [List.head?_eq_getElem?]⟩
      | succ k => exact Or.inr ⟨k, found, by rwa [List.getElem?_tail]⟩

theorem mapTemplateInit_walls (self : MapTemplate) (inside : c.InGrid width height) :
    (mapTemplateInit self width height).walls c = false := by
  have cleared : ∀ (list : List Coordinates) (template : MapTemplate), c ∈ list ∨ template.walls c = false →
      (list.foldl (fun template cell => { template with
        walls := fun c => if c = cell then false else template.walls c }) template).walls c = false := by
    intro list
    induction list with
    | nil => exact fun template either => either.resolve_left nofun
    | cons cell rest ih =>
      intro template either
      refine ih _ ?_
      by_cases here : c = cell
      · exact Or.inr (if_pos here)
      · rw [List.mem_cons, or_assoc] at either
        exact (either.resolve_left here).imp_right fun clear => (if_neg here).trans clear
  exact cleared _ _ (Or.inl (mem_cells.mpr inside))

/-! ## The loader -/

/-- The cell's wall is what the mark at its place says. -/
def WallsFollow (environment : Environment) (marks : CString) (template : MapTemplate) : Prop :=
  ∀ c, c.InGrid template.width template.height →
    (template.walls c = true ↔ (marks[c.row * template.width + c.column]?).getD (environment.character c) = '#')

theorem feed_wallsFollow (environment : Environment) (marks : CString) (width height : Nat) :
    let template := feed (setTile environment) (cells width height)
      (mapTemplateInit environment.template width height) marks
    ∀ c, c.InGrid width height →
      (template.walls c = true ↔ (marks[c.row * width + c.column]?).getD (environment.character c) = '#') := by
  intro template c inside
  refine (feed_walls environment _ _ marks c).trans ?_
  rw [mapTemplateInit_walls _ inside, or_iff_right Bool.false_ne_true]
  constructor
  · rintro ⟨k, found, wall⟩
    rwa [((cells_getElem? k c).mp found).2] at wall
  · exact fun wall => ⟨_, (cells_getElem? _ c).mpr ⟨inside, rfl⟩, wall⟩

/-- Dimensions outside the limits are refused, and any others lead to a template
of that size, with walls by the marks of what is left. -/
theorem mapLoaderLoadTemplateFromFile_spec (opened : environment.files filePath = some input)
    (scanned : scanDimensions environment input = ((width, height), rest)) :
    if InLimits width height then
      ∃ template, mapLoaderLoadTemplateFromFile environment filePath = .ok (.ok template) ∧
        template.width = width ∧ template.height = height ∧
        (Skipped isSpace rest → WallsFollow environment (marks isSpace rest) template)
    else ∃ message, mapLoaderLoadTemplateFromFile environment filePath = .ok (.error message) := by
  unfold mapLoaderLoadTemplateFromFile
  rw [opened]
  dsimp only
  rw [scanned]
  dsimp only
  split
  case isFalse outside =>
    split
    case isTrue => exact ⟨_, rfl⟩
    case isFalse large =>
      split
      case isTrue => exact ⟨_, rfl⟩
      case isFalse small =>
        simp only [not_or, not_lt] at large small
        exact absurd ⟨large.1, small.1, large.2, small.2⟩ outside
  case isTrue inside =>
    obtain ⟨minWidth, maxWidth, minHeight, maxHeight⟩ := inside
    rw [if_neg (by omega), if_neg (by omega)]
    simp only [mapLoaderCreateEmptyTemplate, requireInArrays_within maxWidth maxHeight, bind, Except.bind]
    have size := loadTiles_size environment (cells width height)
      (mapTemplateInit environment.template width height, rest)
    have initial := mapTemplateInit_size environment.template width height
    refine ⟨_, rfl, size.1.trans initial.1, size.2.trans initial.2, fun skipped => ?_⟩
    unfold WallsFollow
    rw [size.1, size.2, initial.1, initial.2, loadTiles_takeEach, takeEach_marks _ _ _ skipped]
    exact feed_wallsFollow environment (marks isSpace rest) width height

/-! ## Dimensions -/

/-- Both dimensions can be read, and the rest begins behind them. -/
def ReadsDimensions (environment : Environment) (input : CString) (width height : Nat) (rest : CString) : Prop :=
  ∃ behindWidth, scanUnsigned environment input = (some width, behindWidth) ∧
    scanUnsigned environment (skipSpaces behindWidth) = (some height, rest)

theorem scanDimensions_reads (reads : ReadsDimensions environment input width height rest) :
    scanDimensions environment input = ((width, height), skipSpaces rest) := by
  obtain ⟨behindWidth, first, second⟩ := reads
  unfold scanDimensions
  simp only [first, second]

/-- There is only one way to read them. -/
theorem readsDimensions_inv {read : Option Nat} {behindWidth : CString}
    (first : scanUnsigned environment input = (read, behindWidth))
    (reads : ReadsDimensions environment input width height rest) :
    read = some width ∧ scanUnsigned environment (skipSpaces behindWidth) = (some height, rest) := by
  obtain ⟨behind, found, second⟩ := reads
  rw [first] at found
  cases found
  exact ⟨rfl, second⟩

/-! ## Well-formed files -/

/-- A map file: the two numbers, and a mark for every cell somewhere behind them. -/
structure MapFile where
  width : Nat
  height : Nat
  limits : InLimits width height
  widthDigits : CString
  heightDigits : CString
  digits : AllDigits widthDigits ∧ AllDigits heightDigits
  values : digitsValue 10 widthDigits = width ∧ digitsValue 10 heightDigits = height
  widthGap : CString
  heightGap : CString
  gaps : widthGap ≠ [] ∧ heightGap ≠ []
  blanks : (∀ c ∈ widthGap, isSpace c = true) ∧ ∀ c ∈ heightGap, isSpace c = true
  body : CString
  full : width * height ≤ (marks isSpace body).length

def MapFile.content (self : MapFile) : CString :=
  self.widthDigits ++ (self.widthGap ++ (self.heightDigits ++ (self.heightGap ++ self.body)))

def MapFile.marks (self : MapFile) : CString := Marks.marks isSpace self.body

theorem scanUnsigned_digits {digits : CString} (environment : Environment) (all : AllDigits digits)
    (nonempty : digits ≠ []) (stop : ∀ c ∈ rest.head?, isDigit c = false) (small : digitsValue 10 digits < 2 ^ 32) :
    scanUnsigned environment (digits ++ rest) = (some (digitsValue 10 digits), rest) := by
  have fits : digitsValue 10 digits < 2 ^ 64 ∧ digitsValue 10 digits < 2 ^ 32 := ⟨by omega, small⟩
  unfold scanUnsigned
  simp only [skipSpaces_digits all nonempty, spanSign_digits all nonempty, spanDigits_append all stop]
  rw [if_neg nonempty]
  simp only [Bool.false_eq_true, if_false, if_pos fits]

private theorem gap_stops {gap : CString} (nonempty : gap ≠ []) (blanks : ∀ c ∈ gap, isSpace c = true) (rest : CString) :
    ∀ c ∈ (gap ++ rest).head?, isDigit c = false := by
  intro c head
  cases gap with
  | nil => exact absurd rfl nonempty
  | cons first gap =>
    obtain rfl := Option.some.inj head
    refine Bool.eq_false_iff.mpr fun digit => ?_
    have blank := blanks first List.mem_cons_self
    rw [isSpace_of_isDigit digit] at blank
    cases blank

private theorem digits_nonempty {digits : CString} (positive : 0 < digitsValue 10 digits) : digits ≠ [] := by
  rintro rfl
  cases positive

/-- The loader finds a map file's dimensions. -/
theorem mapFile_reads (environment : Environment) (file : MapFile) :
    ReadsDimensions environment file.content file.width file.height (file.heightGap ++ file.body) := by
  obtain ⟨width, height, limits, widthDigits, heightDigits, digits, values, widthGap, heightGap, gaps, blanks, body,
    full⟩ := file
  obtain ⟨rfl, rfl⟩ := values
  obtain ⟨minWidth, maxWidth, minHeight, maxHeight⟩ := limits
  unfold minMapWidth at minWidth
  unfold maxMapWidth at maxWidth
  unfold minMapHeight at minHeight
  unfold maxMapHeight at maxHeight
  have someHeight : heightDigits ≠ [] := digits_nonempty (by omega)
  have atHeight : skipSpaces (widthGap ++ (heightDigits ++ (heightGap ++ body))) =
      heightDigits ++ (heightGap ++ body) :=
    (skip_append blanks.1 _).trans (skipSpaces_digits digits.2 someHeight _)
  have readWidth := scanUnsigned_digits environment digits.1 (digits_nonempty (by omega))
    (gap_stops gaps.1 blanks.1 (heightDigits ++ (heightGap ++ body))) (by omega)
  refine ⟨_, readWidth, ?_⟩
  rw [atHeight]
  exact scanUnsigned_digits environment digits.2 someHeight (gap_stops gaps.2 blanks.2 body) (by omega)

/-- It then stands at the first mark. -/
theorem scanDimensions_mapFile (environment : Environment) (file : MapFile) :
    scanDimensions environment file.content = ((file.width, file.height), skip isSpace file.body) :=
  (scanDimensions_reads (mapFile_reads environment file)).trans
    (congrArg (Prod.mk _) (skip_append file.blanks.2 file.body))

/-- The tile of a new map where a map file has that mark. -/
def markTile (mark : Option Char) : MapTile :=
  { order := 0, type := if mark = some '#' then .wall else .empty, player := 0 }

/-- The map of a map file, as far as its grid goes. -/
structure Depicts (file : MapFile) (map : Map) : Prop where
  width : map.width = file.width
  height : map.height = file.height
  tiles : ∀ c, c.InGrid file.width file.height → map.tiles c = markTile file.marks[c.row * file.width + c.column]?

theorem mapFile_depicts (file : MapFile) (opened : environment.files filePath = some file.content) (map : Map) :
    ∃ template, mapLoaderLoadTemplateFromFile environment filePath = .ok (.ok template) ∧
      Depicts file (mapInitFromTemplate map template) := by
  have spec := mapLoaderLoadTemplateFromFile_spec opened (scanDimensions_mapFile environment file)
  rw [if_pos file.limits] at spec
  obtain ⟨template, loaded, sameWidth, sameHeight, walls⟩ := spec
  have walls := walls (skip_skipped isSpace file.body)
  rw [marks_skip] at walls
  obtain ⟨width, height⟩ := mapInitFromTemplate_size map template
  refine ⟨template, loaded, width.trans sameWidth, height.trans sameHeight, fun c inside => ?_⟩
  have place : c.row * file.width + c.column < file.marks.length := Nat.lt_of_lt_of_le (place_lt inside) file.full
  rw [← sameWidth, ← sameHeight] at inside
  have wall := walls c inside
  rw [sameWidth] at wall
  change template.walls c = true ↔ (file.marks[c.row * file.width + c.column]?).getD _ = '#' at wall
  rw [mapInitFromTemplate_tiles map template inside]
  simp only [markTile, wall, List.getElem?_eq_getElem place, Option.getD_some, Option.some.injEq]

/-- A well-formed map file loads exactly, whatever the memory held, and another one
with the same marks loads the same way however its rows are laid out. -/
theorem mapFile_loads (file : MapFile) (opened : environment.files filePath = some file.content) (map : Map) :
    ∃ template, mapLoaderLoadTemplateFromFile environment filePath = .ok (.ok template) ∧
      (mapInitFromTemplate map template).width = file.width ∧
      (mapInitFromTemplate map template).height = file.height ∧
      (∀ i < file.height, ∀ j < file.width, ((mapInitFromTemplate map template).tiles ⟨i, j⟩).type =
        if file.marks[i * file.width + j]? = some '#' then .wall else .empty) ∧
      ∀ (file' : MapFile) (filePath' : CString) (map' : Map), environment.files filePath' = some file'.content →
        file'.width = file.width → file'.height = file.height → file'.marks = file.marks →
        ∃ template', mapLoaderLoadTemplateFromFile environment filePath' = .ok (.ok template') ∧
          ∀ i < file.height, ∀ j < file.width,
            (mapInitFromTemplate map' template').tiles ⟨i, j⟩ = (mapInitFromTemplate map template).tiles ⟨i, j⟩ := by
  obtain ⟨template, loaded, depicts⟩ := mapFile_depicts file opened map
  refine ⟨template, loaded, depicts.width, depicts.height, fun i row j column => ?_, ?_⟩
  · rw [depicts.tiles ⟨i, j⟩ ⟨row, column⟩]
    rfl
  · intro file' filePath' map' opened' width height marks
    obtain ⟨template', loaded', depicts'⟩ := mapFile_depicts file' opened' map'
    refine ⟨template', loaded', fun i row j column => ?_⟩
    rw [depicts'.tiles ⟨i, j⟩ ⟨height.symm ▸ row, width.symm ▸ column⟩, depicts.tiles ⟨i, j⟩ ⟨row, column⟩,
      marks, width]

/-- Eleven by ten cells with walls on the diagonal, in rows or in one line. -/
def diagonal (space : CString)
    (full : 110 ≤ (marks isSpace (List.replicate 10 ('#' :: '.' :: (space ++ List.replicate 10 '.'))).flatten).length) :
    MapFile where
  width := 11
  height := 10
  limits := by decide
  widthDigits := "011".toList
  heightDigits := "10".toList
  digits := by decide +kernel
  values := by decide +kernel
  widthGap := "  ".toList
  heightGap := "\n".toList
  gaps := by decide +kernel
  blanks := ⟨List.all_eq_true.mp rfl, List.all_eq_true.mp rfl⟩
  body := (List.replicate 10 ('#' :: '.' :: (space ++ List.replicate 10 '.'))).flatten
  full := full

def diagonalRows : MapFile := diagonal "\r\n".toList (by decide +kernel)

def diagonalLine : MapFile := diagonal [] (by decide +kernel)

def diagonalEnvironment : Environment :=
  { bareEnvironment with
    files := fun path =>
      if path = "rows".toList then some diagonalRows.content
      else if path = "line".toList then some diagonalLine.content
      else none }

private theorem diagonal_opens : diagonalEnvironment.files "rows".toList = some diagonalRows.content ∧
    diagonalEnvironment.files "line".toList = some diagonalLine.content := ⟨rfl, rfl⟩

private theorem diagonal_marks : diagonalLine.marks = diagonalRows.marks ∧ diagonalRows.marks[3 * 11 + 3]? = some '#' ∧
    diagonalRows.marks[3 * 11 + 4]? = some '.' := by decide +kernel

theorem mapFile_loads_diagonal : ∃ rows line,
    mapLoaderLoadTemplateFromFile diagonalEnvironment "rows".toList = .ok (.ok rows) ∧
      mapLoaderLoadTemplateFromFile diagonalEnvironment "line".toList = .ok (.ok line) ∧
      ((mapInitFromTemplate bareEnvironment.map rows).tiles ⟨3, 3⟩).type = .wall ∧
      ((mapInitFromTemplate bareEnvironment.map line).tiles ⟨3, 3⟩).type = .wall ∧
      ((mapInitFromTemplate bareEnvironment.map rows).tiles ⟨3, 4⟩).type = .empty := by
  obtain ⟨rows, loaded, -, -, tiles, reflow⟩ := mapFile_loads diagonalRows diagonal_opens.1 bareEnvironment.map
  obtain ⟨line, loaded', same⟩ := reflow diagonalLine _ bareEnvironment.map diagonal_opens.2 rfl rfl diagonal_marks.1
  have wall := (tiles 3 (by decide) 3 (by decide)).trans (if_pos diagonal_marks.2.1)
  have clear := (tiles 3 (by decide) 4 (by decide)).trans (if_neg fun mark =>
    absurd (diagonal_marks.2.2.symm.trans mark) (by decide))
  refine ⟨rows, line, loaded, loaded', wall, ?_, clear⟩
  rw [same 3 (by decide) 3 (by decide)]
  exact wall

/-! ## Malformed files -/

/-- What the loader's locals hold where nothing has been read into them. -/
structure Locals where
  width : Nat
  height : Nat
  character : Coordinates → Char
  fits : width < 2 ^ 32 ∧ height < 2 ^ 32

def Environment.withLocals (environment : Environment) (locals : Locals) : Environment :=
  { environment with width := locals.width, height := locals.height, character := locals.character }

/-- The loader's result. -/
def load (environment : Environment) (filePath : CString) (locals : Locals) :
    Except OutOfArrays (Except CString MapTemplate) :=
  mapLoaderLoadTemplateFromFile (Environment.withLocals environment locals) filePath

/-- The result is `NULL`. -/
def Refused (result : Except OutOfArrays (Except CString MapTemplate)) : Prop :=
  ∃ message, result = .ok (.error message)

/-- Two results that look the same: both are `NULL`, or they are templates of one
size with the same walls in it. -/
inductive Alike : Except OutOfArrays (Except CString MapTemplate) →
    Except OutOfArrays (Except CString MapTemplate) → Prop where
  | refused : Alike (.ok (.error message)) (.ok (.error message'))
  | loaded (width : template.width = template'.width) (height : template.height = template'.height)
    (walls : ∀ c, c.InGrid template.width template.height → template.walls c = template'.walls c) :
    Alike (.ok (.ok template)) (.ok (.ok template'))

/-- A dimension cannot be read, or there are fewer marks than cells. -/
def Malformed (environment : Environment) (input : CString) : Prop :=
  ∀ width height rest, ReadsDimensions environment input width height rest →
    (marks isSpace rest).length < width * height

/-- The result depends on the file only, and a malformed file is refused. -/
structure ContentDecides (environment : Environment) (filePath input : CString) : Prop where
  alike : ∀ locals locals', Alike (load environment filePath locals) (load environment filePath locals')
  malformed : Malformed environment input → ∀ locals, Refused (load environment filePath locals)

/-- The file shows that its dimensions are outside the limits before one is
missing, or it has a mark for every cell. -/
def Complete (environment : Environment) (input : CString) : Prop :=
  (∃ width rest, scanUnsigned environment input = (some width, rest) ∧
      ¬ (minMapWidth ≤ width ∧ width ≤ maxMapWidth)) ∨
    ∃ width height rest, ReadsDimensions environment input width height rest ∧
      (InLimits width height → width * height ≤ (marks isSpace rest).length)

variable {locals : Locals}

theorem refused_iff (opened : environment.files filePath = some input)
    (scanned : scanDimensions (Environment.withLocals environment locals) input = ((width, height), rest)) :
    Refused (load environment filePath locals) ↔ ¬ InLimits width height := by
  have opened : (Environment.withLocals environment locals).files filePath = some input := opened
  have spec := mapLoaderLoadTemplateFromFile_spec opened scanned
  unfold Refused load
  split at spec
  · rename_i limits
    obtain ⟨template, loaded, -⟩ := spec
    rw [loaded]
    exact iff_of_false nofun (not_not_intro limits)
  · rename_i limits
    exact iff_of_true spec limits

/-! What the locals keep depends on how far the dimensions can be read. -/

private theorem scanUnsigned_withLocals (environment : Environment) (locals : Locals) :
    scanUnsigned (Environment.withLocals environment locals) = scanUnsigned environment := rfl

private theorem scan_nothing (first : scanUnsigned environment input = (none, rest)) (locals : Locals) :
    scanDimensions (Environment.withLocals environment locals) input = ((locals.width, locals.height), rest) := by
  unfold scanDimensions
  simp only [scanUnsigned_withLocals, first]
  rfl

private theorem scan_width {behindWidth : CString} (first : scanUnsigned environment input = (some width, behindWidth))
    (second : scanUnsigned environment (skipSpaces behindWidth) = (none, rest)) (locals : Locals) :
    scanDimensions (Environment.withLocals environment locals) input = ((width, locals.height), rest) := by
  unfold scanDimensions
  simp only [scanUnsigned_withLocals, first, second]
  rfl

private theorem scan_dimensions (reads : ReadsDimensions environment input width height rest) (locals : Locals) :
    scanDimensions (Environment.withLocals environment locals) input = ((width, height), skipSpaces rest) :=
  scanDimensions_reads reads

/-- A width that has been read is what the loader checks. -/
private theorem scan_first {behindWidth : CString} (first : scanUnsigned environment input = (some width, behindWidth))
    (locals : Locals) : ∃ height rest,
      scanDimensions (Environment.withLocals environment locals) input = ((width, height), rest) := by
  cases second : scanUnsigned environment (skipSpaces behindWidth) with
  | mk read rest =>
    cases read with
    | none => exact ⟨_, _, scan_width first second locals⟩
    | some height => exact ⟨_, _, scan_dimensions ⟨behindWidth, first, second⟩ locals⟩

private theorem decides_of_refused (refused : ∀ locals, Refused (load environment filePath locals)) :
    ContentDecides environment filePath input where
  alike := fun locals locals' => by
    obtain ⟨message, result⟩ := refused locals
    obtain ⟨message', result'⟩ := refused locals'
    rw [result, result']
    exact .refused
  malformed := fun _ => refused

/-- With a mark for every cell the template is the same for all locals. -/
private theorem decides_of_full (opened : environment.files filePath = some input)
    (reads : ReadsDimensions environment input width height rest) (limits : InLimits width height)
    (full : width * height ≤ (marks isSpace rest).length) : ContentDecides environment filePath input where
  alike := fun locals locals' => by
    have loads : ∀ locals : Locals, ∃ template, load environment filePath locals = .ok (.ok template) ∧
        template.width = width ∧ template.height = height ∧ ∀ c, c.InGrid width height →
          (template.walls c = true ↔ (marks isSpace rest)[c.row * width + c.column]? = some '#') := by
      intro locals
      have opened : (Environment.withLocals environment locals).files filePath = some input := opened
      have spec := mapLoaderLoadTemplateFromFile_spec opened (scan_dimensions reads locals)
      rw [if_pos limits] at spec
      obtain ⟨template, loaded, rfl, rfl, walls⟩ := spec
      have walls := walls (skip_skipped isSpace rest)
      refine ⟨template, loaded, rfl, rfl, fun c inside => (walls c inside).trans ?_⟩
      have place := Nat.lt_of_lt_of_le (place_lt inside) full
      change ((marks isSpace (skip isSpace rest))[c.row * template.width + c.column]?).getD _ = '#' ↔ _
      rw [marks_skip, List.getElem?_eq_getElem place, Option.getD_some, Option.some.injEq]
    obtain ⟨template, loaded, width, height, walls⟩ := loads locals
    obtain ⟨template', loaded', width', height', walls'⟩ := loads locals'
    rw [loaded, loaded']
    refine .loaded (width.trans width'.symm) (height.trans height'.symm) fun c inside => ?_
    rw [width, height] at inside
    exact Bool.eq_iff_iff.mpr ((walls c inside).trans (walls' c inside).symm)
  malformed := fun malformed => absurd full (Nat.not_le_of_lt (malformed _ _ _ reads))

/-! A file is malformed in one of three ways. -/

private theorem malformed_nothing (first : scanUnsigned environment input = (none, rest)) :
    Malformed environment input := by
  intro width height rest reads
  cases (readsDimensions_inv first reads).1

private theorem malformed_width {behindWidth : CString}
    (first : scanUnsigned environment input = (some width, behindWidth))
    (second : scanUnsigned environment (skipSpaces behindWidth) = (none, rest)) : Malformed environment input := by
  intro width height rest reads
  cases second.symm.trans (readsDimensions_inv first reads).2

private theorem malformed_few (reads : ReadsDimensions environment input width height rest)
    (few : (marks isSpace rest).length < width * height) : Malformed environment input := by
  obtain ⟨behindWidth, first, second⟩ := reads
  intro width height rest reads
  obtain ⟨same, found⟩ := readsDimensions_inv first reads
  cases same
  cases second.symm.trans found
  exact few

/-- A malformed file is not refused where the locals complete it. -/
private theorem undecided (opened : environment.files filePath = some input) (malformed : Malformed environment input)
    (scanned : scanDimensions (Environment.withLocals environment locals) input = ((width, height), rest))
    (limits : InLimits width height) : ¬ ContentDecides environment filePath input := fun decides =>
  (refused_iff opened scanned).mp (decides.malformed malformed locals) limits

/-- Locals that hold a map's smallest size. -/
def smallestLocals : Locals where
  width := minMapWidth
  height := minMapHeight
  character := fun _ => '#'
  fits := by decide

/-- A file's content decides on the result, and is refused if malformed, exactly if
it is complete: the loader does not notice that a number or a mark is missing. -/
theorem contentDecides_iff (opened : environment.files filePath = some input) :
    ContentDecides environment filePath input ↔ Complete environment input := by
  constructor
  · intro decides
    cases first : scanUnsigned environment input with
    | mk read behindWidth =>
      cases read with
      | none =>
        refine absurd decides ?_
        exact undecided opened (malformed_nothing first) (scan_nothing first smallestLocals) (by decide)
      | some width =>
        by_cases limits : minMapWidth ≤ width ∧ width ≤ maxMapWidth
        · cases second : scanUnsigned environment (skipSpaces behindWidth) with
          | mk read rest =>
            cases read with
            | none =>
              refine absurd decides ?_
              exact undecided opened (malformed_width first second) (scan_width first second smallestLocals)
                ⟨limits.1, limits.2, by decide⟩
            | some height =>
              have reads : ReadsDimensions environment input width height rest := ⟨behindWidth, first, second⟩
              refine Or.inr ⟨width, height, rest, reads, fun limits => Nat.le_of_not_lt fun few => ?_⟩
              exact undecided opened (malformed_few reads few) (scan_dimensions reads smallestLocals) limits decides
        · exact Or.inl ⟨width, behindWidth, first, limits⟩
  · rintro (⟨width, behindWidth, first, outside⟩ | ⟨width, height, rest, reads, full⟩)
    · refine decides_of_refused fun locals => ?_
      obtain ⟨height, rest, scanned⟩ := scan_first first locals
      exact (refused_iff opened scanned).mpr fun limits => outside ⟨limits.1, limits.2.1⟩
    · by_cases limits : InLimits width height
      · exact decides_of_full opened reads limits (full limits)
      · exact decides_of_refused fun locals => (refused_iff opened (scan_dimensions reads locals)).mpr limits

/-- Well-formed files are complete. -/
theorem mapFile_complete (environment : Environment) (file : MapFile) : Complete environment file.content := by
  refine Or.inr ⟨_, _, _, mapFile_reads environment file, fun _ => ?_⟩
  unfold marks
  rw [List.filter_append, List.length_append]
  exact Nat.le_add_left_of_le file.full

theorem contentDecides_iff_diagonal :
    ContentDecides diagonalEnvironment "rows".toList diagonalRows.content :=
  (contentDecides_iff diagonal_opens.1).mpr (mapFile_complete diagonalEnvironment diagonalRows)

/-- Every path leads to the one file. -/
def oneFile (input : CString) : Environment := { bareEnvironment with files := fun _ => some input }

/-- A file with one of its hundred marks loads, and so does an empty one if the
locals hold a size. -/
theorem not_contentDecides_truncated :
    ¬ ContentDecides (oneFile "10 10 #".toList) "map".toList "10 10 #".toList ∧
      ¬ ContentDecides (oneFile []) "map".toList [] := by
  constructor
  · have first : scanUnsigned (oneFile "10 10 #".toList) "10 10 #".toList = (some 10, " 10 #".toList) := by
      decide +kernel
    have second : scanUnsigned (oneFile "10 10 #".toList) (skipSpaces " 10 #".toList) = (some 10, " #".toList) := by
      decide +kernel
    have reads : ReadsDimensions (oneFile "10 10 #".toList) "10 10 #".toList 10 10 " #".toList := ⟨_, first, second⟩
    apply undecided rfl
    · exact malformed_few reads (by decide)
    · exact scan_dimensions reads smallestLocals
    · decide
  · apply undecided rfl
    · exact malformed_nothing rfl
    · exact scan_nothing rfl smallestLocals
    · decide

end SnakePosix.MapFiles
