import SnakePosix.Client.Display
import SnakePosix.MapProofs
import SnakePosix.RendererShutdown

/-! The screen follows the map. A redraw is only ever the first command of the queue,
and whatever the renderer has in hand or in the queue, once it is drawn every cell is
as the map has it, except where the main thread has changed the map and has not put
its command into the queue yet. -/
namespace SnakePosix.ScreenMirror
open Monitors GuardedRuns MapProofs Torus RendererShutdown

variable {screen next : Screen} {map : Map} {c : Coordinates} {x y : Nat}

/-! ## Drawing -/

/-- How a tile is shown. -/
def tileCell (tile : MapTile) : Cell where
  character := rendererGetTileCharacter tile.type
  foreground := rendererGetTileColor tile
  background := .default

/-- The terminal has a place for the cell. -/
def Visible (screen : Screen) (c : Coordinates) : Prop :=
  c.column + 1 < screen.width ∧ c.row + 1 < screen.height

instance (screen : Screen) (c : Coordinates) : Decidable (Visible screen c) := inferInstanceAs (Decidable (_ ∧ _))

/-- Drawing that leaves a position of the back buffer alone. -/
structure Spares (next screen : Screen) (x y : Nat) : Prop where
  back : next.back x y = screen.back x y
  width : next.width = screen.width
  height : next.height = screen.height

theorem spares_refl (screen : Screen) : Spares screen screen x y := ⟨rfl, rfl, rfl⟩

theorem spares_trans {last : Screen} (later : Spares last next x y) (earlier : Spares next screen x y) :
    Spares last screen x y :=
  ⟨later.back.trans earlier.back, later.width.trans earlier.width, later.height.trans earlier.height⟩

theorem tbSetCell_spares {i j : Nat} {character : Char} {foreground background : Color}
    (away : i ≠ x ∨ j ≠ y) (screen : Screen) :
    Spares (tbSetCell screen i j character foreground background) screen x y := by
  unfold tbSetCell
  split
  · refine ⟨?_, rfl, rfl⟩
    by_cases column : x = i
    · subst column
      have row : y ≠ j := fun same => away.elim (fun no => no rfl) fun no => no same.symm
      simp [Function.update_of_ne row]
    · simp [Function.update_of_ne column]
  · exact spares_refl screen

theorem foldl_spares {α : Type} (draw : Screen → α → Screen) (list : List α)
    (each : ∀ screen, ∀ entry ∈ list, Spares (draw screen entry) screen x y) (screen : Screen) :
    Spares (list.foldl draw screen) screen x y :=
  List.foldlRecOn list draw (spares_refl screen) fun reached spares entry member =>
    spares_trans (each reached entry member) spares

theorem tbPrint_spares {i j : Nat} {foreground background : Color} {text : String} (away : j ≠ y)
    (screen : Screen) : Spares (tbPrint screen i j foreground background text) screen x y :=
  foldl_spares _ _ (fun screen _ _ => tbSetCell_spares (Or.inr away) screen) screen

theorem printControl_spares {height index : Nat} {key description : String} (above : y ≤ height)
    (screen : Screen) : Spares (printControl screen height key description index) screen x y := by
  have away : height + 5 + index ≠ y := by omega
  unfold printControl
  exact spares_trans (tbPrint_spares away _)
    (spares_trans (tbPrint_spares away _) (tbPrint_spares away screen))

theorem rendererRedrawControls_spares {height : Nat} {status : PlayerStatus} (above : y ≤ height)
    (screen : Screen) : Spares (rendererRedrawControls screen height status) screen x y := by
  have leave := spares_trans (@printControl_spares x y height 0 "ESC" "leave the game" above _)
    (spares_trans (@tbPrint_spares x y 1 (height + 5) .default .default "-" (by omega) _)
      (@tbPrint_spares x y 0 (height + 4) .default .default "Controls:" (by omega) screen))
  unfold rendererRedrawControls
  dsimp only
  split
  · exact spares_trans (printControl_spares above _) leave
  · split
    · exact spares_trans (printControl_spares above _) (spares_trans (printControl_spares above _) leave)
    · split
      · exact spares_trans (printControl_spares above _) leave
      · exact leave

/-- The border is two columns and two rows around the map. -/
theorem rendererRedrawBorder_spares {width height : Nat} (columns : x ≠ 0 ∧ x ≠ width + 1)
    (rows : y ≠ 0 ∧ y ≠ height + 1) (screen : Screen) :
    Spares (rendererRedrawBorder screen width height) screen x y := by
  unfold rendererRedrawBorder
  refine spares_trans (foldl_spares _ _ (fun screen i _ => ?_) _) (foldl_spares _ _ (fun screen i _ => ?_) screen)
  · exact spares_trans (tbSetCell_spares (Or.inl (by omega)) _) (tbSetCell_spares (Or.inl (by omega)) _)
  · exact spares_trans (tbSetCell_spares (Or.inr (by omega)) _) (tbSetCell_spares (Or.inr (by omega)) _)

theorem rendererUpdateTile_same {tile : MapTile} (visible : Visible screen c) :
    (rendererUpdateTile screen c.row c.column tile).back (c.column + 1) (c.row + 1) = tileCell tile := by
  unfold rendererUpdateTile tbSetCell
  rw [if_pos (show c.column + 1 < screen.width ∧ c.row + 1 < screen.height from visible)]
  simp [tileCell]

theorem rendererUpdateTile_spares {row column : Nat} {tile : MapTile} (away : ¬ (row = c.row ∧ column = c.column))
    (screen : Screen) :
    Spares (rendererUpdateTile screen row column tile) screen (c.column + 1) (c.row + 1) :=
  tbSetCell_spares (by omega) screen

theorem rendererUpdateTile_size {row column : Nat} {tile : MapTile} (screen : Screen) :
    (rendererUpdateTile screen row column tile).width = screen.width ∧
      (rendererUpdateTile screen row column tile).height = screen.height := by
  unfold rendererUpdateTile tbSetCell
  split <;> exact ⟨rfl, rfl⟩

private theorem foldl_tiles (tile : Coordinates → MapTile) (list : List Coordinates) (screen : Screen)
    (visible : Visible screen c) :
    (list.foldl (fun screen cell => rendererUpdateTile screen cell.row cell.column (tile cell)) screen).back
      (c.column + 1) (c.row + 1) =
        if c ∈ list then tileCell (tile c) else screen.back (c.column + 1) (c.row + 1) := by
  induction list generalizing screen with
  | nil => rfl
  | cons cell rest ih =>
    obtain ⟨width, height⟩ := @rendererUpdateTile_size cell.row cell.column (tile cell) screen
    rw [List.foldl_cons, ih _ (by rwa [Visible, width, height])]
    by_cases later : c ∈ rest
    · simp [later]
    · by_cases here : c = cell
      · subst here
        simp [later, rendererUpdateTile_same visible]
      · have away : ¬ (cell.row = c.row ∧ cell.column = c.column) := by
          rintro ⟨row, column⟩
          cases c
          cases cell
          exact here (by simp_all)
        simp [later, here, (rendererUpdateTile_spares away screen).back]

theorem rendererRedrawTiles_back (visible : Visible screen c) (inside : map.InBounds c) :
    (rendererRedrawTiles screen map).back (c.column + 1) (c.row + 1) = tileCell (mapGetTileState map c) :=
  (foldl_tiles (mapGetTileState map) _ screen visible).trans (if_pos (mem_cells.mpr inside))

theorem rendererRedrawTiles_size (map : Map) (screen : Screen) :
    (rendererRedrawTiles screen map).width = screen.width ∧
      (rendererRedrawTiles screen map).height = screen.height := by
  refine List.foldlRecOn (motive := fun reached : Screen => reached.width = screen.width ∧
    reached.height = screen.height) _ _ ⟨rfl, rfl⟩ fun reached size cell _ => ?_
  obtain ⟨width, height⟩ := @rendererUpdateTile_size cell.row cell.column (mapGetTileState map cell) reached
  exact ⟨width.trans size.1, height.trans size.2⟩

/-! ## The order of the commands -/

variable {renderer : Renderer} {display : Display}

def IsUpdate : RendererCommand → Prop
  | .update .. => True
  | .redraw _ => False

/-- Inside a command. -/
def Busy : RendererStage → Prop
  | .redrawing _ | .cleared _ | .painted .. | .updating _ | .presenting => True
  | _ => False

instance : DecidablePred Busy := by
  intro stage
  unfold Busy
  split <;> infer_instance

theorem drawing_of_busy {stage : RendererStage} (busy : Busy stage) : Drawing stage := by
  cases stage <;> trivial

/-- A redraw comes first or not at all, and not behind a command in hand. -/
structure Ordered (renderer : Renderer) : Prop where
  rest : ∀ command ∈ renderer.queue.tail, IsUpdate command
  behind : Busy renderer.stage → ∀ command ∈ renderer.queue, IsUpdate command
  hand : ∀ command, renderer.stage = .updating command → IsUpdate command

theorem start_ordered (screen : Screen) : Ordered (Renderer.start screen) :=
  ⟨nofun, nofun, nofun⟩

/-- A step that takes nothing from the queue and starts no command. -/
private theorem idle_ordered {stage : RendererStage} {monitor : Monitor (Option RendererUser)} {screen : Screen}
    (ordered : Ordered renderer) (busy : Busy stage → Busy renderer.stage)
    (hand : ∀ command, stage ≠ .updating command) : Ordered { renderer with monitor, stage, screen } :=
  ⟨ordered.rest, fun now => ordered.behind (busy now), fun command same => absurd same (hand command)⟩

theorem render_ordered (ordered : Ordered renderer) (map : Map) : Ordered (renderer.render map) := by
  unfold Renderer.render
  cases stage : renderer.stage with
  | locking | waiting =>
    dsimp only
    split
    · exact idle_ordered ordered nofun nofun
    · exact ordered
  | testing | checking | awake =>
    dsimp only
    split
    · exact idle_ordered ordered nofun nofun
    · exact idle_ordered ordered nofun nofun
  | resolved | unlocking | leaving | presenting => exact idle_ordered ordered nofun nofun
  | ended => exact ordered
  | redrawing status | cleared status | painted width height status =>
    exact idle_ordered ordered (fun _ => by rw [stage]; trivial) nofun
  | popping =>
    have rest := ordered.rest
    dsimp only
    split
    case h_1 => exact ordered
    case h_2 status queue loaded =>
      rw [loaded] at rest
      exact ⟨fun command member => rest command (List.mem_of_mem_tail member), fun _ => rest, nofun⟩
    case h_3 command queue redraw loaded =>
      rw [loaded] at rest
      refine ⟨fun command member => rest command (List.mem_of_mem_tail member), fun _ => rest, fun hand same => ?_⟩
      cases same
      cases command with
      | redraw status => exact absurd rfl (redraw status)
      | update row column tile => trivial
  | updating command =>
    have behind := ordered.behind (by rw [stage]; trivial)
    dsimp only
    split
    case h_1 => exact idle_ordered ordered (fun _ => by rw [stage]; trivial) nofun
    case h_2 next queue loaded =>
      rw [loaded] at behind
      have later : ∀ command ∈ queue, IsUpdate command :=
        fun command member => behind command (List.mem_cons_of_mem _ member)
      refine ⟨fun command member => later command (List.mem_of_mem_tail member), fun _ => later, fun hand same => ?_⟩
      cases same
      exact behind next List.mem_cons_self

private theorem enqueue_rest {queue : List RendererCommand} (rest : ∀ command ∈ queue.tail, IsUpdate command)
    (command : RendererCommand) : ∀ other ∈ (rendererEnqueue queue command).tail, IsUpdate other := by
  cases command with
  | redraw status => exact nofun
  | update row column tile =>
    intro other member
    cases queue with
    | nil => cases member
    | cons head queue =>
      rcases List.mem_append.mp member with early | late
      · exact rest other early
      · rw [List.mem_singleton.mp late]
        trivial

theorem proceed_ordered (held : Held renderer) (ordered : Ordered renderer) (user : RendererUser) :
    Ordered (renderer.proceed user) := by
  unfold Renderer.proceed
  cases stage : renderer.calls user with
  | idle => exact ordered
  | calling command =>
    dsimp only
    split
    · exact ⟨ordered.rest, ordered.behind, ordered.hand⟩
    · exact ordered
  | locked command =>
    have outside : ¬ Drawing renderer.stage :=
      fun drawing => drawing_alone held drawing user (by simp [stage, Entered])
    exact ⟨enqueue_rest ordered.rest command, fun busy => absurd (drawing_of_busy busy) outside, ordered.hand⟩
  | enqueued | signalled => exact ⟨ordered.rest, ordered.behind, ordered.hand⟩

theorem step_ordered (held : Held renderer) (ordered : Ordered renderer) (step : RendererStep) :
    Ordered (renderer.step step) := by
  have same : ∀ monitor shutdown calls destroying,
      Ordered { renderer with monitor, shutdown, calls, destroying } :=
    fun _ _ _ _ => ⟨ordered.rest, ordered.behind, ordered.hand⟩
  cases step with
  | render map => exact render_ordered ordered map
  | proceed user => exact proceed_ordered held ordered user
  | spuriousWake => exact same _ _ _ _
  | call user command =>
    simp only [Renderer.step, Renderer.call]
    split
    · exact same _ _ _ _
    · exact ordered
  | destroy =>
    simp only [Renderer.step, Renderer.destroy]
    split
    · split
      · exact same _ _ _ _
      · exact ordered
    · exact same _ _ _ _
    · split
      · exact same _ _ _ _
      · exact ordered
    · exact ordered

/-! ## What the commands will have drawn -/

def inHand : RendererStage → List RendererCommand
  | .redrawing status | .cleared status => [.redraw status]
  | .updating command => [command]
  | _ => []

/-- A command's effect on the place of a cell. -/
def settle (map : Map) (c : Coordinates) (cell : Cell) : RendererCommand → Cell
  | .redraw _ => tileCell (mapGetTileState map c)
  | .update row column tile => if row = c.row ∧ column = c.column then tileCell tile else cell

/-- The cell once everything in hand and in the queue is drawn. -/
def outcome (map : Map) (c : Coordinates) (renderer : Renderer) : Cell :=
  (inHand renderer.stage ++ renderer.queue).foldl (settle map c)
    (renderer.screen.back (c.column + 1) (c.row + 1))

private theorem settle_update {row column : Nat} {tile : MapTile} (visible : Visible screen c) :
    (rendererUpdateTile screen row column tile).back (c.column + 1) (c.row + 1) =
      settle map c (screen.back (c.column + 1) (c.row + 1)) (.update row column tile) := by
  by_cases here : row = c.row ∧ column = c.column
  · obtain ⟨rfl, rfl⟩ := here
    simp [settle, rendererUpdateTile_same visible]
  · rw [settle, if_neg here]
    exact (rendererUpdateTile_spares here screen).back

theorem render_outcome (ordered : Ordered renderer) (inside : map.InBounds c) (visible : Visible renderer.screen c)
    (sized : ∀ width height status, renderer.stage = .painted width height status →
      width = map.width ∧ height = map.height) :
    outcome map c (renderer.render map) = outcome map c renderer := by
  unfold Renderer.render
  cases stage : renderer.stage with
  | locking | waiting =>
    dsimp only
    split <;> simp [outcome, inHand, stage]
  | testing | checking | awake =>
    dsimp only
    split <;> simp [outcome, inHand, stage]
  | resolved | unlocking | leaving | presenting => simp [outcome, inHand, stage, tbPresent]
  | ended => simp
  | redrawing status => simp [outcome, inHand, stage, settle]
  | cleared status =>
    simp only [outcome, inHand, stage, List.nil_append, List.singleton_append, List.foldl_cons, settle]
    rw [rendererRedrawTiles_back visible inside]
  | painted width height status =>
    obtain ⟨rfl, rfl⟩ := sized width height status stage
    have row : c.row < map.height := inside.1
    have column : c.column < map.width := inside.2
    have border := @rendererRedrawBorder_spares (c.column + 1) (c.row + 1) map.width map.height (by omega)
      (by omega) renderer.screen
    have controls := @rendererRedrawControls_spares (c.column + 1) (c.row + 1) map.height status (by omega)
      (rendererRedrawBorder renderer.screen map.width map.height)
    simp only [outcome, inHand, stage]
    rw [(spares_trans controls border).back]
  | popping =>
    dsimp only
    split
    case h_1 => rfl
    case h_2 status queue loaded => simp [outcome, inHand, stage, loaded]
    case h_3 command queue redraw loaded => simp [outcome, inHand, stage, loaded]
  | updating command =>
    have update := ordered.hand command stage
    cases command with
    | redraw status => cases update
    | update row column tile =>
      dsimp only
      split
      case h_1 empty =>
        simp [outcome, inHand, stage, empty, rendererUpdateCommand, @settle_update _ map _ row column tile visible]
      case h_2 next queue loaded =>
        simp [outcome, inHand, stage, loaded, rendererUpdateCommand, @settle_update _ map _ row column tile visible]

theorem render_size (renderer : Renderer) (map : Map) :
    (renderer.render map).screen.width = renderer.screen.width ∧
      (renderer.render map).screen.height = renderer.screen.height := by
  have updated : ∀ command, (rendererUpdateCommand renderer.screen command).width = renderer.screen.width ∧
      (rendererUpdateCommand renderer.screen command).height = renderer.screen.height := by
    intro command
    cases command with
    | redraw status => exact ⟨rfl, rfl⟩
    | update row column tile => exact rendererUpdateTile_size renderer.screen
  unfold Renderer.render
  split
  case h_9 => exact rendererRedrawTiles_size map renderer.screen
  case h_10 width height status stage =>
    -- The sizes are read off positions that are not drawn on.
    have border := @rendererRedrawBorder_spares (width + 2) (height + 2) width height (by omega) (by omega)
      renderer.screen
    have controls := @rendererRedrawControls_spares 0 0 height status (Nat.zero_le _)
      (rendererRedrawBorder renderer.screen width height)
    exact ⟨controls.width.trans border.width, controls.height.trans border.height⟩
  case h_11 command stage =>
    split
    · exact updated command
    · exact updated command
  all_goals first | exact ⟨rfl, rfl⟩ | (split <;> exact ⟨rfl, rfl⟩)

/-! ## The main thread -/

/-- The command of a call that is not in the queue yet. -/
def pending? : CallStage → Option RendererCommand
  | .calling command | .locked command => some command
  | _ => none

/-- A command of the main thread says what it has done to the map. -/
def Announced (site : CallSite) (map : Map) : RendererCommand → Prop
  | .redraw _ => site ≠ .tileChange
  | .update row column tile => site = .tileChange ∧ mapGetTileState map { row, column } = tile

/-- The main thread has changed the cell and its command is not in the queue yet. -/
def Unsent (display : Display) (c : Coordinates) : Prop :=
  match display.site, pending? (display.renderer.calls .main) with
  | .map, some _ => True
  | .tileChange, some (.update row column _) => row = c.row ∧ column = c.column
  | _, _ => False

structure Sound (display : Display) : Prop where
  held : Held display.renderer
  ordered : Ordered display.renderer
  main : ∀ command, pending? (display.renderer.calls .main) = some command →
    Announced display.site display.client.map command
  input : ∀ command, pending? (display.renderer.calls .input) = some command →
    ∃ status, command = .redraw status

structure Mirrored (display : Display) : Prop where
  cells : ∀ c, display.client.map.InBounds c → Visible display.renderer.screen c → ¬ Unsent display c →
    outcome display.client.map c display.renderer = tileCell (mapGetTileState display.client.map c)
  painted : ∀ width height status, display.renderer.stage = .painted width height status →
    (width = display.client.map.width ∧ height = display.client.map.height) ∨ ∀ c, Unsent display c
  shown : ¬ Busy display.renderer.stage → display.renderer.queue = [] →
    display.renderer.screen.front = display.renderer.screen.back

theorem start_sound (tiles : Coordinates → MapTile) (screen : Screen) : Sound (Display.start tiles screen) where
  held := start_held screen
  ordered := start_ordered screen
  main := nofun
  input := nofun

/-- A redraw that has just been put into the queue will draw the whole map. -/
theorem mirrored_of_redraw {status : PlayerStatus} (ordered : Ordered display.renderer)
    (queue : display.renderer.queue = [.redraw status]) : Mirrored display := by
  have outside : ¬ Busy display.renderer.stage := by
    intro busy
    have update := ordered.behind busy (.redraw status) (by rw [queue]; exact List.mem_singleton.mpr rfl)
    exact update
  refine ⟨fun c _ _ _ => ?_, fun width height status painted => ?_, fun _ empty => ?_⟩
  · simp [outcome, queue, settle]
  · rw [painted] at outside
    exact absurd trivial outside
  · rw [queue] at empty
    cases empty

/-- A step that touches neither the queue nor the screen. -/
private theorem frame_mirrored {next : Display} (mirrored : Mirrored display)
    (queue : next.renderer.queue = display.renderer.queue) (stage : next.renderer.stage = display.renderer.stage)
    (screen : next.renderer.screen = display.renderer.screen)
    (cells : ∀ c, next.client.map.InBounds c → ¬ Unsent next c → display.client.map.InBounds c ∧
      ¬ Unsent display c ∧ mapGetTileState display.client.map c = mapGetTileState next.client.map c)
    (painted : (next.client.map.width = display.client.map.width ∧
        next.client.map.height = display.client.map.height ∧ ∀ c, Unsent display c → Unsent next c) ∨
      ∀ c, Unsent next c) : Mirrored next := by
  refine ⟨fun c inside visible sent => ?_, fun width height status paints => ?_, fun outside empty => ?_⟩
  · obtain ⟨before, sentBefore, tile⟩ := cells c inside sent
    rw [screen] at visible
    have same : outcome next.client.map c next.renderer = outcome display.client.map c display.renderer := by
      have settles : settle next.client.map c = settle display.client.map c := by
        funext cell command
        cases command <;> simp [settle, tile]
      simp only [outcome, settles, queue, stage, screen]
    rw [same, mirrored.cells c before visible sentBefore, tile]
  · rw [stage] at paints
    rcases painted with ⟨widths, heights, unsent⟩ | unsent
    · rw [widths, heights]
      exact (mirrored.painted width height status paints).imp_right fun all c => unsent c (all c)
    · exact Or.inr unsent
  · rw [stage] at outside
    rw [queue] at empty
    rw [screen]
    exact mirrored.shown outside empty

/-- The same, with the map as it was and the main thread's call no further. -/
private theorem still_mirrored (mirrored : Mirrored display) (later : Renderer)
    (queue : later.queue = display.renderer.queue) (stage : later.stage = display.renderer.stage)
    (screen : later.screen = display.renderer.screen)
    (calls : pending? (later.calls .main) = pending? (display.renderer.calls .main)) :
    Mirrored { display with renderer := later } := by
  have same : ∀ c, Unsent { display with renderer := later } c ↔ Unsent display c := by
    intro c
    simp only [Unsent, calls]
  exact frame_mirrored mirrored queue stage screen
    (fun c inside sent => ⟨inside, fun unsent => sent ((same c).mpr unsent), rfl⟩)
    (Or.inl ⟨rfl, rfl, fun c => (same c).mpr⟩)

/-! ## Steps -/

theorem render_painted {width height : Nat} {status : PlayerStatus}
    (paints : (renderer.render map).stage = .painted width height status) :
    width = map.width ∧ height = map.height := by
  unfold Renderer.render at paints
  cases stage : renderer.stage with
  | cleared before =>
    simp only [stage] at paints
    cases paints
    exact ⟨rfl, rfl⟩
  | locking | waiting | popping | updating | testing | checking | awake =>
    simp only [stage] at paints
    split at paints <;> simp [stage] at paints
  | _ => simp [stage] at paints

/-- The last step of a command shows what it has drawn. -/
theorem render_shown
    (shown : ¬ Busy renderer.stage → renderer.queue = [] → renderer.screen.front = renderer.screen.back)
    (outside : ¬ Busy (renderer.render map).stage) (empty : (renderer.render map).queue = []) :
    (renderer.render map).screen.front = (renderer.render map).screen.back := by
  unfold Renderer.render at outside empty ⊢
  cases stage : renderer.stage with
  | presenting => rfl
  | redrawing | cleared | painted =>
    simp only [stage] at outside
    exact absurd trivial outside
  | popping =>
    simp only [stage] at outside empty ⊢
    split at outside
    · exact shown (by simp [stage, Busy]) (by assumption)
    · exact absurd trivial outside
    · exact absurd trivial outside
  | updating command =>
    simp only [stage] at outside
    split at outside
    · exact absurd trivial outside
    · exact absurd trivial outside
  | _ =>
    have before : ¬ Busy renderer.stage := by simp [stage, Busy]
    simp only [stage] at empty ⊢
    first
      | exact shown before empty
      | (split at empty <;> exact shown before empty)

theorem render_mirrored (sound : Sound display) (mirrored : Mirrored display) :
    Mirrored { display with renderer := display.renderer.render display.client.map } := by
  obtain ⟨-, calls, -⟩ := render_rest display.renderer display.client.map
  obtain ⟨width, height⟩ := render_size display.renderer display.client.map
  have same : ∀ c, Unsent { display with renderer := display.renderer.render display.client.map } c ↔
      Unsent display c := by
    intro c
    simp only [Unsent, calls]
  refine ⟨fun c inside visible sent => ?_, fun width height status paints => Or.inl (render_painted paints),
    render_shown mirrored.shown⟩
  have before : ¬ Unsent display c := fun unsent => sent ((same c).mpr unsent)
  have visibleBefore : Visible display.renderer.screen c := by
    unfold Visible at visible ⊢
    rwa [width, height] at visible
  have sized : ∀ width height status, display.renderer.stage = .painted width height status →
      width = display.client.map.width ∧ height = display.client.map.height :=
    fun width height status paints =>
      (mirrored.painted width height status paints).resolve_right fun all => before (all c)
  exact (render_outcome sound.ordered inside visibleBefore sized).trans
    (mirrored.cells c inside visibleBefore before)

theorem render_sound (sound : Sound display) :
    Sound { display with renderer := display.renderer.render display.client.map } := by
  obtain ⟨-, calls, -⟩ := render_rest display.renderer display.client.map
  refine ⟨render_held sound.held _, render_ordered sound.ordered _, ?_, ?_⟩
  · simp only [calls]
    exact sound.main
  · simp only [calls]
    exact sound.input

/-- Only the main thread's own steps change its call. -/
theorem withCall_pending {user : RendererUser} {stage : CallStage}
    (same : pending? stage = pending? (renderer.calls user)) (other : RendererUser) :
    pending? ((renderer.withCall user stage).calls other) = pending? (renderer.calls other) := by
  simp only [Renderer.withCall]
  by_cases here : other = user
  · subst here
    rw [Function.update_self, same]
  · rw [Function.update_of_ne here]

/-- The command of a call goes into the queue, with the renderer outside of any command. -/
private theorem enqueue_mirrored {user : RendererUser} {command : RendererCommand} (sound : Sound display)
    (mirrored : Mirrored display) (locked : display.renderer.calls user = .locked command) :
    Mirrored { display with renderer := { display.renderer with
      queue := rendererEnqueue display.renderer.queue command }.withCall user .enqueued } := by
  have outside : ¬ Drawing display.renderer.stage :=
    fun drawing => drawing_alone sound.held drawing user (by simp [locked, Entered])
  have idle : inHand display.renderer.stage = [] := by
    cases stage : display.renderer.stage <;> first | rfl | exact absurd (by rw [stage]; trivial) outside
  refine ⟨fun c inside visible sent => ?_, fun width height status paints => ?_, fun _ empty => ?_⟩
  · cases command with
    | redraw status => simp [outcome, Renderer.withCall, rendererEnqueue, idle, settle]
    | update row column tile =>
      cases user with
      | input =>
        obtain ⟨status, redraw⟩ := sound.input _ (by rw [locked]; rfl)
        cases redraw
      | main =>
        obtain ⟨site, announced⟩ := sound.main _ (by rw [locked]; rfl)
        simp only [outcome, Renderer.withCall, rendererEnqueue, idle, List.nil_append, List.foldl_append,
          List.foldl_cons, List.foldl_nil, settle]
        by_cases here : row = c.row ∧ column = c.column
        · obtain ⟨rfl, rfl⟩ := here
          rw [if_pos ⟨rfl, rfl⟩, ← announced]
        · rw [if_neg here]
          have before : ¬ Unsent display c := by
            simpa [Unsent, site, locked, pending?] using here
          have drawn := mirrored.cells c inside visible before
          simpa [outcome, idle] using drawn
  · refine absurd ?_ outside
    rw [show display.renderer.stage = .painted width height status from paints]
    trivial
  · cases command <;> simp [Renderer.withCall, rendererEnqueue] at empty

theorem proceed_mirrored (sound : Sound display) (mirrored : Mirrored display) (user : RendererUser) :
    Mirrored { display with renderer := display.renderer.proceed user } := by
  unfold Renderer.proceed
  cases stage : display.renderer.calls user with
  | idle => exact mirrored
  | calling command =>
    dsimp only
    split
    · exact still_mirrored mirrored _ rfl rfl rfl (withCall_pending (by rw [stage]; rfl) .main)
    · exact mirrored
  | locked command => exact enqueue_mirrored sound mirrored stage
  | enqueued => exact still_mirrored mirrored _ rfl rfl rfl (withCall_pending (by rw [Renderer.signal, stage]; rfl) .main)
  | signalled => exact still_mirrored mirrored _ rfl rfl rfl (withCall_pending (by rw [stage]; rfl) .main)

theorem proceed_pending (renderer : Renderer) (user other : RendererUser) (command : RendererCommand)
    (later : pending? ((renderer.proceed user).calls other) = some command) :
    pending? (renderer.calls other) = some command := by
  unfold Renderer.proceed at later
  cases stage : renderer.calls user with
  | idle => simpa [stage] using later
  | calling command =>
    simp only [stage] at later
    split at later
    · rwa [withCall_pending (by rw [stage]; rfl) other] at later
    · exact later
  | locked command =>
    simp only [stage, Renderer.withCall] at later
    by_cases here : other = user
    · subst here
      simp [pending?] at later
    · rwa [Function.update_of_ne here] at later
  | enqueued =>
    simp only [stage] at later
    rwa [withCall_pending (by rw [Renderer.signal, stage]; rfl) other] at later
  | signalled =>
    simp only [stage] at later
    rwa [withCall_pending (by rw [stage]; rfl) other] at later

theorem proceed_sound (sound : Sound display) (user : RendererUser) :
    Sound { display with renderer := display.renderer.proceed user } where
  held := proceed_held sound.held user
  ordered := proceed_ordered sound.held sound.ordered user
  main := fun command later => sound.main command (proceed_pending _ _ _ _ later)
  input := fun command later => sound.input command (proceed_pending _ _ _ _ later)

theorem resize_mirrored (mirrored : Mirrored display) (command : RendererCommand) :
    Mirrored { display with renderer := display.renderer.call .input command } := by
  unfold Renderer.call
  split
  · exact still_mirrored mirrored _ rfl rfl rfl rfl
  · exact mirrored

theorem resize_sound (sound : Sound display) (status : PlayerStatus) :
    Sound { display with renderer := display.renderer.call .input (.redraw status) } := by
  refine ⟨call_held sound.held _ _, step_ordered sound.held sound.ordered (.call .input (.redraw status)), ?_, ?_⟩
  · unfold Renderer.call
    split
    · exact sound.main
    · exact sound.main
  · unfold Renderer.call
    split
    case h_1 =>
      intro command later
      cases later
      exact ⟨status, rfl⟩
    case h_2 => exact sound.input

theorem destroy_calls (renderer : Renderer) : renderer.destroy.calls = renderer.calls ∧
    renderer.destroy.queue = renderer.queue ∧ renderer.destroy.stage = renderer.stage ∧
    renderer.destroy.screen = renderer.screen := by
  unfold Renderer.destroy
  split
  · split <;> exact ⟨rfl, rfl, rfl, rfl⟩
  · exact ⟨rfl, rfl, rfl, rfl⟩
  · split <;> exact ⟨rfl, rfl, rfl, rfl⟩
  · exact ⟨rfl, rfl, rfl, rfl⟩

/-! ## Messages -/

/-- What a message does to the map, and the call it leads to. -/
inductive Received (display next : Display) : Prop where
  | silent (renderer : next.renderer = display.renderer) (site : next.site = display.site)
      (map : next.client.map = display.client.map)
  | map (idle : display.renderer.calls .main = .idle) (status : PlayerStatus)
      (renderer : next.renderer = display.renderer.withCall .main (.calling (.redraw status)))
      (site : next.site = .map)
  | tileChange (idle : display.renderer.calls .main = .idle) (c : Coordinates) (tile : MapTile)
      (renderer : next.renderer = display.renderer.withCall .main (.calling (.update c.row c.column tile)))
      (site : next.site = .tileChange) (map : next.client.map = mapSetTileState display.client.map c tile)
  | playerState (idle : display.renderer.calls .main = .idle) (status : PlayerStatus)
      (renderer : next.renderer = display.renderer.withCall .main (.calling (.redraw status)))
      (site : next.site = .playerState) (map : next.client.map = display.client.map)

private theorem process_received {next : Display} {message : SocketMessage}
    (absent : display.renderer.destroying = .absent) (idle : display.renderer.calls .main = .idle)
    (ran : (do
      let client ← socketClientProcess display.client message
      match message with
      | .map _ => some ({ display with client }.callAt .map (.redraw client.lastStatus))
      | .tileChange data =>
        some ({ display with client }.callAt .tileChange (.update data.row data.column data.tile))
      | .playerState status _ =>
        if status ≠ display.client.lastStatus then
          some ({ display with client }.callAt .playerState (.redraw client.lastStatus))
        else some { display with client }
      | _ => some { display with client }) = some next) : Received display next := by
  obtain ⟨client, processed, ran⟩ := Option.bind_eq_some_iff.mp ran
  have called : ∀ command, display.renderer.call .main command =
      display.renderer.withCall .main (.calling command) := by
    intro command
    simp [Renderer.call, absent, idle]
  cases message with
  | map data =>
    cases ran
    exact .map idle client.lastStatus (called _) rfl
  | tileChange data =>
    cases ran
    obtain ⟨map, written, built⟩ := Option.bind_eq_some_iff.mp processed
    cases built
    unfold mapTilesWrite at written
    split at written
    · cases written
      exact .tileChange idle { row := data.row, column := data.column } data.tile (called _) rfl rfl
    · cases written
  | playerState status direction =>
    cases processed
    dsimp only at ran
    split at ran
    · cases ran
      exact .playerState idle status (called _) rfl rfl
    · cases ran
      exact .silent rfl rfl rfl
  | _ =>
    cases processed
    cases ran
    exact .silent rfl rfl rfl

theorem receive_received {next : Display} {message : SocketMessage} (ran : display.receive message = some next) :
    Received display next := by
  unfold Display.receive at ran
  split at ran
  case h_1 absent idle _ => exact process_received absent idle ran
  case h_2 absent idle _ => exact process_received absent idle ran
  case h_3 =>
    cases ran
    exact .silent rfl rfl rfl

private theorem withCall_sound {next : Display} {command : RendererCommand} (sound : Sound display)
    (idle : display.renderer.calls .main = .idle)
    (renderer : next.renderer = display.renderer.withCall .main (.calling command))
    (announced : Announced next.site next.client.map command) : Sound next where
  held := by
    rw [renderer]
    exact withCall_held sound.held (by simp [idle, Entered])
  ordered := by
    rw [renderer]
    exact ⟨sound.ordered.rest, sound.ordered.behind, sound.ordered.hand⟩
  main := by
    rw [renderer]
    intro other later
    cases later
    exact announced
  input := by
    rw [renderer]
    exact sound.input

theorem receive_sound {next : Display} (sound : Sound display) (received : Received display next) :
    Sound next := by
  cases received with
  | silent renderer site map =>
    refine ⟨?_, ?_, ?_, ?_⟩
    · rw [renderer]
      exact sound.held
    · rw [renderer]
      exact sound.ordered
    · rw [renderer, site, map]
      exact sound.main
    · rw [renderer]
      exact sound.input
  | map idle status renderer site =>
    exact withCall_sound sound idle renderer (by simp [Announced, site])
  | tileChange idle c tile renderer site map =>
    refine withCall_sound sound idle renderer ⟨site, ?_⟩
    rw [map]
    exact mapSetTileState_same _ c tile
  | playerState idle status renderer site map =>
    exact withCall_sound sound idle renderer (by simp [Announced, site])

/-- Until its command is in the queue a change of the map is the main thread's own
business; every other cell is as before. -/
theorem receive_mirrored {next : Display} (mirrored : Mirrored display) (received : Received display next) :
    Mirrored next := by
  cases received with
  | silent renderer site map =>
    have same : ∀ c, Unsent next c ↔ Unsent display c := by
      intro c
      simp only [Unsent, renderer, site]
    refine frame_mirrored mirrored (by rw [renderer]) (by rw [renderer]) (by rw [renderer])
      (fun c inside sent => ?_) (Or.inl ⟨by rw [map], by rw [map], fun c => (same c).mpr⟩)
    rw [map] at inside
    exact ⟨inside, fun unsent => sent ((same c).mpr unsent), by rw [map]⟩
  | map idle status renderer site =>
    have all : ∀ c, Unsent next c := by
      intro c
      simp [Unsent, site, renderer, Renderer.withCall, pending?]
    exact frame_mirrored mirrored (by rw [renderer]; rfl) (by rw [renderer]; rfl) (by rw [renderer]; rfl)
      (fun c _ sent => absurd (all c) sent) (Or.inr all)
  | tileChange idle place tile renderer site map =>
    have none : ∀ c, ¬ Unsent display c := by
      intro c
      simp [Unsent, idle, pending?]
    refine frame_mirrored mirrored (by rw [renderer]; rfl) (by rw [renderer]; rfl) (by rw [renderer]; rfl)
      (fun c inside sent => ?_) (Or.inl ⟨by rw [map]; rfl, by rw [map]; rfl, fun c unsent => absurd unsent (none c)⟩)
    have away : c ≠ place := by
      rintro rfl
      exact sent (by simp [Unsent, site, renderer, Renderer.withCall, pending?])
    rw [map] at inside ⊢
    exact ⟨inside, none c, (mapSetTileState_other _ _ _ _ away).symm⟩
  | playerState idle status renderer site map =>
    have none : ∀ c, ¬ Unsent display c := by
      intro c
      simp [Unsent, idle, pending?]
    refine frame_mirrored mirrored (by rw [renderer]; rfl) (by rw [renderer]; rfl) (by rw [renderer]; rfl)
      (fun c inside _ => ?_) (Or.inl ⟨by rw [map], by rw [map], fun c unsent => absurd unsent (none c)⟩)
    rw [map] at inside
    exact ⟨inside, none c, by rw [map]⟩

/-! ## Whole runs -/

theorem step_sound {next : Display} (step : DisplayStep) (sound : Sound display)
    (ran : display.step step = .ok next) : Sound next := by
  cases step with
  | message message =>
    simp only [Display.step] at ran
    split at ran
    case h_1 received =>
      cases ran
      exact receive_sound sound (receive_received received)
    case h_2 => cases ran
  | resize =>
    cases ran
    exact resize_sound sound _
  | render =>
    cases ran
    exact render_sound sound
  | proceed user =>
    cases ran
    exact proceed_sound sound user
  | destroy =>
    cases ran
    obtain ⟨calls, -⟩ := destroy_calls display.renderer
    refine ⟨destroy_held sound.held, step_ordered sound.held sound.ordered .destroy, ?_, ?_⟩
    · simp only [calls]
      exact sound.main
    · simp only [calls]
      exact sound.input
  | spuriousWake =>
    cases ran
    exact ⟨signal_held sound.held, step_ordered sound.held sound.ordered .spuriousWake, sound.main, sound.input⟩

theorem step_mirrored {next : Display} (step : DisplayStep) (sound : Sound display) (mirrored : Mirrored display)
    (ran : display.step step = .ok next) : Mirrored next := by
  cases step with
  | message message =>
    simp only [Display.step] at ran
    split at ran
    case h_1 received =>
      cases ran
      exact receive_mirrored mirrored (receive_received received)
    case h_2 => cases ran
  | resize =>
    cases ran
    exact resize_mirrored mirrored _
  | render =>
    cases ran
    exact render_mirrored sound mirrored
  | proceed user =>
    cases ran
    exact proceed_mirrored sound mirrored user
  | destroy =>
    cases ran
    obtain ⟨calls, queue, stage, screen⟩ := destroy_calls display.renderer
    exact still_mirrored mirrored _ queue stage screen (by rw [calls])
  | spuriousWake =>
    cases ran
    exact still_mirrored mirrored _ rfl rfl rfl rfl

theorem run_sound {steps : List DisplayStep} {tiles : Coordinates → MapTile}
    (ran : (Display.start tiles screen).run steps = .ok display) : Sound display :=
  run_always Display.step Sound steps (fun _ step _ _ sound ran => step_sound step sound ran)
    (start_sound tiles screen) ran

/-- From a redraw in the queue on: when the queue is empty, the renderer is outside of
any command and the main thread has announced what it has done to the map, the
terminal shows every cell of the map that it has a place for. And no redraw is ever
taken for an update. -/
theorem run_shows {tiles : Coordinates → MapTile} {before after : List DisplayStep} {drawn : Display}
    (started : (Display.start tiles screen).run before = .ok drawn) (ran : drawn.run after = .ok display) :
    (∀ status, drawn.renderer.queue = [.redraw status] →
      display.renderer.queue = [] → ¬ Busy display.renderer.stage →
      (display.site = .playerState ∨ pending? (display.renderer.calls .main) = none) →
      ∀ c, display.client.map.InBounds c → Visible display.renderer.screen c →
        display.renderer.screen.front (c.column + 1) (c.row + 1) =
          tileCell (mapGetTileState display.client.map c)) ∧
      ∀ status, display.renderer.stage ≠ .updating (.redraw status) := by
  have sound := run_sound started
  constructor
  · intro status redraws empty outside announced c inside visible
    obtain ⟨-, mirrored⟩ := run_always Display.step (fun display => Sound display ∧ Mirrored display) after
      (fun _ step _ _ kept ran => ⟨step_sound step kept.1 ran, step_mirrored step kept.1 kept.2 ran⟩)
      ⟨sound, mirrored_of_redraw sound.ordered redraws⟩ ran
    have sent : ¬ Unsent display c := by
      rcases announced with site | none
      · simp [Unsent, site]
      · simp [Unsent, none]
    have idle : inHand display.renderer.stage = [] := by
      cases stage : display.renderer.stage <;> first | rfl | exact absurd (by rw [stage]; trivial) outside
    have drawn := mirrored.cells c inside visible sent
    rw [mirrored.shown outside empty]
    simpa [outcome, idle, empty] using drawn
  · intro status same
    have later := run_always Display.step Sound after (fun _ step _ _ sound ran => step_sound step sound ran)
      sound ran
    exact later.ordered.hand _ same

/-- The input thread redraws after a resize. -/
def resized : List DisplayStep := [.resize, .proceed .input, .proceed .input]

/-- Then a fruit arrives before the renderer has begun. -/
def fruitArrives : List DisplayStep :=
  [.proceed .input, .proceed .input,
    .message (.tileChange { row := 1, column := 2, tile := { order := 0, type := .fruit, player := 0 } }),
    .proceed .main, .proceed .main, .proceed .main, .proceed .main] ++ List.replicate 18 .render

set_option maxRecDepth 2000 in
theorem run_shows_fruit : ∃ drawn display,
    (Display.start (fun _ => { order := 0, type := .wall, player := 1 }) emptyScreen).run resized = .ok drawn ∧
      drawn.run fruitArrives = .ok display ∧
      display.renderer.screen.front 3 2 = { character := 'O', foreground := .default, background := .default } := by
  refine ⟨_, _, rfl, rfl, ?_⟩
  exact (@run_shows emptyScreen _ (fun _ => { order := 0, type := .wall, player := 1 }) resized fruitArrives _
    rfl rfl).1 .notConnected rfl rfl not_false (Or.inr rfl) { row := 1, column := 2 }
    ⟨by decide, by decide⟩ ⟨by decide, by decide⟩

end SnakePosix.ScreenMirror
