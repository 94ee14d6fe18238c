import Mathlib.Algebra.BigOperators.Group.List.Basic
import MazeClient.Generator.WallSegments

set_option autoImplicit false

namespace MazeClient

-- blocked_to_wall_segments over the coordinate it takes for the centre of a cell.
def wallSegments {n : Nat} (centre : Int → ℚ) (blocked : BlockedGrid n n) (wallThickness : ℚ) :
    List WallSegment :=
  let columns := (Int.range 0 n).map fun gx => (gx, scanRuns (blocked.cell gx) n n 0)
  let used (gx gy : Int) : Bool := columns.any fun (column, runs) =>
    column = gx && runs.any fun (start, end_) => start ≤ gy && gy < end_
  let vertical := columns.flatMap fun (gx, runs) => runs.map fun (start, end_) =>
    { x1 := centre gx
      y1 := centre start
      x2 := centre gx
      y2 := centre (end_ - 1)
      thickness := wallThickness }
  let horizontal := (Int.range 0 n).flatMap fun gy =>
    (scanRuns (fun gx => blocked.cell gx gy && !used gx gy) n n 0).map fun (start, end_) =>
      { x1 := centre start
        y1 := centre gy
        x2 := centre (end_ - 1)
        y2 := centre gy
        thickness := wallThickness }
  vertical ++ horizontal

theorem blockedToWallSegments_eq {n : Nat} (blocked : BlockedGrid n n)
    (gridSize wallThickness : ℚ) : blockedToWallSegments blocked gridSize wallThickness =
      wallSegments (cellCentre gridSize) blocked wallThickness := rfl

def exactCentre (gridSize : ℚ) (at_ : Int) : ℚ := (at_ + 1 / 2) * gridSize

namespace BlockedGrid

def clear (cols rows : Nat) : BlockedGrid cols rows :=
  Vector.replicate rows (Vector.replicate cols false)

theorem cell_clear {cols rows : Nat} {gx gy : Int} (inside : Within cols rows gx gy) :
    (clear cols rows).cell gx gy = false := by
  unfold Within at inside
  unfold cell clear
  rw [dif_pos inside]
  simp

theorem ext_cell {cols rows : Nat} {first second : BlockedGrid cols rows}
    (same : ∀ gx gy, Within cols rows gx gy → first.cell gx gy = second.cell gx gy) :
    first = second := by
  apply Vector.ext
  intro y row
  apply Vector.ext
  intro x column
  have inside : (0 ≤ (x : Int) ∧ (x : Int) < cols) ∧ 0 ≤ (y : Int) ∧ (y : Int) < rows := by omega
  have equal := same x y inside
  unfold cell at equal
  rwa [dif_pos inside, dif_pos inside] at equal

end BlockedGrid

def WallSegment.halfT (wall : WallSegment) : ℚ :=
  (if wall.thickness = 0 then 10 else wall.thickness) * (1 / 2)

def fillWall {n : Nat} (gridSize : ℚ) (blocked : BlockedGrid n n) (wall : WallSegment) :
    BlockedGrid n n :=
  let minX := min wall.x1 wall.x2 - wall.halfT
  let maxX := max wall.x1 wall.x2 + wall.halfT
  let minY := min wall.y1 wall.y2 - wall.halfT
  let maxY := max wall.y1 wall.y2 + wall.halfT
  let gxMin := max 0 ⌊minX / gridSize⌋
  let gxMax := min ((n : Int) - 1) ⌊maxX / gridSize⌋
  let gyMin := max 0 ⌊minY / gridSize⌋
  let gyMax := min ((n : Int) - 1) ⌊maxY / gridSize⌋
  eachCell (Int.range gyMin (gyMax + 1)) (Int.range gxMin (gxMax + 1))
    (fun gx gy blocked => blocked.put gx gy true) blocked

def buildBlockedGrid (walls : List WallSegment) (gridDim : Nat) (gridSize : ℚ) :
    BlockedGrid gridDim gridDim :=
  walls.foldl (fillWall gridSize) (BlockedGrid.clear gridDim gridDim)

structure FrameMap where
  width : ℚ
  gridCount : Nat := 0
  gridSize : ℚ := 0
  walls : List WallSegment

namespace FrameMap

variable (map : FrameMap)

def drawnSize : ℚ := if map.gridSize = 0 then 500 else map.gridSize

def drawnDim : Nat :=
  if map.gridCount = 0 then ⌈map.width / map.drawnSize⌉.toNat else map.gridCount

def renderFrame : BlockedGrid map.drawnDim map.drawnDim :=
  buildBlockedGrid map.walls map.drawnDim map.drawnSize

end FrameMap

section Runs

variable {blocked : Int → Bool}

theorem scanRuns_count {stop : Int} {fuel : Nat} {at_ : Int} (enough : stop ≤ at_ + fuel)
    (cell : Int) :
    (scanRuns blocked stop fuel at_).countP (fun run => run.1 ≤ cell && cell < run.2) =
      if (at_ ≤ cell ∧ cell < stop) ∧ blocked cell = true then 1 else 0 := by
  induction fuel generalizing at_ with
  | zero =>
      rw [scanRuns, if_neg (by omega)]
      rfl
  | succ fuel ih =>
      unfold scanRuns
      split
      case isTrue done =>
        rw [if_neg (by omega)]
        rfl
      case isFalse inside =>
      split
      case isTrue here =>
        obtain ⟨bound, run, -⟩ := @runEnd_spec blocked (stop - at_).toNat at_
        have later := lt_runEnd here (show 0 < (stop - at_).toNat by omega)
        dsimp only
        generalize runEnd blocked (stop - at_).toNat at_ = end_ at bound run later ⊢
        rw [List.countP_cons, ih (by omega)]
        by_cases within : at_ ≤ cell ∧ cell < end_
        · have shut := run cell within.1 within.2
          rw [if_neg (by omega), if_pos (by simpa using within), if_pos ⟨by omega, shut⟩]
        · have same : ((end_ ≤ cell ∧ cell < stop) ∧ blocked cell = true) ↔
              (at_ ≤ cell ∧ cell < stop) ∧ blocked cell = true := by
            refine and_congr_left fun _ => ?_
            omega
          have out : ¬ (decide (at_ ≤ cell) && decide (cell < end_)) = true := by
            simpa using within
          rw [if_neg out, Nat.add_zero]
          simp only [same]
      case isFalse there =>
        rw [ih (by omega)]
        have same : ((at_ + 1 ≤ cell ∧ cell < stop) ∧ blocked cell = true) ↔
            (at_ ≤ cell ∧ cell < stop) ∧ blocked cell = true := by
          constructor
          · rintro ⟨reach, shut⟩
            exact ⟨by omega, shut⟩
          · rintro ⟨reach, shut⟩
            refine ⟨⟨?_, reach.2⟩, shut⟩
            by_contra first
            obtain rfl : at_ = cell := by omega
            exact there shut
        simp only [same]

theorem scanRuns_eq_nil {stop : Int} {fuel : Nat} {at_ : Int}
    (clear : ∀ cell, at_ ≤ cell → cell < stop → blocked cell = false) :
    scanRuns blocked stop fuel at_ = [] := by
  induction fuel generalizing at_ with
  | zero => rfl
  | succ fuel ih =>
      unfold scanRuns
      split
      · rfl
      case isFalse inside =>
        rw [if_neg (by simp [clear at_ le_rfl (by omega)])]
        exact ih fun cell low high => clear cell (by omega) high

theorem scanRuns_iff {stop : Int} {fuel : Nat} {at_ cell : Int} (enough : stop ≤ at_ + fuel)
    (from_ : at_ ≤ cell) (to_ : cell < stop) :
    (∃ run ∈ scanRuns blocked stop fuel at_, run.1 ≤ cell ∧ cell < run.2) ↔
      blocked cell = true := by
  have counted := @scanRuns_count blocked stop fuel at_ enough cell
  have some_ : (∃ run ∈ scanRuns blocked stop fuel at_, run.1 ≤ cell ∧ cell < run.2) ↔
      0 < (scanRuns blocked stop fuel at_).countP fun run => run.1 ≤ cell && cell < run.2 := by
    simp [List.countP_pos_iff]
  rw [some_, counted]
  split
  case isTrue within => simpa using within.2
  case isFalse out => simpa [from_, to_] using out

end Runs

def columnRuns {n : Nat} (blocked : BlockedGrid n n) : List (Int × Int × Int) :=
  (Int.range 0 n).flatMap fun gx =>
    (scanRuns (blocked.cell gx) n n 0).map fun run => (gx, run)

def runSegment (centre : Int → ℚ) (wallThickness : ℚ) (run : Int × Int × Int) : WallSegment where
  x1 := centre run.1
  y1 := centre run.2.1
  x2 := centre run.1
  y2 := centre (run.2.2 - 1)
  thickness := wallThickness

section

variable {n : Nat} {blocked : BlockedGrid n n} {centre : Int → ℚ} {wallThickness : ℚ}

theorem wallSegments_columns : wallSegments centre blocked wallThickness =
    (columnRuns blocked).map (runSegment centre wallThickness) := by
  have used (gx gy : Int) (column : gx ∈ Int.range 0 n) (row : gy ∈ Int.range 0 n)
      (shut : blocked.cell gx gy = true) :
      ((Int.range 0 n).map fun gx => (gx, scanRuns (blocked.cell gx) n n 0)).any
        (fun (column, runs) => column = gx && runs.any fun (start, end_) =>
          start ≤ gy && gy < end_) = true := by
    obtain ⟨bottom, top⟩ := Int.mem_range_iff.mp row
    obtain ⟨run, member, start, stop⟩ :=
      (scanRuns_iff (show (n : Int) ≤ (0 : Int) + (n : Nat) by omega) bottom top).mpr shut
    rw [List.any_eq_true]
    refine ⟨_, List.mem_map_of_mem column, ?_⟩
    simp only [decide_true, Bool.true_and, List.any_eq_true]
    exact ⟨run, member, by simp [start, stop]⟩
  have horizontal (gy : Int) (row : gy ∈ Int.range 0 n) :
      scanRuns (fun gx => blocked.cell gx gy &&
        !((Int.range 0 n).map fun gx => (gx, scanRuns (blocked.cell gx) n n 0)).any
          (fun (column, runs) => column = gx && runs.any fun (start, end_) =>
            start ≤ gy && gy < end_)) n n 0 = [] := by
    apply scanRuns_eq_nil
    intro gx left right
    cases shut : blocked.cell gx gy with
    | false => rfl
    | true => rw [used gx gy (Int.mem_range_iff.mpr ⟨left, right⟩) row shut]; rfl
  unfold wallSegments
  dsimp only
  have none_ := List.flatMap_eq_nil_iff.mpr fun gy row =>
    congrArg (List.map fun run : Int × Int => (⟨centre run.1, centre gy, centre (run.2 - 1),
      centre gy, wallThickness⟩ : WallSegment)) (horizontal gy row)
  refine (congrArg (_ ++ ·) none_).trans ?_
  rw [List.append_nil, List.flatMap_map, columnRuns, List.map_flatMap]
  simp only [List.map_map]
  rfl

structure ColumnRun (n : Nat) (run : Int × Int × Int) : Prop where
  column : 0 ≤ run.1 ∧ run.1 < n
  rows : 0 ≤ run.2.1 ∧ run.2.1 < run.2.2 ∧ run.2.2 ≤ n

theorem columnRun {run : Int × Int × Int} (member : run ∈ columnRuns blocked) :
    ColumnRun n run := by
  simp only [columnRuns, List.mem_flatMap, List.mem_map, Int.mem_range_iff] at member
  obtain ⟨gx, column, run, scanned, rfl⟩ := member
  obtain ⟨low, order⟩ := scanRuns_mem scanned
  exact ⟨column, low, order, scanRuns_le_stop scanned⟩

def InRun (gx gy : Int) (run : Int × Int × Int) : Prop :=
  run.1 = gx ∧ run.2.1 ≤ gy ∧ gy < run.2.2

instance {gx gy : Int} {run : Int × Int × Int} : Decidable (InRun gx gy run) :=
  inferInstanceAs (Decidable (_ ∧ _))

theorem columnRuns_count {gx gy : Int} (inside : BlockedGrid.Within n n gx gy) :
    (columnRuns blocked).countP (fun run => InRun gx gy run) =
      if blocked.cell gx gy then 1 else 0 := by
  obtain ⟨⟨left, right⟩, bottom, top⟩ := inside
  have column (x : Int) :
      ((scanRuns (blocked.cell x) n n 0).map fun run => (x, run)).countP
        (fun run => InRun gx gy run) =
      if x = gx then if blocked.cell gx gy then 1 else 0 else 0 := by
    rw [List.countP_map]
    by_cases same : x = gx
    · subst same
      have runs := @scanRuns_count (blocked.cell x) n n 0 (by omega) gy
      simpa [Function.comp_def, InRun, bottom, top] using runs
    · simp [Function.comp_def, InRun, same]
  have distinct : (Int.range 0 n).count gx = 1 := by
    refine List.count_eq_one_of_mem ?_ (Int.mem_range_iff.mpr ⟨left, right⟩)
    exact List.nodup_range.map fun first second same => by
      simpa only [Int.zero_add, Int.ofNat_inj] using same
  rw [columnRuns, List.countP_flatMap,
    List.sum_map_eq_nsmul_single gx _ fun x apart _ => by simp [column, apart], distinct]
  simp [column]

end

def WallSegment.meets (segment : WallSegment) (gridSize : ℚ) (gx gy : Int) : Bool :=
  segment.x1 < (gx + 1) * gridSize && gx * gridSize ≤ segment.x2 &&
    (segment.y1 < (gy + 1) * gridSize && gy * gridSize ≤ segment.y2)

theorem exactCentre_lt {gridSize : ℚ} (size : 0 < gridSize) (i j : Int) :
    exactCentre gridSize i < (j + 1) * gridSize ↔ i ≤ j := by
  rw [exactCentre, mul_lt_mul_iff_of_pos_right size]
  constructor
  · intro less
    by_contra beyond
    have next : (j : ℚ) + 1 ≤ i := by exact_mod_cast not_le.mp beyond
    linarith
  · intro low
    have cast : (i : ℚ) ≤ j := by exact_mod_cast low
    linarith

theorem le_exactCentre {gridSize : ℚ} (size : 0 < gridSize) (i j : Int) :
    j * gridSize ≤ exactCentre gridSize i ↔ j ≤ i := by
  rw [exactCentre, mul_le_mul_iff_of_pos_right size]
  constructor
  · intro less
    by_contra beyond
    have next : (i : ℚ) + 1 ≤ j := by exact_mod_cast not_le.mp beyond
    linarith
  · intro low
    have cast : (j : ℚ) ≤ i := by exact_mod_cast low
    linarith

theorem runSegment_meets {gridSize : ℚ} (size : 0 < gridSize) (wallThickness : ℚ)
    (run : Int × Int × Int) (gx gy : Int) :
    (runSegment (exactCentre gridSize) wallThickness run).meets gridSize gx gy =
      decide (InRun gx gy run) := by
  have last : gy ≤ run.2.2 - 1 ↔ gy < run.2.2 := by omega
  have column : run.1 = gx ↔ run.1 ≤ gx ∧ gx ≤ run.1 := by omega
  simp only [WallSegment.meets, runSegment, exactCentre_lt size, le_exactCentre size, last, InRun,
    column, Bool.decide_and]

theorem wallSegments_count {n : Nat} {blocked : BlockedGrid n n} {gridSize : ℚ}
    (size : 0 < gridSize) (wallThickness : ℚ) {gx gy : Int}
    (inside : BlockedGrid.Within n n gx gy) :
    (wallSegments (exactCentre gridSize) blocked wallThickness).countP
      (fun segment => segment.meets gridSize gx gy) = if blocked.cell gx gy then 1 else 0 := by
  rw [wallSegments_columns, List.countP_map, ← columnRuns_count inside]
  simp only [Function.comp_def, runSegment_meets size]

-- A cell holds its wall, whatever the centre is taken for.
structure Contained (centre : Int → ℚ) (gridSize halfT : ℚ) : Prop where
  size : 0 < gridSize
  thick : 0 < halfT
  low : ∀ i : Int, i * gridSize ≤ centre i - halfT
  high : ∀ i : Int, centre i + halfT < (i + 1) * gridSize

section

variable {centre : Int → ℚ} {gridSize halfT : ℚ}

theorem Contained.floor_low (contained : Contained centre gridSize halfT) (i : Int) :
    ⌊(centre i - halfT) / gridSize⌋ = i := by
  have low := contained.low i
  have high := contained.high i
  have thick := contained.thick
  rw [Int.floor_eq_iff, le_div_iff₀ contained.size, div_lt_iff₀ contained.size]
  exact ⟨low, by linarith⟩

theorem Contained.floor_high (contained : Contained centre gridSize halfT) (i : Int) :
    ⌊(centre i + halfT) / gridSize⌋ = i := by
  have low := contained.low i
  have high := contained.high i
  have thick := contained.thick
  rw [Int.floor_eq_iff, le_div_iff₀ contained.size, div_lt_iff₀ contained.size]
  exact ⟨by linarith, high⟩

theorem Contained.mono (contained : Contained centre gridSize halfT) {i j : Int} (order : i ≤ j) :
    centre i ≤ centre j := by
  rcases order.eq_or_lt with rfl | before
  · exact le_rfl
  · have next : ((i : ℚ) + 1) * gridSize ≤ j * gridSize :=
      mul_le_mul_of_nonneg_right (by exact_mod_cast before) contained.size.le
    have high := contained.high i
    have low := contained.low j
    have thick := contained.thick
    linarith

theorem cell_fillWall {n : Nat} {blocked : BlockedGrid n n} {wallThickness : ℚ}
    (contained : Contained centre gridSize halfT) {run : Int × Int × Int}
    (half : (runSegment centre wallThickness run).halfT = halfT) (listed : ColumnRun n run)
    {gx gy : Int} (inside : BlockedGrid.Within n n gx gy) :
    (fillWall gridSize blocked (runSegment centre wallThickness run)).cell gx gy = true ↔
      InRun gx gy run ∨ blocked.cell gx gy = true := by
  obtain ⟨x, start, end_⟩ := run
  obtain ⟨column, rows⟩ := listed
  dsimp only at column rows
  have order := contained.mono (show start ≤ end_ - 1 by omega)
  unfold fillWall
  rw [half]
  simp only [runSegment, min_self, max_self, min_eq_left order, max_eq_right order,
    contained.floor_low, contained.floor_high]
  refine (eachCell_iff (fun blocked : BlockedGrid n n => blocked.cell gx gy = true)
    (fun x y => gx = x ∧ gy = y) (fun x _ y _ blocked => ?_) blocked).trans (or_congr_left ?_)
  · rw [BlockedGrid.cell_put]
    split
    case isTrue same => simp [same.2]
    case isFalse apart => simp [show ¬ (gx = x ∧ gy = y) from fun same => apart ⟨inside, same⟩]
  · simp only [Int.mem_range_iff, InRun]
    constructor
    · rintro ⟨y, along, x', across, rfl, rfl⟩
      omega
    · rintro ⟨rfl, low, high⟩
      exact ⟨gy, by omega, x, by omega, rfl, rfl⟩

theorem buildBlockedGrid_wallSegments {n : Nat} (blocked : BlockedGrid n n) {wallThickness : ℚ}
    (contained : Contained centre gridSize halfT)
    (half : ∀ run, (runSegment centre wallThickness run).halfT = halfT) :
    buildBlockedGrid (wallSegments centre blocked wallThickness) n gridSize = blocked := by
  apply BlockedGrid.ext_cell
  intro gx gy inside
  have filled := foldl_iff (fun grid : BlockedGrid n n => grid.cell gx gy = true) (InRun gx gy)
    (fun run member grid => @cell_fillWall _ _ _ n grid _ contained run (half run)
      (@columnRun n blocked run member) _ _ inside) (BlockedGrid.clear n n)
  have counted := @columnRuns_count n blocked gx gy inside
  rw [buildBlockedGrid, wallSegments_columns, List.foldl_map, Bool.eq_iff_iff, filled,
    BlockedGrid.cell_clear inside]
  have some_ : (∃ run ∈ columnRuns blocked, InRun gx gy run) ↔
      0 < (columnRuns blocked).countP fun run => InRun gx gy run := by
    simp [List.countP_pos_iff]
  rw [some_, counted]
  cases blocked.cell gx gy <;> simp

end

theorem contained_exact {gridSize wallThickness : ℚ} (size : 0 < gridSize)
    (thick : 0 < wallThickness) (thin : wallThickness < gridSize) :
    Contained (exactCentre gridSize) gridSize (wallThickness * (1 / 2)) where
  size := size
  thick := by linarith
  low i := by rw [exactCentre]; linarith
  high i := by rw [exactCentre]; linarith

theorem runSegment_halfT (centre : Int → ℚ) {wallThickness : ℚ} (thick : 0 < wallThickness)
    (run : Int × Int × Int) :
    (runSegment centre wallThickness run).halfT = wallThickness * (1 / 2) := by
  simp [WallSegment.halfT, runSegment, thick.ne']

/-- Wall segments draw their grid: each blocked cell once, no open cell, and the players'
rasterisers give it back. -/
theorem wall_segments_faithful {n : Nat} (blocked : BlockedGrid n n) {gridSize wallThickness : ℚ}
    (size : 0 < gridSize) (thick : 0 < wallThickness) (thin : wallThickness < gridSize) :
    let walls := wallSegments (exactCentre gridSize) blocked wallThickness
    (∀ gx gy, BlockedGrid.Within n n gx gy →
      walls.countP (fun segment => segment.meets gridSize gx gy) =
        if blocked.cell gx gy then 1 else 0) ∧
      buildBlockedGrid walls n gridSize = blocked ∧
      ∀ map : FrameMap, map.walls = walls → map.gridSize = gridSize →
        (0 < n ∧ map.gridCount = n) ∨ (map.gridCount = 0 ∧ map.width = n * gridSize) →
        (⟨map.drawnDim, map.renderFrame⟩ : (n : Nat) × BlockedGrid n n) = ⟨n, blocked⟩ := by
  intro walls
  have rasterised := buildBlockedGrid_wallSegments blocked (contained_exact size thick thin)
    (runSegment_halfT _ thick)
  refine ⟨fun gx gy inside => wallSegments_count size wallThickness inside, rasterised, ?_⟩
  intro map drawn sized count
  have drawnSize : map.drawnSize = gridSize := by
    rw [FrameMap.drawnSize, sized, if_neg size.ne']
  have drawnDim : map.drawnDim = n := by
    unfold FrameMap.drawnDim
    rcases count with ⟨some_, counted⟩ | ⟨missing, wide⟩
    · rw [counted, if_neg some_.ne']
    · rw [if_pos missing, drawnSize, wide, mul_div_cancel_right₀ _ size.ne', Int.ceil_natCast,
        Int.toNat_natCast]
  have whole (dim : Nat) (same : dim = n) :
      (⟨dim, buildBlockedGrid walls dim gridSize⟩ : (n : Nat) × BlockedGrid n n) =
        ⟨n, blocked⟩ := by
    subst same
    rw [rasterised]
  rw [FrameMap.renderFrame, drawn, drawnSize]
  exact whole _ drawnDim

theorem wall_segments_faithful_corner :
    buildBlockedGrid (wallSegments (exactCentre 500)
        (#v[#v[true, true, false], #v[true, false, false], #v[false, false, true]]) 10) 3 500 =
      #v[#v[true, true, false], #v[true, false, false], #v[false, false, true]] :=
  (wall_segments_faithful _ (by norm_num) (by norm_num) (by norm_num)).2.1

end MazeClient
