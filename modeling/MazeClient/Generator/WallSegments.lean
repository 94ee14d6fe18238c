import MazeClient.Generator.Solvable
import Mathlib.Tactic.Linarith

set_option autoImplicit false

namespace MazeClient

open Rounding

-- A number of two decimals that is not negative.
def Hundredths (x : ℚ) : Prop := ∃ hundredths : Nat, x * 100 = hundredths

theorem Hundredths.nonneg {x : ℚ} (two : Hundredths x) : 0 ≤ x := by
  obtain ⟨hundredths, equal⟩ := two
  have positive : (0 : ℚ) ≤ x * 100 := by
    rw [equal]
    exact Nat.cast_nonneg _
  linarith

def WallSegment.coordinates (segment : WallSegment) : List ℚ :=
  [segment.x1, segment.y1, segment.x2, segment.y2]

structure WallSegment.Drawn (segment : WallSegment) : Prop where
  x1 : Hundredths segment.x1
  y1 : Hundredths segment.y1
  x2 : Hundredths segment.x2
  y2 : Hundredths segment.y2

theorem WallSegment.Drawn.coordinates {segment : WallSegment} (drawn : segment.Drawn) :
    ∀ x ∈ segment.coordinates, Hundredths x := by
  simp only [WallSegment.coordinates, List.forall_mem_cons]
  exact ⟨drawn.x1, drawn.y1, drawn.x2, drawn.y2, by simp⟩

theorem round2_bounds (x : ℚ) : x - 1 / 200 ≤ round2 x ∧ round2 x ≤ x + 1 / 200 := by
  obtain ⟨low, high⟩ := roundHalfEven_bounds (x * 100)
  unfold round2
  constructor <;> linarith

theorem hundredths_round2 {x : ℚ} (nonneg : 0 ≤ x) : Hundredths (round2 x) := by
  have positive : 0 ≤ roundHalfEven (x * 100) := roundHalfEven_nonneg (by linarith)
  refine ⟨(roundHalfEven (x * 100)).toNat, ?_⟩
  have cast : (((roundHalfEven (x * 100)).toNat : Int) : ℚ) = (roundHalfEven (x * 100) : ℚ) := by
    rw [Int.toNat_of_nonneg positive]
  rw [round2, div_mul_cancel₀ _ (by norm_num), ← cast]
  rfl

theorem hundredths_cellCentre {gridSize : ℚ} (size : 0 ≤ gridSize) {at_ : Int} (inside : 0 ≤ at_) :
    Hundredths (cellCentre gridSize at_) := by
  have positive : (0 : ℚ) ≤ at_ := by exact_mod_cast inside
  exact hundredths_round2 (mul_nonneg (by linarith) size)

-- How far the rounded grid size lets a centre lie.
theorem cellCentre_le {n : Nat} {gridSize : ℚ} (size : 0 ≤ gridSize) {at_ : Int} (inside : at_ < n) :
    cellCentre gridSize at_ ≤ (n + 1) * (round2 gridSize + 1) := by
  have column : (at_ : ℚ) + 1 ≤ n := by exact_mod_cast inside
  have count : (0 : ℚ) ≤ n := Nat.cast_nonneg n
  have rounded := (round2_bounds gridSize).1
  have positive := (hundredths_round2 size).nonneg
  have exact_ : ((at_ : ℚ) + 1 / 2) * gridSize ≤ n * gridSize :=
    mul_le_mul_of_nonneg_right (by linarith) size
  have written : (n : ℚ) * gridSize ≤ n * (round2 gridSize + 1 / 200) :=
    mul_le_mul_of_nonneg_left (by linarith) count
  calc cellCentre gridSize at_ ≤ (at_ + 1 / 2) * gridSize + 1 / 200 := (round2_bounds _).2
    _ ≤ n * (round2 gridSize + 1 / 200) + 1 / 200 := by linarith
    _ ≤ (n + 1) * (round2 gridSize + 1) := by linarith

theorem le_runEnd (blocked : Int → Bool) (fuel : Nat) (at_ : Int) : at_ ≤ runEnd blocked fuel at_ := by
  induction fuel generalizing at_ with
  | zero => exact le_rfl
  | succ fuel ih =>
      unfold runEnd
      split
      · exact (by omega : at_ ≤ at_ + 1).trans (ih (at_ + 1))
      · exact le_rfl

theorem lt_runEnd {blocked : Int → Bool} {fuel : Nat} {at_ : Int} (here : blocked at_ = true)
    (some_ : 0 < fuel) : at_ < runEnd blocked fuel at_ := by
  cases fuel with
  | zero => exact absurd some_ (lt_irrefl 0)
  | succ fuel =>
      rw [runEnd, if_pos here]
      exact (by omega : at_ < at_ + 1).trans_le (le_runEnd blocked fuel (at_ + 1))

theorem scanRuns_mem {blocked : Int → Bool} {stop : Int} {fuel : Nat} {at_ : Int} {run : Int × Int}
    (member : run ∈ scanRuns blocked stop fuel at_) : at_ ≤ run.1 ∧ run.1 < run.2 := by
  induction fuel generalizing at_ with
  | zero => cases member
  | succ fuel ih =>
      unfold scanRuns at member
      split at member
      · cases member
      case isFalse inside =>
      split at member
      case isTrue here =>
        have later := lt_runEnd here (show 0 < (stop - at_).toNat by omega)
        rcases List.mem_cons.mp member with rfl | member
        · exact ⟨le_rfl, later⟩
        · have := ih member
          omega
      case isFalse => have := ih member; omega

theorem runEnd_spec {blocked : Int → Bool} (fuel : Nat) (at_ : Int) :
    runEnd blocked fuel at_ ≤ at_ + fuel ∧
      (∀ cell, at_ ≤ cell → cell < runEnd blocked fuel at_ → blocked cell = true) ∧
      (runEnd blocked fuel at_ < at_ + fuel → blocked (runEnd blocked fuel at_) = false) := by
  induction fuel generalizing at_ with
  | zero =>
      refine ⟨?_, ?_, ?_⟩ <;> simp only [runEnd] <;> omega
  | succ fuel ih =>
      rw [runEnd]
      split
      case isTrue here =>
        obtain ⟨bound, run, ends⟩ := ih (at_ + 1)
        refine ⟨by omega, fun cell low high => ?_, fun short => ends (by omega)⟩
        by_cases first : cell = at_
        · exact first ▸ here
        · exact run cell (by omega) high
      case isFalse there =>
        exact ⟨by omega, by omega, fun _ => by simpa using there⟩

theorem scanRuns_le_stop {blocked : Int → Bool} {stop : Int} {fuel : Nat} {at_ : Int}
    {run : Int × Int} (member : run ∈ scanRuns blocked stop fuel at_) : run.2 ≤ stop := by
  induction fuel generalizing at_ with
  | zero => cases member
  | succ fuel ih =>
      unfold scanRuns at member
      split at member
      · cases member
      case isFalse inside =>
      split at member
      case isTrue here =>
        obtain ⟨bound, -⟩ := @runEnd_spec blocked (stop - at_).toNat at_
        rcases List.mem_cons.mp member with rfl | member
        · dsimp only
          omega
        · exact ih member
      case isFalse => exact ih member

theorem scanRuns_ne_nil {blocked : Int → Bool} {stop : Int} {fuel : Nat} {at_ cell : Int}
    (here : blocked cell = true) (from_ : at_ ≤ cell) (to_ : cell < stop)
    (enough : cell < at_ + fuel) : scanRuns blocked stop fuel at_ ≠ [] := by
  induction fuel generalizing at_ with
  | zero => omega
  | succ fuel ih =>
      unfold scanRuns
      rw [if_neg (by omega)]
      split
      · simp
      case isFalse clear =>
        have apart : at_ ≠ cell := by
          rintro rfl
          exact clear here
        exact ih (by omega) (by omega)

section

variable {n : Nat} {blocked : BlockedGrid n n} {gridSize wallThickness : ℚ}

theorem blockedToWallSegments_centres {segment : WallSegment}
    (member : segment ∈ blockedToWallSegments blocked gridSize wallThickness) :
    ∀ x ∈ segment.coordinates, ∃ at_ : Int, 0 ≤ at_ ∧ at_ < n ∧ x = cellCentre gridSize at_ := by
  unfold blockedToWallSegments at member
  simp only [List.mem_append, List.mem_flatMap, List.mem_map, Int.mem_range_iff] at member
  simp only [WallSegment.coordinates, List.forall_mem_cons]
  rcases member with ⟨column, ⟨gx, across, rfl⟩, run, scanned, rfl⟩ | ⟨gy, along, run, scanned, rfl⟩
  · have low := scanRuns_mem scanned
    have high := scanRuns_le_stop scanned
    exact ⟨⟨gx, across.1, across.2, rfl⟩, ⟨run.1, low.1, by omega, rfl⟩,
      ⟨gx, across.1, across.2, rfl⟩, ⟨run.2 - 1, by omega, by omega, rfl⟩, by simp⟩
  · have low := scanRuns_mem scanned
    have high := scanRuns_le_stop scanned
    exact ⟨⟨run.1, low.1, by omega, rfl⟩, ⟨gy, along.1, along.2, rfl⟩,
      ⟨run.2 - 1, by omega, by omega, rfl⟩, ⟨gy, along.1, along.2, rfl⟩, by simp⟩

theorem blockedToWallSegments_drawn (size : 0 ≤ gridSize) {segment : WallSegment}
    (member : segment ∈ blockedToWallSegments blocked gridSize wallThickness) : segment.Drawn := by
  have drawn : ∀ x ∈ segment.coordinates, Hundredths x := by
    intro x inside
    obtain ⟨at_, low, -, rfl⟩ := blockedToWallSegments_centres member x inside
    exact hundredths_cellCentre size low
  constructor <;> exact drawn _ (by simp [WallSegment.coordinates])

theorem blockedToWallSegments_ne_nil {gx gy : Int} (inside : BlockedGrid.Within n n gx gy)
    (here : blocked.cell gx gy = true) : blockedToWallSegments blocked gridSize wallThickness ≠ [] := by
  obtain ⟨⟨left, right⟩, bottom, top⟩ := inside
  have runs : scanRuns (blocked.cell gx) n n 0 ≠ [] :=
    scanRuns_ne_nil here bottom top (by omega)
  intro empty
  unfold blockedToWallSegments at empty
  have vertical := List.flatMap_eq_nil_iff.mp (List.append_eq_nil_iff.mp empty).1
  have column := vertical (gx, scanRuns (blocked.cell gx) n n 0)
    (List.mem_map.mpr ⟨gx, Int.mem_range_iff.mpr ⟨left, right⟩, rfl⟩)
  exact runs (List.map_eq_nil_iff.mp column)

end

theorem addRoomObstacles_blocked {n : Nat} {blocked : BlockedGrid n n} {gridDim roomSize : Int}
    {density : ℚ} {rng : Rng} {start goal : Room} {radius gx gy : Int}
    (shut : blocked.cell gx gy = true) :
    (addRoomObstacles blocked gridDim roomSize density rng start goal radius).1.cell gx gy = true := by
  unfold addRoomObstacles
  split
  · exact shut
  refine @eachCell_keeps _ (fun state : BlockedGrid n n × Rng => state.1.cell gx gy = true) _ _ _
    (fun rx _ ry _ state kept => ?_) _ shut
  dsimp only
  split
  · exact kept
  split
  · exact kept
  refine @eachCell_keeps _ (fun state : BlockedGrid n n × Rng => state.1.cell gx gy = true) _ _ _
    (fun dx _ dy _ state kept => ?_) _ kept
  dsimp only
  split
  case isFalse => exact kept
  rw [BlockedGrid.cell_put]
  split
  · rfl
  · exact kept

theorem clearBlockedSafeZone_blocked {n : Nat} {blocked : BlockedGrid n n} {cx cy radius gx gy : Int}
    (shut : blocked.cell gx gy = true) (away : ¬ (|gx - cx| ≤ radius ∧ |gy - cy| ≤ radius)) :
    (clearBlockedSafeZone blocked cx cy radius).cell gx gy = true := by
  refine @eachCell_keeps _ (fun blocked : BlockedGrid n n => blocked.cell gx gy = true) _ _ _
    (fun dx across dy along blocked kept => ?_) _ shut
  rw [Int.mem_range_iff] at across along
  split
  case isFalse => exact kept
  rw [BlockedGrid.cell_put, if_neg]
  · exact kept
  rintro ⟨-, rfl, rfl⟩
  refine away ⟨abs_le.mpr ⟨by omega, by omega⟩, abs_le.mpr ⟨by omega, by omega⟩⟩

namespace MapParams

variable {params : MapParams} {edgeSet : WallEdgeSet} {start goal : Room} {rng : Rng}

-- The corners lie on the outer wall, where no room and no corridor is.
theorem corner_blocked (sized : 1 ≤ params.roomSize) {gx gy : Int}
    (column : gx = 0 ∨ gx = params.roomDim * params.stride)
    (row : gy = 0 ∨ gy = params.roomDim * params.stride) :
    (edgesToBlockedGrid edgeSet params.roomDim params.roomSize).cell gx gy = true := by
  by_contra opened
  rw [Bool.not_eq_true, edgesToBlockedGrid_open] at opened
  obtain ⟨room, inside, -, cell⟩ := opened
  have wide : params.stride = params.roomSize + 1 := rfl
  have last : (0 ≤ params.stride - 1 ∧ params.stride - 1 < params.stride) := by omega
  have within := within_map sized inside last last
  have size : ((outDim params.roomDim params.roomSize : Nat) : Int) =
      params.roomDim * params.stride + 1 := by
    have positive : 0 ≤ params.roomDim * params.stride :=
      Int.mul_nonneg (by have := @roomDim_pos params; omega) (by omega)
    exact Int.toNat_of_nonneg (by change 0 ≤ params.roomDim * params.stride + 1; omega)
  unfold BlockedGrid.Within at within
  rw [size] at within
  have left : 0 ≤ room.1 * params.stride := Int.mul_nonneg inside.left (by omega)
  have bottom : 0 ≤ room.2 * params.stride := Int.mul_nonneg inside.bottom (by omega)
  rcases cell with ⟨dx, dy, cell⟩ | ⟨dx, cell⟩ | ⟨dy, cell⟩
  · have across := cell.column
    rw [← wide] at across
    have := cell.right
    omega
  · have across := cell.column
    rw [← wide] at across
    have := cell.right
    omega
  · have along := cell.row
    rw [← wide] at along
    have := cell.up
    omega

theorem furnish_blocked (sized : 1 ≤ params.roomSize) :
    ∃ gx gy, BlockedGrid.Within (outDim params.roomDim params.roomSize)
        (outDim params.roomDim params.roomSize) gx gy ∧
      (params.furnish edgeSet start goal rng).cell gx gy = true := by
  have wide : params.stride = params.roomSize + 1 := rfl
  have dims := @roomDim_pos params
  have large : 4 ≤ params.roomDim * params.stride :=
    Int.mul_le_mul dims (show 2 ≤ params.stride by omega) (by decide) (by omega)
  have size : ((outDim params.roomDim params.roomSize : Nat) : Int) =
      params.roomDim * params.stride + 1 :=
    Int.toNat_of_nonneg (by change 0 ≤ params.roomDim * params.stride + 1; omega)
  have corner {gx gy : Int} (column : gx = 0 ∨ gx = params.roomDim * params.stride)
      (row : gy = 0 ∨ gy = params.roomDim * params.stride)
      (away : ¬ (|gx - (params.centre start).1| ≤ 1 ∧ |gy - (params.centre start).2| ≤ 1))
      (away' : ¬ (|gx - (params.centre goal).1| ≤ 1 ∧ |gy - (params.centre goal).2| ≤ 1)) :
      ∃ gx gy, BlockedGrid.Within (outDim params.roomDim params.roomSize)
          (outDim params.roomDim params.roomSize) gx gy ∧
        (params.furnish edgeSet start goal rng).cell gx gy = true := by
    refine ⟨gx, gy, ?_, ?_⟩
    · unfold BlockedGrid.Within
      rw [size]
      omega
    · apply clearBlockedSafeZone_blocked _ away'
      apply clearBlockedSafeZone_blocked _ away
      split
      · exact addRoomObstacles_blocked (corner_blocked sized column row)
      · exact corner_blocked sized column row
  by_contra none_
  have near {gx gy : Int} (column : gx = 0 ∨ gx = params.roomDim * params.stride)
      (row : gy = 0 ∨ gy = params.roomDim * params.stride) :
      (|gx - (params.centre start).1| ≤ 1 ∧ |gy - (params.centre start).2| ≤ 1) ∨
        (|gx - (params.centre goal).1| ≤ 1 ∧ |gy - (params.centre goal).2| ≤ 1) := by
    by_contra away
    exact none_ (corner column row (fun near => away (.inl near)) fun near => away (.inr near))
  clear corner none_
  generalize params.centre start = a at near
  generalize params.centre goal = b at near
  generalize params.roomDim * params.stride = m at near large
  have first := @near 0 0 (.inl rfl) (.inl rfl)
  have second := @near m 0 (.inr rfl) (.inl rfl)
  have third := @near 0 m (.inl rfl) (.inr rfl)
  simp only [abs_le] at first second third
  omega

end MapParams

end MazeClient
