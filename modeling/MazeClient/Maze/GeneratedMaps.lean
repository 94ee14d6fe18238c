import MazeClient.Maze.Loadable

set_option autoImplicit false

namespace MazeClient

theorem quote_not_mem_int (value : Int) : doubleQuote ∉ (toString value).toList := by
  have plain (digits : Nat) : doubleQuote ∉ (Nat.repr digits).toList := by
    rw [Nat.toList_repr]
    intro member
    have digit := Nat.isDigit_of_mem_toDigits (by decide) (by decide) member
    exact absurd digit (by decide)
  cases value with
  | ofNat value => exact plain value
  | negSucc value =>
      change doubleQuote ∉ ("-" ++ Nat.repr (value + 1)).toList
      rw [String.toList_append, List.mem_append]
      rintro (sign | digits)
      · exact absurd sign (by decide)
      · exact plain _ digits

namespace MapParams

variable {params : MapParams} {start goal : Room}

def mapData (params : MapParams) (seed : Int) (start goal : Room)
    (blocked : BlockedGrid (outDim params.roomDim params.roomSize)
      (outDim params.roomDim params.roomSize)) : MapData where
  mapId := "maze_" ++ toString seed
  seed := seed
  difficulty := 0
  gridCols := outDim params.roomDim params.roomSize
  gridRows := outDim params.roomDim params.roomSize
  gridSize := round2 params.outGridSize
  roomSize := params.roomSize
  roomDim := params.roomDim
  mapSize := params.mapSize
  startPos := ⟨cellCentre params.outGridSize (params.centre start).1,
    cellCentre params.outGridSize (params.centre start).2⟩
  endPos := ⟨cellCentre params.outGridSize (params.centre goal).1,
    cellCentre params.outGridSize (params.centre goal).2⟩
  startGrid := params.centre start
  goalGrid := params.centre goal
  blockedBitmap := blockedBitmapBytes blocked
  walls := blockedToWallSegments blocked params.outGridSize params.wallThickness

theorem centre_interior (sized : 1 ≤ params.roomSize) {room : Room}
    (inside : room.Inside params.roomDim) :
    Interior (outDim params.roomDim params.roomSize) (params.centre room) := by
  have wide : params.stride = params.roomSize + 1 := rfl
  have last : 0 ≤ params.stride - 1 ∧ params.stride - 1 < params.stride := by omega
  have within := within_map sized inside last last
  have left : 0 ≤ room.1 * params.stride := Int.mul_nonneg inside.left (by omega)
  have bottom : 0 ≤ room.2 * params.stride := Int.mul_nonneg inside.bottom (by omega)
  unfold BlockedGrid.Within at within
  unfold Interior centre
  omega

theorem mapData_sound (sized : 1 ≤ params.roomSize) (size : 0 ≤ params.outGridSize) (seed : Int)
    {edgeSet : WallEdgeSet} {rng : Rng} (from_ : start.Inside params.roomDim)
    (to_ : goal.Inside params.roomDim) :
    (params.mapData seed start goal (params.furnish edgeSet start goal rng)).Sound
      (params.furnish edgeSet start goal rng) := by
  have startIn := centre_interior sized from_
  have goalIn := centre_interior sized to_
  unfold Interior at startIn goalIn
  have centred {at_ : Int} (low : 0 < at_) : Hundredths (cellCentre params.outGridSize at_) :=
    hundredths_cellCentre size low.le
  refine
    { mapId := ?_
      plainId := ?_
      cols := rfl
      rows := rfl
      gridSize := hundredths_round2 size
      startPos := ⟨centred startIn.1.1, centred startIn.2.1⟩
      endPos := ⟨centred goalIn.1.1, centred goalIn.2.1⟩
      startGrid := ?_
      goalGrid := ?_
      bitmap := rfl
      walls := ?_
      drawn := fun segment member => blockedToWallSegments_drawn size member
      reach := ?_ }
  · simp [mapData]
  · change doubleQuote ∉ ("maze_" ++ toString seed).toList
    rw [String.toList_append, List.mem_append]
    rintro (label | digits)
    · exact absurd label (by decide)
    · exact quote_not_mem_int seed digits
  · change Grid.Inside _ _ (params.centre start)
    unfold Grid.Inside
    omega
  · change Grid.Inside _ _ (params.centre goal)
    unfold Grid.Inside
    omega
  · obtain ⟨gx, gy, within, shut⟩ := @furnish_blocked params edgeSet start goal rng sized
    exact blockedToWallSegments_ne_nil within shut
  · simp only [MapData.coordinates, List.forall_mem_append, List.forall_mem_cons,
      List.forall_mem_flatMap]
    refine ⟨⟨cellCentre_le size (by omega), cellCentre_le size (by omega),
      cellCentre_le size (by omega), cellCentre_le size (by omega), by simp⟩, ?_⟩
    intro segment member x inside
    obtain ⟨at_, -, within, rfl⟩ := blockedToWallSegments_centres member x inside
    exact cellCentre_le size within

end MapParams

-- The rounded centre of a cell lies in the cell that the rounded grid size gives it.
def Centred (params : MapParams) (at_ : Int) : Prop :=
  ⌊cellCentre params.outGridSize at_ / round2 params.outGridSize⌋ = at_

structure MapParams.Fits (params : MapParams) (start goal : Room) : Prop where
  cells : outDim params.roomDim params.roomSize * outDim params.roomDim params.roomSize ≤ 2147483647
  positive : 0 < round2 params.outGridSize
  microunits : round2 params.outGridSize * 1000000 ≤ 4294967295
  start : Centred params (params.centre start).1 ∧ Centred params (params.centre start).2
  goal : Centred params (params.centre goal).1 ∧ Centred params (params.centre goal).2

section Made

variable {random : Int → Rng} {params : MapParams} {seed : Int} {start goal : Room} {rng : Rng}

-- The cells between two rooms, as the generator leaves them.
def MapParams.cells (params : MapParams) (seeded : Rng) (start goal : Room) (rng : Rng) :
    BlockedGrid (outDim params.roomDim params.roomSize) (outDim params.roomDim params.roomSize) :=
  params.furnish (params.openSafeZones (params.carve seeded).1 start goal) start goal rng

def MapParams.steps (params : MapParams) (seeded : Rng) (start goal : Room) (rng : Rng) : Int :=
  shortestActionSteps (params.cells seeded start goal rng) (params.centre start).1
    (params.centre start).2 (params.centre goal).1 (params.centre goal).2

theorem generateMap_eq
    (selected : params.selectRooms (params.carve (random seed)).2 = .ok (some (start, goal), rng)) :
    generateMap random seed params = .ok
      { mapData := some (params.mapData seed start goal (params.cells (random seed) start goal rng))
        edgeSet := params.openSafeZones (params.carve (random seed)).1 start goal
        reachable := decide (0 < params.steps (random seed) start goal rng)
        pathLength := params.steps (random seed) start goal rng
        grid := some ⟨_, params.cells (random seed) start goal rng, params.outGridSize⟩ } := by
  unfold generateMap
  simp only [selected, Except.bind, bind]
  rfl

theorem generateMap_selected {map : GeneratedMap} {data : MapData}
    (made : generateMap random seed params = .ok map) (some_ : map.mapData = some data) :
    ∃ start goal rng,
      params.selectRooms (params.carve (random seed)).2 = .ok (some (start, goal), rng) := by
  cases selected : params.selectRooms (params.carve (random seed)).2 with
  | error message =>
      unfold generateMap at made
      simp [selected, bind, Except.bind] at made
  | ok answer =>
      obtain ⟨rooms, rng⟩ := answer
      cases rooms with
      | none =>
          unfold generateMap at made
          simp only [selected, bind, Except.bind, pure, Except.pure, Except.ok.injEq] at made
          rw [← made] at some_
          cases some_
      | some rooms => exact ⟨rooms.1, rooms.2, rng, rfl⟩

theorem retryMap_made {remaining : Nat} {result : ReachableMap} {data : MapData}
    (returned : retryMap random seed params remaining = .ok result)
    (some_ : result.mapData = some data) :
    ∃ map, generateMap random result.finalSeed params = .ok map ∧ map.reachable = true ∧
      map.mapData = some data ∧ map.pathLength = result.pathLength ∧ map.grid = result.grid := by
  induction remaining with
  | zero =>
      unfold retryMap at returned
      cases returned
      cases some_
  | succ remaining ih =>
      unfold retryMap at returned
      cases made : generateMap random (seed + ((MAX_RETRY - (remaining + 1) : Nat) : Int)) params with
      | error message => simp [made, bind, Except.bind] at returned
      | ok map =>
          simp only [made, bind, Except.bind, pure, Except.pure] at returned
          split at returned
          case isTrue reachable =>
            cases returned
            exact ⟨map, made, reachable, some_, rfl, rfl⟩
          case isFalse => exact ih returned

theorem MapParams.outGridSize_nonneg (cells : 0 < params.gridDim) (size : 0 < params.gridSize) :
    0 ≤ params.outGridSize := by
  have whole : 0 ≤ params.mapSize := Int.mul_nonneg cells.le size.le
  have total : (0 : ℚ) ≤ params.mapSize := by exact_mod_cast whole
  exact div_nonneg total (Nat.cast_nonneg _)

-- Rounding the grid size moves the edges of a cell by a hundredth of its number at most.
theorem centred_of_large {at_ : Int} (inside : 0 ≤ at_)
    (large : ((at_ : ℚ) + 3) ≤ 100 * params.outGridSize) : Centred params at_ := by
  have count : (0 : ℚ) ≤ at_ := by exact_mod_cast inside
  obtain ⟨low, high⟩ := round2_bounds params.outGridSize
  obtain ⟨left, right⟩ := round2_bounds ((at_ + 1 / 2) * params.outGridSize)
  have positive : 0 < round2 params.outGridSize := by linarith
  have above := mul_le_mul_of_nonneg_left high count
  have below := mul_le_mul_of_nonneg_left low (show (0 : ℚ) ≤ at_ + 1 by linarith)
  unfold Centred cellCentre
  rw [Int.floor_eq_iff, le_div_iff₀ positive, div_lt_iff₀ positive]
  constructor <;> linarith

theorem MapParams.fits_of_large (sized : 1 ≤ params.roomSize)
    (large : ((outDim params.roomDim params.roomSize : Nat) : ℚ) + 2 ≤ 100 * params.outGridSize)
    (cells : outDim params.roomDim params.roomSize * outDim params.roomDim params.roomSize ≤ 2147483647)
    (microunits : round2 params.outGridSize * 1000000 ≤ 4294967295)
    (from_ : start.Inside params.roomDim) (to_ : goal.Inside params.roomDim) :
    params.Fits start goal := by
  have centred {at_ : Int} (inside : 0 < at_ ∧
      at_ < ((outDim params.roomDim params.roomSize : Nat) : Int) - 1) : Centred params at_ := by
    have high : (at_ : ℚ) + 2 ≤ ((outDim params.roomDim params.roomSize : Nat) : ℚ) := by
      exact_mod_cast (show at_ + 2 ≤ ((outDim params.roomDim params.roomSize : Nat) : Int) by omega)
    exact centred_of_large inside.1.le (by linarith)
  have startIn := centre_interior sized from_
  have goalIn := centre_interior sized to_
  have columns : (0 : ℚ) ≤ ((outDim params.roomDim params.roomSize : Nat) : ℚ) := Nat.cast_nonneg _
  have positive : 0 < round2 params.outGridSize := by
    linarith [(round2_bounds params.outGridSize).1]
  exact ⟨cells, positive, microunits, ⟨centred startIn.1, centred startIn.2⟩,
    centred goalIn.1, centred goalIn.2⟩

theorem MapParams.loads_iff_fits {seeded : Rng} (sized : 1 ≤ params.roomSize)
    (size : 0 ≤ params.outGridSize) (from_ : start.Inside params.roomDim)
    (to_ : goal.Inside params.roomDim) (reachable : 0 < params.steps seeded start goal rng) :
    Loads (params.mapData seed start goal (params.cells seeded start goal rng))
      (params.cells seeded start goal rng) (params.steps seeded start goal rng) ↔
      params.Fits start goal := by
  have sound := @mapData_sound params start goal sized size seed
    (params.openSafeZones (params.carve seeded).1 start goal) rng from_ to_
  have loads := loads_iff sound (centre_interior sized from_) (centre_interior sized to_) rfl reachable
  rw [isGridSize_iff sound.gridSize] at loads
  exact loads.trans ⟨fun ⟨⟨sized, cells⟩, start, goal⟩ => ⟨cells, sized.1, sized.2, start, goal⟩,
    fun fits => ⟨⟨⟨fits.positive, fits.microunits⟩, fits.cells⟩, fits.start, fits.goal⟩⟩

theorem generated_map_loads_iff {now : Int} {seed : Option Int} {result : ReachableMap}
    {data : MapData} (cells : 0 < params.gridDim) (size : 0 < params.gridSize)
    (sized : 1 ≤ params.roomSize)
    (returned : generateReachableMap random now seed params = .ok result)
    (written : result.mapData = some data) :
    ∃ start goal rng grid,
      params.selectRooms (params.carve (random result.finalSeed)).2 =
        .ok (some (start, goal), rng) ∧
      result.grid = some grid ∧
      (Loads data grid.blocked result.pathLength ↔ params.Fits start goal) := by
  obtain ⟨map, made, reachable, some_, length, grid⟩ := retryMap_made returned written
  obtain ⟨start, goal, rng, selected⟩ := generateMap_selected made some_
  obtain ⟨from_, to_⟩ := MapParams.selectRooms_inside selected
  rw [generateMap_eq selected] at made
  cases made
  cases some_
  simp only [decide_eq_true_eq] at reachable
  refine ⟨start, goal, rng, _, selected, grid.symm, ?_⟩
  rw [← length]
  exact MapParams.loads_iff_fits sized (MapParams.outGridSize_nonneg cells size) from_ to_ reachable

end Made

def defaultParams (gridCount gridSize : Int) : MapParams where
  gridDim := gridCount
  gridSize := gridSize
  wallThickness := 10
  extraOpenRatio := 8 / 100
  startEndMode := .default
  fixedStart := ⟨750, 750⟩
  fixedEnd := ⟨19750, 19750⟩
  minDistance := 5
  roomSize := 3

theorem generated_map_loads_default :
    ∃ result data grid,
      generateReachableMap (fun _ => ⟨fun _ => 0, 0⟩) 0 (some 7) (defaultParams 40 500) = .ok result ∧
        result.mapData = some data ∧ result.grid = some grid ∧
        Loads data grid.blocked result.pathLength := by
  obtain ⟨map, -, some_, -, returned⟩ := @generateReachableMap_default (fun _ => ⟨fun _ => 0, 0⟩)
    (defaultParams 40 500) (.inl (by decide)) (by decide) rfl 0 (some 7)
  obtain ⟨data, written⟩ := Option.isSome_iff_exists.mp some_
  obtain ⟨start, goal, rng, grid, selected, made, loads⟩ :=
    generated_map_loads_iff (by decide) (by decide) (by decide) returned written
  obtain ⟨from_, to_⟩ := MapParams.selectRooms_inside selected
  refine ⟨_, data, grid, returned, written, made, loads.mpr ?_⟩
  exact MapParams.fits_of_large (by decide) (by decide +kernel) (by decide +kernel)
    (by decide +kernel) from_ to_

theorem default_loads_iff {random : Int → Rng} {params : MapParams} (solvable : params.Solvable)
    (cells : 0 < params.gridDim) (size : 0 < params.gridSize) (sized : 1 ≤ params.roomSize)
    (default_ : params.startEndMode = .default) (now : Int) (seed : Option Int) :
    ∃ result data grid, generateReachableMap random now seed params = .ok result ∧
      result.mapData = some data ∧ result.grid = some grid ∧
      (Loads data grid.blocked result.pathLength ↔
        params.Fits (0, 0) (params.roomDim - 1, params.roomDim - 1)) := by
  obtain ⟨map, made, -, steps, returned⟩ :=
    @generateReachableMap_default random params solvable sized default_ now seed
  have selected := selectRooms_default default_
    (params.carve (random (seed.getD (now % 10 ^ 9)))).2
  obtain ⟨from_, to_⟩ := MapParams.selectRooms_inside selected
  rw [generateMap_eq selected] at made
  cases made
  exact ⟨_, _, _, returned, rfl, rfl, MapParams.loads_iff_fits sized
    (MapParams.outGridSize_nonneg cells size) from_ to_ steps⟩

-- The goal's cell is 126, but the position written for it lies in cell 125.
theorem generated_map_refused :
    ∃ result data grid,
      generateReachableMap (fun _ => ⟨fun _ => 0, 0⟩) 0 (some 7) (defaultParams 131 1) = .ok result ∧
        result.mapData = some data ∧ result.grid = some grid ∧
        ¬ Loads data grid.blocked result.pathLength := by
  obtain ⟨result, data, grid, returned, written, made, loads⟩ :=
    @default_loads_iff (fun _ => ⟨fun _ => 0, 0⟩) (defaultParams 131 1) (.inl (by decide))
      (by decide) (by decide) (by decide) rfl 0 (some 7)
  refine ⟨result, data, grid, returned, written, made, fun loaded => ?_⟩
  have elsewhere : ¬ Centred (defaultParams 131 1) 126 := by
    unfold Centred
    decide +kernel
  exact elsewhere (loads.mp loaded).goal.1

end MazeClient
