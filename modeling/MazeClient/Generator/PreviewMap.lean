import MazeClient.Generator.Preview
import MazeClient.Maze.GeneratedMaps

set_option autoImplicit false

namespace MazeClient

open Search

namespace Preview

-- A map file as the preview reads it, with 0 for a number that is missing.
structure MapFile where
  xMax : ℚ
  gridCount : Nat := 0
  gridSize : ℚ
  walls : List WallSegment
  startPos : Point
  endPos : Point

namespace MapFile

variable (map : MapFile)

def getMapSize : ℚ := if map.xMax = 0 then 20000 else map.xMax

def getGridSize : ℚ := if map.gridSize = 0 then 500 else map.gridSize

def getGridDim : Nat :=
  if map.gridCount = 0 then ⌈map.getMapSize / map.getGridSize⌉.toNat else map.gridCount

def cellAt (position : Point) : Int × Int :=
  (⌊position.x / map.getGridSize⌋, ⌊position.y / map.getGridSize⌋)

def blocked : BlockedGrid map.getGridDim map.getGridDim :=
  buildBlockedGrid map.walls map.getGridDim map.getGridSize

def shownPath : Except String (Option (Option (List (Int × Int)))) :=
  let start := map.cellAt map.startPos
  let goal := map.cellAt map.endPos
  -- A row that is not there is `undefined`, and has no cells to write.
  if (0 ≤ start.2 ∧ start.2 < map.getGridDim) ∧ 0 ≤ goal.2 ∧ goal.2 < map.getGridDim then
    .ok (bfsFind ((map.blocked.put start.1 start.2 false).put goal.1 goal.2 false) start goal)
  else .error "TypeError"

end MapFile

def MapFile.of (data : MapData) : MapFile where
  xMax := data.mapSize
  gridSize := data.gridSize
  walls := data.walls
  startPos := data.startPos
  endPos := data.endPos

section Drawn

variable {n d : Nat} {blocked : BlockedGrid n n} {drawn : BlockedGrid d d}

/-- A drawing that has every cell of a grid in its place, and is open around it. -/
def Draws (drawn : BlockedGrid d d) (blocked : BlockedGrid n n) : Prop :=
  n ≤ d ∧ ∀ gx gy, BlockedGrid.Within d d gx gy →
    (drawn.cell gx gy = true ↔ BlockedGrid.Within n n gx gy ∧ blocked.cell gx gy = true)

def Walled (blocked : BlockedGrid n n) : Prop :=
  ∀ gx gy, BlockedGrid.Within n n gx gy →
    gx = 0 ∨ gx = (n : Int) - 1 ∨ gy = 0 ∨ gy = (n : Int) - 1 → blocked.cell gx gy = true

theorem Draws.walkable (draws : Draws drawn blocked) {gx gy : Int}
    (inside : BlockedGrid.Within n n gx gy) :
    drawn.walkable gx gy = true ↔ blocked.walkable gx gy = true := by
  have wide := draws.1
  have within : BlockedGrid.Within d d gx gy := by
    unfold BlockedGrid.Within at inside ⊢
    omega
  have same := draws.2 gx gy within
  rw [BlockedGrid.walkable_iff, BlockedGrid.walkable_iff, ← Bool.not_eq_true, ← Bool.not_eq_true,
    same]
  simp [inside]

theorem Draws.route (draws : Draws drawn blocked) (closed : Walled blocked ∨ d = n)
    {start goal : Int × Int} (open_ : blocked.walkable start.1 start.2 = true)
    {path : List (Int × Int)} :
    Route (Grid.Beside drawn.walkable) start goal path ↔
      Route (Grid.Beside blocked.walkable) start goal path := by
  let free (cell : Int × Int) : Prop := blocked.walkable cell.1 cell.2 = true
  constructor
  · refine fun route => (route.along free open_ fun a b held beside => ?_).1
    have here : BlockedGrid.Within n n a.1 a.2 := within_of_walkable held
    have there : BlockedGrid.Within d d b.1 b.2 := within_of_walkable beside.target
    have inside : BlockedGrid.Within n n b.1 b.2 := by
      rcases closed with walled | rfl
      · by_contra outside
        have shut := walled a.1 a.2 here
        have clear := BlockedGrid.walkable_iff.mp held
        have direction := beside.direction
        simp only [List.mem_cons, Prod.mk.injEq, List.not_mem_nil, or_false] at direction
        have edge : a.1 = 0 ∨ a.1 = (n : Int) - 1 ∨ a.2 = 0 ∨ a.2 = (n : Int) - 1 := by
          unfold BlockedGrid.Within at here there outside
          omega
        rw [shut edge] at clear
        cases clear
      · exact there
    have target := (draws.walkable inside).mp beside.target
    exact ⟨⟨held, target, beside.direction⟩, target⟩
  · refine fun route => (route.along free open_ fun a b held beside => ?_).1
    have source := (draws.walkable (within_of_walkable beside.source)).mpr beside.source
    have target := (draws.walkable (within_of_walkable beside.target)).mpr beside.target
    exact ⟨⟨source, target, beside.direction⟩, beside.target⟩

theorem buildBlockedGrid_draws {centre : Int → ℚ} {gridSize halfT wallThickness : ℚ}
    (contained : Contained centre gridSize halfT)
    (half : ∀ run, (runSegment centre wallThickness run).halfT = halfT) (wide : n ≤ d) :
    Draws (buildBlockedGrid (wallSegments centre blocked wallThickness) d gridSize) blocked := by
  refine ⟨wide, fun gx gy inside => ?_⟩
  have filled := foldl_iff (fun grid : BlockedGrid d d => grid.cell gx gy = true) (InRun gx gy)
    (fun run member grid => @cell_fillWall _ _ _ d grid _ contained run (half run)
      ⟨by have := (@columnRun n blocked run member).column; omega,
        by have := (@columnRun n blocked run member).rows; omega⟩ _ _ inside)
    (BlockedGrid.clear d d)
  rw [buildBlockedGrid, wallSegments_columns, List.foldl_map, filled, BlockedGrid.cell_clear inside]
  have some_ : (∃ run ∈ columnRuns blocked, InRun gx gy run) ↔
      0 < (columnRuns blocked).countP fun run => InRun gx gy run := by
    simp [List.countP_pos_iff]
  by_cases within : BlockedGrid.Within n n gx gy
  · rw [some_, columnRuns_count within]
    cases blocked.cell gx gy <;> simp [within]
  · have out : ¬ ∃ run ∈ columnRuns blocked, InRun gx gy run := by
      rintro ⟨run, member, rfl, low, high⟩
      obtain ⟨column, rows⟩ := @columnRun n blocked run member
      unfold BlockedGrid.Within at within
      omega
    simp [out, within]

end Drawn

section Rounded

variable {params : MapParams} {n : Nat}

-- Every cell leaves a hundredth of its size for each cell of the map, beside its wall.
def Roomy (params : MapParams) (n : Nat) : Prop :=
  (params.wallThickness : ℚ) + (n + 1) / 100 < params.outGridSize

-- The centres the generator writes, and the exact ones of the preview off the map.
def writtenCentre (params : MapParams) (n : Nat) (at_ : Int) : ℚ :=
  if 0 ≤ at_ ∧ at_ < n then cellCentre params.outGridSize at_
  else exactCentre (round2 params.outGridSize) at_

theorem Roomy.positive (roomy : Roomy params n) (thick : 0 < params.wallThickness) :
    0 < round2 params.outGridSize := by
  have bounds := round2_bounds params.outGridSize
  have cast : (0 : ℚ) < params.wallThickness := by exact_mod_cast thick
  have count : (0 : ℚ) ≤ n := Nat.cast_nonneg n
  unfold Roomy at roomy
  linarith

theorem Roomy.contained (roomy : Roomy params n) (thick : 0 < params.wallThickness) :
    Contained (writtenCentre params n) (round2 params.outGridSize)
      ((params.wallThickness : ℚ) * (1 / 2)) := by
  have size := roomy.positive thick
  have bounds := round2_bounds params.outGridSize
  have cast : (0 : ℚ) < params.wallThickness := by exact_mod_cast thick
  have count : (0 : ℚ) ≤ n := Nat.cast_nonneg n
  have thin : (params.wallThickness : ℚ) < round2 params.outGridSize := by
    unfold Roomy at roomy
    linarith
  have exact_ := contained_exact size cast thin
  refine ⟨size, exact_.thick, fun i => ?_, fun i => ?_⟩
  all_goals
    unfold writtenCentre
    split
    case isFalse => first | exact exact_.low i | exact exact_.high i
    case isTrue inside =>
      have low : (0 : ℚ) ≤ i := by exact_mod_cast inside.1
      have high : (i : ℚ) + 1 ≤ n := by exact_mod_cast inside.2
      have centre := round2_bounds ((i + 1 / 2) * params.outGridSize)
      unfold Roomy at roomy
      unfold cellCentre
      nlinarith

theorem writtenCentre_segments (blocked : BlockedGrid n n) (wallThickness : ℚ) :
    wallSegments (writtenCentre params n) blocked wallThickness =
      blockedToWallSegments blocked params.outGridSize wallThickness := by
  rw [blockedToWallSegments_eq, wallSegments_columns, wallSegments_columns]
  refine List.map_congr_left fun run member => ?_
  obtain ⟨column, rows⟩ := @columnRun n blocked run member
  have written (at_ : Int) (inside : 0 ≤ at_ ∧ at_ < n) :
      writtenCentre params n at_ = cellCentre params.outGridSize at_ := if_pos inside
  simp only [runSegment, written run.1 column, written run.2.1 (by omega),
    written (run.2.2 - 1) (by omega)]

theorem Roomy.floor (roomy : Roomy params n) (thick : 0 < params.wallThickness) {at_ : Int}
    (inside : 0 ≤ at_ ∧ at_ < n) :
    ⌊cellCentre params.outGridSize at_ / round2 params.outGridSize⌋ = at_ := by
  have contained := roomy.contained thick
  have low := contained.low at_
  have high := contained.high at_
  have half := contained.thick
  rw [writtenCentre, if_pos inside] at low high
  rw [Int.floor_eq_iff, le_div_iff₀ contained.size, div_lt_iff₀ contained.size]
  exact ⟨by linarith, by linarith⟩

-- The preview counts the cells from the rounded size: as many as there are, or one more.
theorem Roomy.count (roomy : Roomy params n) (thick : 0 < params.wallThickness) {width : ℚ}
    (wide : width = n * params.outGridSize) :
    n ≤ ⌈width / round2 params.outGridSize⌉.toNat ∧
      ⌈width / round2 params.outGridSize⌉.toNat ≤ n + 1 ∧
      (round2 params.outGridSize = params.outGridSize →
        ⌈width / round2 params.outGridSize⌉.toNat = n) := by
  have size := roomy.positive thick
  have bounds := round2_bounds params.outGridSize
  have cast : (0 : ℚ) < params.wallThickness := by exact_mod_cast thick
  have count : (0 : ℚ) ≤ n := Nat.cast_nonneg n
  refine ⟨?_, ?_, ?_⟩
  · have more : (((n : Int) - 1 : Int) : ℚ) < width / round2 params.outGridSize := by
      rw [lt_div_iff₀ size, wide]
      push_cast
      unfold Roomy at roomy
      nlinarith
    have ceiling := Int.lt_ceil.mpr more
    omega
  · have fewer : width / round2 params.outGridSize ≤ (((n : Int) + 1 : Int) : ℚ) := by
      rw [div_le_iff₀ size, wide]
      push_cast
      unfold Roomy at roomy
      nlinarith
    have ceiling := Int.ceil_le.mpr fewer
    omega
  · intro exact_
    rw [exact_] at size ⊢
    rw [wide, mul_div_assoc, div_self size.ne', mul_one, Int.ceil_natCast, Int.toNat_natCast]

-- Rooms of three cells and more keep the safe zones off the outer wall.
theorem furnish_walled {edgeSet : WallEdgeSet} {start goal : Room} {rng : Rng}
    (sized : 3 ≤ params.roomSize) (from_ : start.Inside params.roomDim)
    (to_ : goal.Inside params.roomDim) : Walled (params.furnish edgeSet start goal rng) := by
  intro gx gy inside border
  have wide : params.stride = params.roomSize + 1 := rfl
  have size : ((outDim params.roomDim params.roomSize : Nat) : Int) =
      params.roomDim * params.stride + 1 := by
    have positive : 0 ≤ params.roomDim * params.stride :=
      Int.mul_nonneg (by have := @MapParams.roomDim_pos params; omega) (by omega)
    exact Int.toNat_of_nonneg (by change 0 ≤ params.roomDim * params.stride + 1; omega)
  rw [size] at border
  have within {room : Room} (at_ : room.Inside params.roomDim) :
      0 ≤ room.1 * params.stride ∧ (room.1 + 1) * params.stride ≤ params.roomDim * params.stride ∧
        0 ≤ room.2 * params.stride ∧
          (room.2 + 1) * params.stride ≤ params.roomDim * params.stride := by
    have positive : 0 ≤ params.stride := by omega
    exact ⟨Int.mul_nonneg at_.left positive,
      Int.mul_le_mul_of_nonneg_right (by have := at_.right; omega) positive,
      Int.mul_nonneg at_.bottom positive,
      Int.mul_le_mul_of_nonneg_right (by have := at_.top; omega) positive⟩
  have shut : (edgesToBlockedGrid edgeSet params.roomDim params.roomSize).cell gx gy = true := by
    by_contra opened
    rw [Bool.not_eq_true, edgesToBlockedGrid_open] at opened
    obtain ⟨room, at_, -, cell⟩ := opened
    obtain ⟨left, right, bottom, top⟩ := within at_
    have onward {at_ : Int} (next : at_ + 1 < params.roomDim) :
        (at_ + 1) * params.stride + params.stride ≤ params.roomDim * params.stride := by
      have later := Int.mul_le_mul_of_nonneg_right (show at_ + 1 + 1 ≤ params.roomDim by omega)
        (show 0 ≤ params.stride by omega)
      rwa [Int.add_mul (at_ + 1), Int.one_mul] at later
    rcases cell with ⟨dx, dy, cell⟩ | ⟨dx, cell⟩ | ⟨dy, cell⟩
    all_goals
      have column := cell.column
      have row := cell.row
      rw [← wide] at column row
    · have across := cell.right
      have along := cell.up
      rw [Int.add_mul, Int.one_mul] at right top
      omega
    · have across := cell.right
      have beyond := onward cell.next
      rw [Int.add_mul, Int.one_mul] at right top row beyond
      omega
    · have along := cell.up
      have beyond := onward cell.next
      rw [Int.add_mul, Int.one_mul] at right top column beyond
      omega
  have away {room : Room} (at_ : room.Inside params.roomDim) :
      ¬ (|gx - (params.centre room).1| ≤ 1 ∧ |gy - (params.centre room).2| ≤ 1) := by
    obtain ⟨left, right, bottom, top⟩ := within at_
    rw [Int.add_mul, Int.one_mul] at right top
    simp only [abs_le, MapParams.centre]
    omega
  apply clearBlockedSafeZone_blocked _ (away to_)
  apply clearBlockedSafeZone_blocked _ (away from_)
  split
  · exact addRoomObstacles_blocked shut
  · exact shut

end Rounded

section Shown

variable {params : MapParams} {n : Nat} {data : MapData} {blocked : BlockedGrid n n}

theorem put_open {d : Nat} {drawn : BlockedGrid d d} {gx gy : Int}
    (open_ : drawn.walkable gx gy = true) : drawn.put gx gy false = drawn := by
  refine BlockedGrid.ext_cell fun x y _ => ?_
  rw [BlockedGrid.cell_put]
  split
  case isTrue same =>
    obtain ⟨-, rfl, rfl⟩ := same
    exact (BlockedGrid.walkable_iff.mp open_).symm
  case isFalse => rfl

theorem shownPath_route {map : MapFile} {start goal : Int × Int}
    (draws : Draws map.blocked blocked) (closed : Walled blocked ∨ map.getGridDim = n)
    (small : map.getGridDim ≤ 32768) (from_ : map.cellAt map.startPos = start)
    (to_ : map.cellAt map.endPos = goal)
    (reachable : 0 < shortestActionSteps blocked start.1 start.2 goal.1 goal.2) :
    ∃ path, map.shownPath = .ok (some (some path)) ∧
      ShortestRoute (Grid.Beside blocked.walkable) start goal (some path) := by
  obtain ⟨startOpen, goalOpen⟩ := shortestActionSteps_walkable reachable
  have drawnStart := (draws.walkable (within_of_walkable startOpen)).mpr startOpen
  have drawnGoal := (draws.walkable (within_of_walkable goalOpen)).mpr goalOpen
  obtain ⟨answer, ran, found⟩ := bfsFind_route small drawnStart drawnGoal
  have shortest := (ShortestRoute.congr fun _ => draws.route closed startOpen).mp found
  have shown : map.shownPath = .ok (some answer) := by
    have startRow := (within_of_walkable drawnStart).2
    have goalRow := (within_of_walkable drawnGoal).2
    rw [MapFile.shownPath, from_, to_, if_pos ⟨startRow, goalRow⟩, put_open drawnStart,
      put_open drawnGoal, ran]
  cases answer with
  | none =>
      have unreached := (shortest_bounds startOpen goalOpen shortest).1.mp rfl
      omega
  | some path => exact ⟨path, shown, shortest⟩

variable {start goal : Room} {rng seeded : Rng} {seed : Int}

theorem mapData_shown (thick : 0 < params.wallThickness)
    (sized : 1 ≤ params.roomSize)
    (roomy : Roomy params (outDim params.roomDim params.roomSize))
    (closed : 3 ≤ params.roomSize ∨ round2 params.outGridSize = params.outGridSize)
    (small : outDim params.roomDim params.roomSize < 32768)
    (from_ : start.Inside params.roomDim) (to_ : goal.Inside params.roomDim)
    (reachable : 0 < params.steps seeded start goal rng) :
    ∃ path, (MapFile.of (params.mapData seed start goal
        (params.cells seeded start goal rng))).shownPath = .ok (some (some path)) ∧
      ShortestRoute (Grid.Beside (params.cells seeded start goal rng).walkable)
        (params.centre start) (params.centre goal) (some path) := by
  let map := MapFile.of (params.mapData seed start goal (params.cells seeded start goal rng))
  have size := roomy.positive thick
  have startIn := MapParams.centre_interior sized from_
  have goalIn := MapParams.centre_interior sized to_
  unfold Interior at startIn goalIn
  have columns : (outDim params.roomDim params.roomSize : ℚ) ≠ 0 := by
    exact_mod_cast (show outDim params.roomDim params.roomSize ≠ 0 by omega)
  have positive : params.outGridSize ≠ 0 := by
    intro zero
    rw [zero] at size
    exact absurd size (by decide +kernel)
  have wide : (params.mapSize : ℚ) =
      (outDim params.roomDim params.roomSize : Nat) * params.outGridSize := by
    rw [MapParams.outGridSize, mul_div_cancel₀ _ columns]
  have gridSize : map.getGridSize = round2 params.outGridSize := if_neg size.ne'
  have mapSize : map.getMapSize = params.mapSize := by
    refine if_neg ?_
    change (params.mapSize : ℚ) ≠ 0
    rw [wide]
    exact mul_ne_zero columns positive
  have dim : map.getGridDim = ⌈(params.mapSize : ℚ) / round2 params.outGridSize⌉.toNat := by
    rw [← mapSize, ← gridSize]
    rfl
  obtain ⟨least, most, exact_⟩ := roomy.count thick wide
  rw [← dim] at least most exact_
  have draws : Draws map.blocked (params.cells seeded start goal rng) := by
    have thickness : (params.wallThickness : ℚ) ≠ 0 := by exact_mod_cast thick.ne'
    have drawn := @buildBlockedGrid_draws _ map.getGridDim (params.cells seeded start goal rng) _ _ _
      _ (roomy.contained thick) (fun run => by rw [WallSegment.halfT, runSegment, if_neg thickness])
      least
    rw [writtenCentre_segments, ← gridSize] at drawn
    exact drawn
  have walled : Walled (params.cells seeded start goal rng) ∨
      map.getGridDim = outDim params.roomDim params.roomSize :=
    closed.imp (fun sized => furnish_walled sized from_ to_) exact_
  refine shownPath_route draws walled (show map.getGridDim ≤ 32768 by omega) ?_ ?_ reachable
  · rw [MapFile.cellAt, gridSize]
    exact Prod.ext (roomy.floor thick ⟨by omega, by omega⟩) (roomy.floor thick ⟨by omega, by omega⟩)
  · rw [MapFile.cellAt, gridSize]
    exact Prod.ext (roomy.floor thick ⟨by omega, by omega⟩) (roomy.floor thick ⟨by omega, by omega⟩)

end Shown

section Made

variable {random : Int → Rng} {params : MapParams} {now : Int} {seed : Option Int}
  {result : ReachableMap} {data : MapData}

/-- The preview of a written map shows a shortest way over the sides of the cells that the
generator made, no shorter than the actions it counted and at most twice as long. -/
theorem generated_map_shown (thick : 0 < params.wallThickness) (sized : 1 ≤ params.roomSize)
    (roomy : Roomy params (outDim params.roomDim params.roomSize))
    (closed : 3 ≤ params.roomSize ∨ round2 params.outGridSize = params.outGridSize)
    (small : outDim params.roomDim params.roomSize < 32768)
    (returned : generateReachableMap random now seed params = .ok result)
    (written : result.mapData = some data) :
    ∃ grid path, result.grid = some grid ∧
      (MapFile.of data).shownPath = .ok (some (some path)) ∧
      ShortestRoute (Grid.Beside grid.blocked.walkable) data.startGrid data.goalGrid (some path) ∧
      result.pathLength ≤ (path.length - 1 : Nat) ∧
      (path.length - 1 : Nat) ≤ 2 * result.pathLength := by
  obtain ⟨map, made, reachable, some_, length, grid⟩ := retryMap_made returned written
  obtain ⟨start, goal, rng, selected⟩ := generateMap_selected made some_
  obtain ⟨from_, to_⟩ := MapParams.selectRooms_inside selected
  rw [generateMap_eq selected] at made
  cases made
  cases some_
  simp only [decide_eq_true_eq] at reachable
  obtain ⟨path, shown, shortest⟩ := mapData_shown thick sized roomy closed small from_ to_ reachable
  obtain ⟨startOpen, goalOpen⟩ := shortestActionSteps_walkable reachable
  refine ⟨_, path, grid.symm, shown, shortest, ?_⟩
  rw [← length]
  exact (shortest_bounds startOpen goalOpen shortest).2 path rfl

theorem generated_map_shown_default :
    ∃ result data path,
      generateReachableMap (fun _ => ⟨fun _ => 0, 0⟩) 0 (some 7) (defaultParams 40 500) = .ok result ∧
        result.mapData = some data ∧ (MapFile.of data).shownPath = .ok (some (some path)) := by
  obtain ⟨map, -, some_, -, returned⟩ := @generateReachableMap_default (fun _ => ⟨fun _ => 0, 0⟩)
    (defaultParams 40 500) (.inl (by decide)) (by decide) rfl 0 (some 7)
  obtain ⟨data, written⟩ := Option.isSome_iff_exists.mp some_
  obtain ⟨grid, path, -, shown, -⟩ := generated_map_shown (by decide) (by decide)
    (by unfold Roomy; decide +kernel) (.inl (by decide)) (by decide +kernel) returned written
  exact ⟨_, data, path, returned, written, shown⟩

end Made

end Preview

end MazeClient
