import MazeClient.Generator.BlockedGrid
import MazeClient.Shared.Rounding

set_option autoImplicit false

namespace MazeClient

open Rounding

def round2 (x : ℚ) : ℚ := roundHalfEven (x * 100) / 100

def truncate (x : ℚ) : Int := x.num.tdiv x.den

structure Point where
  x : ℚ
  y : ℚ
deriving DecidableEq

structure WallSegment where
  x1 : ℚ
  y1 : ℚ
  x2 : ℚ
  y2 : ℚ
  thickness : ℚ
deriving DecidableEq

-- One past the blocked run that goes on at `at_`.
def runEnd (blocked : Int → Bool) : Nat → Int → Int
  | 0, at_ => at_
  | fuel + 1, at_ => if blocked at_ then runEnd blocked fuel (at_ + 1) else at_

def scanRuns (blocked : Int → Bool) (stop : Int) : Nat → Int → List (Int × Int)
  | 0, _ => []
  | fuel + 1, at_ =>
      if stop ≤ at_ then []
      else if blocked at_ then
        let end_ := runEnd blocked (stop - at_).toNat at_
        (at_, end_) :: scanRuns blocked stop fuel end_
      else scanRuns blocked stop fuel (at_ + 1)

def cellCentre (gridSize : ℚ) (at_ : Int) : ℚ := round2 ((at_ + 1 / 2) * gridSize)

def blockedToWallSegments {n : Nat} (blocked : BlockedGrid n n) (gridSize wallThickness : ℚ) :
    List WallSegment :=
  let columns := (Int.range 0 n).map fun gx => (gx, scanRuns (blocked.cell gx) n n 0)
  let used (gx gy : Int) : Bool := columns.any fun (column, runs) =>
    column = gx && runs.any fun (start, end_) => start ≤ gy && gy < end_
  let vertical := columns.flatMap fun (gx, runs) => runs.map fun (start, end_) =>
    { x1 := cellCentre gridSize gx
      y1 := cellCentre gridSize start
      x2 := cellCentre gridSize gx
      y2 := cellCentre gridSize (end_ - 1)
      thickness := wallThickness }
  let horizontal := (Int.range 0 n).flatMap fun gy =>
    (scanRuns (fun gx => blocked.cell gx gy && !used gx gy) n n 0).map fun (start, end_) =>
      { x1 := cellCentre gridSize start
        y1 := cellCentre gridSize gy
        x2 := cellCentre gridSize (end_ - 1)
        y2 := cellCentre gridSize gy
        thickness := wallThickness }
  vertical ++ horizontal

def generateRandomStartEnd (gridDim minDistance : Int) : Nat → Rng → Option (Room × Room) × Rng
  | 0, rng => (none, rng)
  | tries + 1, rng =>
      let (sx, rng) := rng.randint 0 (gridDim - 1)
      let (sy, rng) := rng.randint 0 (gridDim - 1)
      let (ex, rng) := rng.randint 0 (gridDim - 1)
      let (ey, rng) := rng.randint 0 (gridDim - 1)
      -- The distance is a square root.
      if minDistance ≤ 0 ∨ minDistance ^ 2 ≤ (sx - ex) ^ 2 + (sy - ey) ^ 2 then
        (some ((sx, sy), (ex, ey)), rng)
      else generateRandomStartEnd gridDim minDistance tries rng

-- Any mode but the first two is the default one.
inductive StartEndMode
  | fixed
  | random
  | default
deriving DecidableEq

structure MapParams where
  gridDim : Int
  gridSize : Int
  wallThickness : Int
  extraOpenRatio : ℚ
  startEndMode : StartEndMode
  fixedStart : Point
  fixedEnd : Point
  minDistance : Int
  roomSize : Int := 1
  roomObstacleDensity : ℚ := 0

namespace MapParams

variable (params : MapParams)

def stride : Int := params.roomSize + 1

def roomDim : Int :=
  if params.gridDim / params.stride < 2 then 2 else params.gridDim / params.stride

def mapSize : Int := params.gridDim * params.gridSize

def outGridSize : ℚ := params.mapSize / outDim params.roomDim params.roomSize

def centre (room : Room) : Int × Int :=
  (room.1 * params.stride + 1 + params.roomSize / 2,
    room.2 * params.stride + 1 + params.roomSize / 2)

-- The room nearest to a position.
def roomOf (position : Point) : Room :=
  let room (at_ : ℚ) := max 0 (min (params.roomDim - 1)
    ((truncate (at_ / params.outGridSize) - 1) / params.stride))
  (room position.x, room position.y)

def carve (rng : Rng) : WallEdgeSet × Rng :=
  let (edgeSet, rng) := generateMazeEdges params.roomDim rng
  extraOpenWalls edgeSet params.extraOpenRatio rng

def selectRooms (rng : Rng) : Except String (Option (Room × Room) × Rng) :=
  match params.startEndMode with
  | .fixed =>
      if params.outGridSize = 0 then .error "float division by zero"
      else .ok (some (params.roomOf params.fixedStart, params.roomOf params.fixedEnd), rng)
  | .random => .ok (generateRandomStartEnd params.roomDim params.minDistance 500 rng)
  | .default => .ok (some ((0, 0), (params.roomDim - 1, params.roomDim - 1)), rng)

def openSafeZones (edgeSet : WallEdgeSet) (start goal : Room) : WallEdgeSet :=
  clearSafeZone (clearSafeZone edgeSet params.roomDim start.1 start.2 1) params.roomDim goal.1 goal.2
    1

def furnish (edgeSet : WallEdgeSet) (start goal : Room) (rng : Rng) :
    BlockedGrid (outDim params.roomDim params.roomSize) (outDim params.roomDim params.roomSize) :=
  let blocked := edgesToBlockedGrid edgeSet params.roomDim params.roomSize
  let blocked :=
    if 0 < params.roomObstacleDensity ∧ 2 ≤ params.roomSize then
      (addRoomObstacles blocked params.roomDim params.roomSize params.roomObstacleDensity rng start
        goal 1).1
    else blocked
  let blocked := clearBlockedSafeZone blocked (params.centre start).1 (params.centre start).2 1
  clearBlockedSafeZone blocked (params.centre goal).1 (params.centre goal).2 1

end MapParams

structure MapData where
  mapId : String
  seed : Int
  difficulty : Int
  gridCols : Nat
  gridRows : Nat
  gridSize : ℚ
  roomSize : Int
  roomDim : Int
  mapSize : Int
  startPos : Point
  endPos : Point
  startGrid : Int × Int
  goalGrid : Int × Int
  blockedBitmap : List UInt8
  walls : List WallSegment

structure GeneratedGrid where
  outDim : Nat
  blocked : BlockedGrid outDim outDim
  outGridSize : ℚ

-- A result without map data has no grid either.
structure GeneratedMap where
  mapData : Option MapData
  edgeSet : WallEdgeSet
  reachable : Bool
  pathLength : Int
  grid : Option GeneratedGrid

def generateMap (random : Int → Rng) (seed : Int) (params : MapParams) :
    Except String GeneratedMap := do
  let (edgeSet, rng) := params.carve (random seed)
  let (selected, rng) ← params.selectRooms rng
  match selected with
  | none => return { mapData := none, edgeSet, reachable := false, pathLength := -1, grid := none }
  | some (start, goal) =>
    let edgeSet := params.openSafeZones edgeSet start goal
    let blocked := params.furnish edgeSet start goal rng
    let (startGx, startGy) := params.centre start
    let (endGx, endGy) := params.centre goal
    let pathLength := shortestActionSteps blocked startGx startGy endGx endGy
    let walls := blockedToWallSegments blocked params.outGridSize params.wallThickness
    return {
      mapData := some {
        mapId := "maze_" ++ toString seed
        seed
        difficulty := 0
        gridCols := outDim params.roomDim params.roomSize
        gridRows := outDim params.roomDim params.roomSize
        gridSize := round2 params.outGridSize
        roomSize := params.roomSize
        roomDim := params.roomDim
        mapSize := params.mapSize
        startPos := ⟨cellCentre params.outGridSize startGx, cellCentre params.outGridSize startGy⟩
        endPos := ⟨cellCentre params.outGridSize endGx, cellCentre params.outGridSize endGy⟩
        startGrid := (startGx, startGy)
        goalGrid := (endGx, endGy)
        blockedBitmap := blockedBitmapBytes blocked
        walls }
      edgeSet
      reachable := 0 < pathLength
      pathLength
      grid := some ⟨_, blocked, params.outGridSize⟩ }

structure ReachableMap where
  mapData : Option MapData
  edgeSet : Option WallEdgeSet
  pathLength : Int
  finalSeed : Int
  retryCount : Nat
  grid : Option GeneratedGrid

def MAX_RETRY : Nat := 100

def retryMap (random : Int → Rng) (seed : Int) (params : MapParams) :
    Nat → Except String ReachableMap
  | 0 => .ok
      { mapData := none, edgeSet := none, pathLength := -1, finalSeed := seed,
        retryCount := MAX_RETRY, grid := none }
  | remaining + 1 => do
      let attempt := MAX_RETRY - (remaining + 1)
      let currentSeed := seed + attempt
      let result ← generateMap random currentSeed params
      if result.reachable then
        return {
          mapData := result.mapData
          edgeSet := some result.edgeSet
          pathLength := result.pathLength
          finalSeed := currentSeed
          retryCount := attempt
          grid := result.grid }
      else retryMap random seed params remaining

def generateReachableMap (random : Int → Rng) (now : Int) (seed : Option Int) (params : MapParams) :
    Except String ReachableMap :=
  retryMap random (seed.getD (now % 10 ^ 9)) params MAX_RETRY

end MazeClient
