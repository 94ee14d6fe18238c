import Mathlib.Data.Rat.Floor
import MazeClient.Shared.Search

set_option autoImplicit false

namespace MazeClient

structure RunConfig where
  agentNum : Int := 0
  workload : String := ""

-- Lengths and positions in cm; the model takes them as exact numbers.
structure EnvConfig where
  mapWidth : ℚ := 20000
  mapHeight : ℚ := 20000
  gridSize : ℚ := 500
  maxSteps : Int := 0
  startX : ℚ := 500
  startY : ℚ := 500
  endX : ℚ := 19500
  endY : ℚ := 19500
  mapFile : String := ""
  mapRegistryDir : String := "maps/test"

structure VizConfig where
  recordingEnabled : Bool := false
  outputDir : String := "log/viz"

structure ClientConfig where
  run : RunConfig := {}
  env : EnvConfig := {}
  viz : VizConfig := {}

inductive AgentTerminationReason where
  | active
  | goalReached
  | timeLimit
  deriving DecidableEq

structure AgentInfo where
  id : Nat := 0
  gridX : Int := 0
  gridY : Int := 0
  done : Bool := false
  lastMoveBlocked : Bool := false
  terminationReason : AgentTerminationReason := .active
  deriving DecidableEq

structure GridMap where
  mapWidth : ℚ := 20000
  mapHeight : ℚ := 20000
  startX : ℚ := 500
  startY : ℚ := 500
  endX : ℚ := 19500
  endY : ℚ := 19500
  gridSize : ℚ := 500
  gridSizeMicrounits : Nat := 0
  gridCols : Int := 0
  gridRows : Int := 0
  startGx : Int := 0
  startGy : Int := 0
  endGx : Int := 0
  endGy : Int := 0
  blocked : List Bool := []
  mapId : String := ""
  hasAuthoritativeGrid : Bool := false

structure MazeEnv where
  map : GridMap := {}
  agents : List AgentInfo := []
  maxSteps : Int := 0
  frameId : Nat := 0
  mapFile : String := ""
  loadedMapPath : String := ""
  shortestActionSteps : Int := -1

def kGridActionDirs : List (Int × Int) :=
  [(0, 0), (0, 1), (1, 1), (1, 0), (1, -1), (0, -1), (-1, -1), (-1, 0), (-1, 1)]

def actionDir (actionId : Int) : Int × Int := kGridActionDirs.getD actionId.toNat (0, 0)

namespace GridMap

variable (map : GridMap)

def toGridX (x : ℚ) : Int := max 0 (min (map.gridCols - 1) ⌊x / map.gridSize⌋)

def toGridY (y : ℚ) : Int := max 0 (min (map.gridRows - 1) ⌊y / map.gridSize⌋)

def isWalkable (gx gy : Int) : Bool :=
  if gx < 0 ∨ map.gridCols ≤ gx ∨ gy < 0 ∨ map.gridRows ≤ gy then false
  else !map.blocked.getD (gy * map.gridCols + gx).toNat true

-- The move itself, without the agent: its target, and for a diagonal both cells beside it.
def isMoveAvailable (gx gy actionId : Int) : Bool :=
  let (dx, dy) := actionDir actionId
  map.isWalkable (gx + dx) (gy + dy) &&
    (dx = 0 || dy = 0 || (map.isWalkable (gx + dx) gy && map.isWalkable gx (gy + dy)))

def isActionAvailable (agent : AgentInfo) (actionId : Int) : Bool :=
  if agent.done ∨ actionId < 0 ∨ 9 ≤ actionId then false
  else map.isMoveAvailable agent.gridX agent.gridY actionId

def blockedBitmap : List UInt8 := map.blocked.map fun blocked => if blocked then 1 else 0

-- The cells of the positions, which an authoritative grid must agree with.
def located : Option GridMap :=
  let startGx := map.toGridX map.startX
  let startGy := map.toGridY map.startY
  let endGx := map.toGridX map.endX
  let endGy := map.toGridY map.endY
  if map.hasAuthoritativeGrid then
    if map.startGx ≠ startGx ∨ map.startGy ≠ startGy ∨ map.endGx ≠ endGx ∨ map.endGy ≠ endGy then
      none
    else some map
  else some { map with startGx, startGy, endGx, endGy }

def cellNeighbours (current : Int) : List Int :=
  let gx := current % map.gridCols
  let gy := current / map.gridCols
  [1, 2, 3, 4, 5, 6, 7, 8].filterMap fun action =>
    if map.isMoveAvailable gx gy action then
      some ((gy + (actionDir action).2) * map.gridCols + (gx + (actionDir action).1))
    else none

def computeShortestActionSteps : Int :=
  if map.gridCols ≤ 0 ∨ map.gridRows ≤ 0 then -1
  else
    let start := map.startGy * map.gridCols + map.startGx
    let goal := map.endGy * map.gridCols + map.endGx
    match Search.bfs map.cellNeighbours goal ((map.gridCols * map.gridRows).toNat + 1) start with
    | some steps => steps
    | none => -1

end GridMap

namespace MazeEnv

def init (load : String → GridMap → Bool × GridMap) (config : ClientConfig)
    (environment : MazeEnv) : Bool × MazeEnv :=
  let environment := { environment with mapFile := config.env.mapFile }
  if environment.mapFile = "" ∨ config.run.agentNum ≤ 0 then (false, environment)
  else
    let env := config.env
    let cols := ⌈env.mapWidth / env.gridSize⌉
    let rows := ⌈env.mapHeight / env.gridSize⌉
    let loaded := load environment.mapFile
      { environment.map with
        mapWidth := env.mapWidth
        mapHeight := env.mapHeight
        startX := env.startX
        startY := env.startY
        endX := env.endX
        endY := env.endY
        gridSize := env.gridSize
        gridSizeMicrounits := 0
        gridCols := cols
        gridRows := rows
        blocked := List.replicate (cols * rows).toNat false
        mapId := ""
        hasAuthoritativeGrid := false }
    let environment :=
      { environment with
        map := loaded.2
        maxSteps := env.maxSteps
        loadedMapPath := ""
        shortestActionSteps := -1 }
    if !loaded.1 then (false, environment)
    else
      let environment := { environment with loadedMapPath := environment.mapFile }
      match environment.map.located with
      | none => (false, environment)
      | some map =>
        let environment := { environment with map }
        if !map.isWalkable map.startGx map.startGy ∨ !map.isWalkable map.endGx map.endGy then
          (false, environment)
        else
          let computedShortest := map.computeShortestActionSteps
          if computedShortest ≤ 0 then (false, environment)
          else
            (true,
              { environment with
                shortestActionSteps := computedShortest
                agents := (List.range config.run.agentNum.toNat).map fun id =>
                  { id, gridX := map.startGx, gridY := map.startGy }
                frameId := 0 })

structure Crewed (environment : MazeEnv) : Prop where
  populated : 0 < environment.agents.length
  addressable : environment.agents.length ≤ 2147483648
  numbered : ∀ index < environment.agents.length, (environment.agents.getD index {}).id = index

theorem init_crewed {load : String → GridMap → Bool × GridMap} {config : ClientConfig}
    {environment : MazeEnv} (few : config.run.agentNum < 2147483648)
    (initialised : (environment.init load config).1 = true) :
    (environment.init load config).2.Crewed := by
  generalize ran : environment.init load config = result at initialised ⊢
  unfold init at ran
  dsimp only at ran
  split at ran
  · cases ran
    cases initialised
  case isFalse some_ =>
  split at ran
  · cases ran
    cases initialised
  split at ran
  · cases ran
    cases initialised
  split at ran
  · cases ran
    cases initialised
  split at ran
  · cases ran
    cases initialised
  cases ran
  refine ⟨?_, ?_, fun index within => ?_⟩
  · simp only [List.length_map, List.length_range]
    omega
  · simp only [List.length_map, List.length_range]
    omega
  · simp only [List.length_map, List.length_range] at within
    simp [within]

def setMaxSteps (environment : MazeEnv) (maxSteps : Int) : MazeEnv :=
  if 0 < maxSteps then { environment with maxSteps } else environment

def reset (environment : MazeEnv) : MazeEnv :=
  { environment with
    agents := environment.agents.map fun agent =>
      { id := agent.id, gridX := environment.map.startGx, gridY := environment.map.startGy }
    frameId := 0 }

theorem Crewed.reset {environment : MazeEnv} (crewed : environment.Crewed) :
    environment.reset.Crewed := by
  obtain ⟨populated, addressable, numbered⟩ := crewed
  refine ⟨by simpa [MazeEnv.reset] using populated, by simpa [MazeEnv.reset] using addressable,
    fun index within => ?_⟩
  have within : index < environment.agents.length := by simpa [MazeEnv.reset] using within
  simpa [MazeEnv.reset, within] using numbered index within

def checkGoalReached (environment : MazeEnv) (agent : AgentInfo) : Bool :=
  agent.gridX = environment.map.endGx && agent.gridY = environment.map.endGy

def checkTimeout (environment : MazeEnv) : Bool := environment.maxSteps ≤ environment.frameId + 1

def stepAgent (environment : MazeEnv) (agent : AgentInfo) (actionId : Int) : AgentInfo :=
  let (dx, dy) := actionDir actionId
  let canMove := environment.map.isActionAvailable agent actionId
  let moved :=
    if canMove then { agent with gridX := agent.gridX + dx, gridY := agent.gridY + dy } else agent
  let moved := { moved with lastMoveBlocked := actionId ≠ 0 && !canMove }
  if environment.checkGoalReached moved then
    { moved with done := true, terminationReason := .goalReached }
  else if environment.checkTimeout then
    { moved with done := true, terminationReason := .timeLimit }
  else moved

theorem stepAgent_id (environment : MazeEnv) (agent : AgentInfo) (actionId : Int) :
    (environment.stepAgent agent actionId).id = agent.id := by
  unfold stepAgent
  dsimp only
  repeat' split
  all_goals rfl

def step (environment : MazeEnv) (agentId actionId : Int) : Except String MazeEnv :=
  if agentId < 0 ∨ environment.agents.length ≤ agentId then
    .error "agent_id is outside the environment assignment"
  else
    let agent := environment.agents.getD agentId.toNat {}
    if agent.done then .error "AIServer returned an action for a terminal Agent"
    else if actionId < 0 ∨ 8 < actionId then
      .error "action_id is outside the Maze action contract"
    else
      .ok { environment with
        agents := environment.agents.set agentId.toNat (environment.stepAgent agent actionId) }

theorem step_ok {environment : MazeEnv} {agentId : Nat} {actionId : Int}
    (assigned : agentId < environment.agents.length)
    (live : (environment.agents.getD agentId {}).done = false)
    (valid : 0 ≤ actionId ∧ actionId ≤ 8) : environment.step agentId actionId =
      .ok { environment with
        agents := environment.agents.set agentId
          (environment.stepAgent (environment.agents.getD agentId {}) actionId) } := by
  have inside : ¬ ((agentId : Int) < 0 ∨ (environment.agents.length : Int) ≤ agentId) := by omega
  have within : ¬ (actionId < 0 ∨ 8 < actionId) := by omega
  rw [step, if_neg inside, Int.toNat_natCast, if_neg (ne_true_of_eq_false live), if_neg within]

def advanceFrame (environment : MazeEnv) : MazeEnv :=
  { environment with frameId := environment.frameId + 1 }

def allDone (environment : MazeEnv) : Bool := environment.agents.all AgentInfo.done

def getActionMask (environment : MazeEnv) (agentId : Nat) : List Bool :=
  match environment.agents[agentId]? with
  | none => List.replicate 9 false
  | some agent => [0, 1, 2, 3, 4, 5, 6, 7, 8].map fun actionId =>
      environment.map.isActionAvailable agent actionId

end MazeEnv

end MazeClient
