import MazeClient.Client.RunSession
import MazeClient.Maze.Receipt

set_option autoImplicit false

namespace MazeClient

open Program Wire

def OpenSessionRsp.spec (response : OpenSessionRsp) : EnvironmentSpec :=
  response.environment.getD {}

def workloadName : WorkloadMode → String
  | .training => "training"
  | .evaluation => "evaluation"
  | _ => ""

def episodeModeName : EpisodeMode → String
  | .training => "training"
  | .evaluation => "evaluation"
  | _ => ""

def assignmentMatchesWorkload (workload : WorkloadMode) (assignment : EpisodeAssignment) : Bool :=
  match workload with
  | .training => assignment.mode = .training
  | .evaluation => assignment.mode = .evaluation
  | _ => false

def toProtoTerminationReason : AgentTerminationReason → MazeTerminationReason
  | .goalReached => .goalReached
  | .timeLimit => .timeLimit
  | .active => .active

-- The checks of RenderEpisodeOutcome on one agent after another; `seen` are the ids so far.
def outcomeAgentsValid (expectedAgentCount : Nat) : List AgentEpisodeOutcome → List Nat → Bool
  | [], _ => true
  | agent :: rest, seen =>
      let goal := agent.terminationReason = .goalReached
      if expectedAgentCount ≤ agent.agentId ∨ agent.agentId ∈ seen ∨ agent.finalPosition.isNone ∨
          agent.terminationReason = .unspecified ∨ agent.terminationReason = .active ∨
          goal ≠ agent.goalRankGroup.isSome then false
      else outcomeAgentsValid expectedAgentCount rest (agent.agentId :: seen)

def renderEpisodeOutcome (response : EndEpisodeRsp) (episodeId : String)
    (expectedAgentCount : Nat) : Bool :=
  match response.outcome with
  | none => false
  | some outcome =>
      outcome.episodeId = episodeId && outcome.agents.length = expectedAgentCount &&
        outcomeAgentsValid expectedAgentCount outcome.agents []

structure Adapter where
  config : ClientConfig := {}
  environment : MazeEnv := {}
  openResponse : OpenSessionRsp := {}
  lastActions : List Int := []
  agentExecution : List AgentExecutionCursor := []
  episodeNumber : Nat := 0
  chainFailed : Bool := false
  updateResponse : UpdateRsp := {}

-- The file system as the adapter meets it, free to change with every observation: the map
-- registry, the map loader and the frame recorder.
structure MazeOutside extends Outside where
  resolveTaskMapFile : Nat → String → String → String
  loadMapFromFile : Nat → String → GridMap → Bool × GridMap
  recorderBegin : Nat → String → Nat → String → String → Bool

namespace Adapter

-- As the constructor leaves it.
def start (config : ClientConfig) (environment : MazeEnv) : Adapter := { config, environment }

def agentAt (adapter : Adapter) (index : Nat) : AgentInfo :=
  adapter.environment.agents.getD index {}

def cursorAt (adapter : Adapter) (index : Nat) : AgentExecutionCursor :=
  adapter.agentExecution.getD index {}

def validEnvironment (response : OpenSessionRsp) : Bool :=
  response.environment.isSome && 0 < response.spec.agentCount && response.spec.mapId ≠ "" &&
    0 < response.spec.episodeMaxSteps &&
    (response.spec.actionMaskMode = .disabled || response.spec.actionMaskMode = .required)

def assigned (response : OpenSessionRsp) (adapter : Adapter) : Adapter :=
  { adapter with
    config.run.agentNum := toInt32 response.spec.agentCount
    config.run.workload := workloadName response.workloadMode
    config.viz.recordingEnabled := response.workloadMode = .evaluation }

def mapDescriptor (map : GridMap) : MapDescriptor :=
  { mapId := map.mapId
    gridColumns := map.gridCols.toNat
    gridRows := map.gridRows.toNat
    gridSizeMicrounits := map.gridSizeMicrounits
    startGridX := map.startGx
    startGridY := map.startGy
    goalGridX := map.endGx
    goalGridY := map.endGy
    blockedBitmap := map.blockedBitmap }

def acceptsAssignment (adapter : Adapter) (phase : SessionPhase)
    (assignment : EpisodeAssignment) : Bool :=
  phase = .episodeRunning && assignment.episodeId ≠ "" && episodeModeName assignment.mode ≠ "" &&
    assignment.maxSteps = adapter.openResponse.spec.episodeMaxSteps &&
    (assignment.mode = .training || assignment.mode = .evaluation) &&
    assignmentMatchesWorkload adapter.openResponse.workloadMode assignment

-- What Begin resets for an accepted assignment.
def begun (assignment : EpisodeAssignment) (adapter : Adapter) : Adapter :=
  { adapter with
    environment := (adapter.environment.setMaxSteps (toInt32 assignment.maxSteps)).reset
    lastActions := List.replicate adapter.config.run.agentNum.toNat 0
    agentExecution := List.replicate adapter.environment.agents.length {} }

def observedState (adapter : Adapter) (index : Nat) : AgentState :=
  let agent := adapter.agentAt index
  { agentId := agent.id
    position := some { x := .ofInt agent.gridX, y := .ofInt agent.gridY }
    isDone := agent.done
    terminationReason := toProtoTerminationReason agent.terminationReason
    lastMoveBlocked := agent.lastMoveBlocked
    actionMask :=
      if !agent.done ∧ adapter.openResponse.spec.actionMaskMode = .required then
        adapter.environment.getActionMask index
      else [] }

-- The loop of the observation, which breaks at the first receipt it cannot attach.
def reportAgents (adapter : Adapter) : List Nat → List AgentState × Bool
  | [] => ([], true)
  | index :: rest =>
      let cursor := adapter.cursorAt index
      if cursor.retired then reportAgents adapter rest
      else
        let state := adapter.observedState index
        match attachExecutedActionReceipt adapter.environment.frameId cursor state with
        | none => ([state], false)
        | some state =>
            let later := reportAgents adapter rest
            (state :: later.1, later.2)

def observeUpdate (adapter : Adapter) : UpdateReq × Adapter :=
  let reported := adapter.reportAgents (List.range adapter.environment.agents.length)
  ({ frameId := adapter.environment.frameId, agents := reported.1 },
    { adapter with chainFailed := adapter.chainFailed || !reported.2 })

-- The candidate is the one the validator left; the command it saw filled in does not enter it.
def acceptUpdate (request : UpdateReq) (response : UpdateRsp) (adapter : Adapter) : Adapter :=
  { adapter with
    agentExecution :=
      (prepareAppliedAgentUpdate request response adapter.agentExecution).getD [] }

def executeActions : List AgentAction → Adapter → Bool × Adapter
  | [], adapter => (true, adapter)
  | action :: rest, adapter =>
      let index := (toInt32 action.agentId).toNat
      let (error, environment, cursor) :=
        executeAssignedAction adapter.environment (adapter.cursorAt index) action
      let adapter :=
        { adapter with
          environment
          agentExecution := adapter.agentExecution.set index cursor }
      if error.isSome then (false, { adapter with chainFailed := true })
      else
        executeActions rest
          { adapter with lastActions := adapter.lastActions.set index action.actionId }

def applyActions (adapter : Adapter) : Bool × Adapter :=
  let executed := executeActions adapter.updateResponse.actions adapter
  if !executed.1 ∨ executed.2.chainFailed then (false, executed.2)
  else (true, { executed.2 with environment := executed.2.environment.advanceFrame })

def setTask (update : Adapter → Adapter) : Prog (World Adapter) Unit :=
  Prog.modify fun w => { w with task := update w.task }

section Operations

variable (outside : MazeOutside) (fuel : Nat)

def openSession : Prog (World Adapter) CommandOutcome := do
  let w ← Prog.get
  let opened ← TaskClient.openSession outside.toOutside (fun _ rsp => validEnvironment rsp)
    w.task.openResponse
  setTask fun adapter => { adapter with openResponse := opened.2 }
  if opened.1 ≠ .applied then return opened.1
  if workloadName opened.2.workloadMode = "" then return .unknown
  setTask (assigned opened.2)
  return .applied

def initialise : Prog (World Adapter) CommandOutcome := do
  let w ← Prog.get
  let mapFile ← observe fun tick => outside.resolveTaskMapFile tick
    w.task.config.env.mapRegistryDir w.task.openResponse.spec.mapId
  if mapFile = "" then return .rejected
  setTask fun adapter => { adapter with config.env.mapFile := mapFile }
  let load ← observe outside.loadMapFromFile
  let w ← Prog.get
  let initialised := w.task.environment.init load w.task.config
  setTask fun adapter => { adapter with environment := initialised.2 }
  if !initialised.1 ∨ initialised.2.map.mapId ≠ w.task.openResponse.spec.mapId then
    return .rejected
  let ended ← TaskClient.init outside.toOutside fuel
    { map := some (mapDescriptor initialised.2.map) } fun _ _ => true
  return ended.1

def beginEpisode : Prog (World Adapter) CommandOutcome := do
  let ended ← TaskClient.beginEpisode outside.toOutside fuel (fun _ _ => true) outside.stopped
  if ended.1 ≠ .applied then return ended.1
  if ended.2.hasTaskComplete then return ended.1
  if !ended.2.hasAssignment then return .unknown
  let w ← Prog.get
  if !w.task.acceptsAssignment w.client.cursor.phase ended.2.assignment then return .rejected
  setTask (begun ended.2.assignment)
  let w ← Prog.get
  if w.task.config.viz.recordingEnabled then
    let started ← observe fun tick => outside.recorderBegin tick w.task.config.viz.outputDir
      w.task.episodeNumber w.task.environment.map.mapId w.task.environment.loadedMapPath
    if !started then return .rejected
  return .applied

def observation : Prog (World Adapter) UpdateReq := do
  let w ← Prog.get
  setTask fun _ => w.task.observeUpdate.2
  return w.task.observeUpdate.1

def exchangeUpdate (request : UpdateReq) : Prog (World Adapter) CommandOutcome := do
  let w ← Prog.get
  if w.task.chainFailed then return .rejected
  let ended ← TaskClient.update outside.toOutside fuel request w.task.updateResponse
    (fun req rsp => (prepareAppliedAgentUpdate req rsp w.task.agentExecution).isSome)
    outside.stopped
  setTask fun adapter => { adapter with updateResponse := ended.2 }
  if ended.1 = .applied then setTask (acceptUpdate request ended.2)
  else if ended.1 ≠ .stopped then setTask fun adapter => { adapter with chainFailed := true }
  return ended.1

def terminal : Prog (World Adapter) Bool := do
  let w ← Prog.get
  return w.task.environment.allDone

def application : Prog (World Adapter) Bool := do
  let w ← Prog.get
  setTask fun _ => w.task.applyActions.2
  return w.task.applyActions.1

def runEpisode : Prog (World Adapter) CommandOutcome := do
  setTask fun adapter => { adapter with updateResponse := {} }
  let result ← MazeClient.runEpisode fuel observation (exchangeUpdate outside fuel) terminal
    application (observe outside.stopped)
  if result ≠ .applied ∧ result ≠ .stopped then
    setTask fun adapter => { adapter with chainFailed := true }
  return result

def endEpisode : Prog (World Adapter) CommandOutcome := do
  let w ← Prog.get
  let ended ← TaskClient.endEpisode outside.toOutside fuel fun _ rsp =>
    renderEpisodeOutcome rsp w.client.cursor.episodeId w.task.environment.agents.length
  if ended.1 ≠ .applied then return ended.1
  setTask fun adapter => { adapter with episodeNumber := adapter.episodeNumber + 1 }
  return ended.1

def abortEpisode : Prog (World Adapter) CommandOutcome := do
  let halted ← observe outside.stopped
  let reason : MazeTerminationReason := if halted then .clientAbort else .chainFailure
  let halted ← observe outside.stopped
  let message :=
    if halted then "Client received stop signal"
    else "Client stopped the Episode after a chain failure"
  outcomeOf (TaskClient.abortEpisode outside.toOutside fuel { reason, message })

def closeSession : Prog (World Adapter) CommandOutcome :=
  outcomeOf (TaskClient.closeSession outside.toOutside fuel)

end Operations

end Adapter

def mazeClientAdapter (outside : MazeOutside) (fuel : Nat) : Binding (World Adapter) where
  openSession := Adapter.openSession outside
  initializeTask := Adapter.initialise outside fuel
  beginEpisode := Adapter.beginEpisode outside fuel
  runEpisode := Adapter.runEpisode outside fuel
  endEpisode := Adapter.endEpisode outside fuel
  abortEpisode := Adapter.abortEpisode outside fuel
  closeSession := Adapter.closeSession outside fuel
  active := readClient TaskClient.active
  complete := readClient TaskClient.complete
  canClose := readClient TaskClient.canClose
  stopped := observe outside.stopped

end MazeClient
