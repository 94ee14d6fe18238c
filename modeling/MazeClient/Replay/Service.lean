import MazeClient.Config.ReplayConfig
import MazeClient.Shared.Fallible
import Mathlib.Data.List.Infix

set_option autoImplicit false

namespace MazeClient

namespace ReplayService

open Fallible

-- What a start asks for, its config file already read.
structure Arguments where
  configPath : String
  replayDir : String
  replayPort : Int
  host : String
  validationId : String
  deriving DecidableEq, Repr

structure Paths where
  executable : String
  repoDir : String
  stateDir : String
  logFile : String
  deriving DecidableEq, Repr

namespace Paths

def serverScript (paths : Paths) : String :=
  paths.repoDir ++ "/tools/viz_player/maze_viz_server.py"

def stateFile (paths : Paths) : String := paths.stateDir ++ "/service.json"

def readyFile (paths : Paths) (instanceId : String) : String :=
  paths.stateDir ++ "/ready-" ++ instanceId ++ ".json"

end Paths

inductive Status where
  | starting
  | running
  deriving DecidableEq, Repr

-- service.json as its readers see it: a field is there when it has the type they ask for.
structure State where
  status : Option Status
  pid : Option Int
  instanceId : Option String
  configPath : Option String
  replayDir : Option String
  host : Option String
  port : Option Int
  validationId : Option String
  logFile : Option String
  readyFile : Option String
  deriving DecidableEq, Repr

inductive StateFile where
  | absent
  | notJson (text : String)
  | notObject (text : String)
  | object (state : State)
  deriving DecidableEq, Repr

structure Launch where
  paths : Paths
  arguments : Arguments
  instanceId : String
  deriving DecidableEq, Repr

def Launch.command (launch : Launch) : List String :=
  [launch.paths.executable, "-u", launch.paths.serverScript,
    "--dir", launch.arguments.replayDir,
    "--host", launch.arguments.host,
    "--port", toString launch.arguments.replayPort,
    "--mode", "evaluation",
    "--validation-id", launch.arguments.validationId,
    "--instance-id", launch.instanceId,
    "--ready-file", launch.paths.readyFile launch.instanceId]

inductive Process where
  | server (launch : Launch)
  | other (command : List String)
  deriving DecidableEq, Repr

def Process.command : Process → List String
  | .server launch => launch.command
  | .other command => command

-- Each call that can raise an error, by what it does.
inductive Step where
  | resolve
  | makeDirectories
  | lock
  | unlock
  | load
  | inspect
  | readCommand
  | openLog
  | popen
  | closeLog (launched : Bool)
  | write (status : Status)
  | replace (status : Status)
  | discard (status : Status)
  | readReceipt
  | poll
  | sleep
  | terminate
  | wait
  | kill
  | unlinkReady
  | unlinkState
  | print
  deriving DecidableEq, Repr

structure World where
  stateFile : StateFile
  processes : Int → Option Process
  -- How many calls left the service so far.
  time : Nat
  -- These calls by their times, the last one first.
  steps : List (Nat × Step) := []

inductive Error where
  | service (text : String)
  | processLookup
  | timeoutExpired
  | raised (step : Step)
  deriving DecidableEq, Repr

structure ReadyReceipt where
  schemaVersion : Int
  source : String
  pid : Int
  instanceId : String
  replayDir : String
  host : String
  port : Int
  deriving DecidableEq, Repr

-- What the service has no hold on, by the time it happens.
structure Outside where
  raises : Nat → Step → Bool
  dies : Nat → Int → Bool
  born : Nat → Int → Option (List String)
  exitCode : Nat → Int
  -- The process id the next fork would get.
  fork : Nat → Int
  random : Nat → Fin 32 → Fin 16
  receipt : Nat → Option ReadyReceipt
  -- How often a loop goes round before its deadline.
  rounds : Nat → Nat

abbrev Service := Op World Error

-- Time passes with each call: processes end, and others take pids that are free.
def Outside.pass (outside : Outside) (step : Step) (world : World) : World :=
  { world with
    processes := fun pid =>
      match world.processes pid with
      | some process => if outside.dies world.time pid then none else some process
      | none => (outside.born world.time pid).map .other
    time := world.time + 1
    steps := (world.time + 1, step) :: world.steps }

section Calls

variable (outside : Outside)

-- Every call lets time pass and may then raise an error instead of doing its work.
def act (step : Step) : Service Unit := do
  Op.modify (outside.pass step)
  let world ← Op.get
  Op.raiseIf (outside.raises world.time step) (.raised step)

def stateFileSet (file : StateFile) : Service Unit :=
  Op.modify fun world => { world with stateFile := file }

def atomicWriteJson (state : State) (status : Status) : Service Unit :=
  Op.ensure (do
      act outside (.write status)
      act outside (.replace status)
      stateFileSet (.object { state with status := some status }))
    (act outside (.discard status))

def loadState (paths : Paths) : Service (Option State) := do
  act outside .load
  match (← Op.get).stateFile with
  | .absent => return none
  | .notJson _ => throw (.service ("Replay state is not valid JSON: " ++ paths.stateFile))
  | .notObject _ => throw (.service ("Replay state is not a JSON object: " ++ paths.stateFile))
  | .object state => return some state

def processIsLive (pid : Int) : Service Bool := do
  if pid ≤ 0 then return false
  act outside .inspect
  return ((← Op.get).processes pid).isSome

def processCommand (pid : Int) : Service (List String) := do
  act outside .readCommand
  match (← Op.get).processes pid with
  | none => return []
  | some process => return process.command.filter (· ≠ "")

def isIn (part text : String) : Bool := decide (part.toList <:+: text.toList)

def isServerCommand (serverScript instanceId : String) (command : List String) : Bool :=
  match command with
  | [line] => isIn serverScript line && isIn instanceId line
  | _ => command.contains serverScript && command.contains instanceId

def ownedReplayPid (paths : Paths) (state : State) : Service (Option Int) := do
  match state.pid, state.instanceId with
  | some pid, some instanceId =>
      Op.raiseIf (pid ≤ 0 ∨ instanceId = "")
        (.service "Replay state has no valid process identity")
      if !(← processIsLive outside pid) then return none
      let command ← processCommand outside pid
      if command = [] then return none
      Op.raiseIf (isServerCommand paths.serverScript instanceId command = false)
        (.service ("Replay state PID " ++ toString pid ++ " belongs to a different process; " ++
          "refusing to remove the state or signal the process"))
      return some pid
  | _, _ => throw (.service "Replay state has no valid process identity")

def unlinkReady (state : State) : Service Unit :=
  if state.readyFile.isSome then act outside .unlinkReady else pure ()

def cleanupState (state : State) : Service Unit := do
  unlinkReady outside state
  act outside .unlinkState
  stateFileSet .absent

-- `while _process_is_live(pid) and time.monotonic() < deadline`.
def awaitExit (pid : Int) : Nat → Service Unit
  | 0 => do
      let _ ← processIsLive outside pid
  | rounds + 1 => do
      if ← processIsLive outside pid then
        act outside .sleep
        awaitExit pid rounds

def sendKill (pid : Int) : Service Unit := do
  act outside .kill
  let world ← Op.get
  Op.raiseIf (world.processes pid = none) .processLookup
  Op.modify fun world =>
    { world with processes := fun other => if other = pid then none else world.processes other }

def stateLock {α : Type} (body : Service α) : Service α := do
  act outside .lock
  Op.ensure body (act outside .unlock)

def endProcess (paths : Paths) (state : State) (pid : Int) : Service Unit := do
  -- A process that is gone by now is no error.
  act outside .terminate
  awaitExit outside pid (outside.rounds (← Op.get).time)
  if ← processIsLive outside pid then
    let _ ← ownedReplayPid outside paths state
    sendKill outside pid
    awaitExit outside pid (outside.rounds (← Op.get).time)
    let live ← processIsLive outside pid
    Op.raiseIf live (.service ("Replay process " ++ toString pid ++ " did not stop"))

def stopReplay (paths : Paths) : Service Nat := do
  act outside .makeDirectories
  stateLock outside do
    match ← loadState outside paths with
    | none =>
        act outside .print
        return 0
    | some state =>
        match ← ownedReplayPid outside paths state with
        | none =>
            cleanupState outside state
            act outside .print
            return 0
        | some pid =>
            endProcess outside paths state pid
            cleanupState outside state
            act outside .print
            return 0

def Launch.readyReceipt (launch : Launch) (pid : Int) : ReadyReceipt where
  schemaVersion := 1
  source := "client-replay-ready"
  pid := pid
  instanceId := launch.instanceId
  replayDir := launch.arguments.replayDir
  host := launch.arguments.host
  port := launch.arguments.replayPort

def validateReadyReceipt (launch : Launch) (pid : Int) : Service Bool := do
  act outside .readReceipt
  match outside.receipt (← Op.get).time with
  | none => return false
  | some receipt => return receipt = launch.readyReceipt pid

def stillRuns (launch : Launch) (pid : Int) : Service Bool := do
  act outside .poll
  return (← Op.get).processes pid = some (.server launch)

def processWait (launch : Launch) (pid : Int) : Service Unit := do
  act outside .wait
  let world ← Op.get
  Op.raiseIf (world.processes pid = some (.server launch)) .timeoutExpired

def processKill (launch : Launch) (pid : Int) : Service Unit := do
  act outside .kill
  Op.modify fun world =>
    { world with processes := fun other =>
        if other = pid ∧ world.processes pid = some (.server launch) then none
        else world.processes other }

def tokenHex (digits : Fin 32 → Fin 16) : String :=
  String.ofList (List.ofFn fun i => (digits i).val.digitChar)

-- A fork gets a pid that is free, or none.
def popen (launch : Launch) : Service Int := do
  act outside .popen
  let world ← Op.get
  let pid := outside.fork world.time
  Op.raiseIf (pid ≤ 0 ∨ world.processes pid ≠ none) (.raised .popen)
  Op.modify fun world =>
    { world with processes := fun other =>
        if other = pid then some (.server launch) else world.processes other }
  return pid

def awaitReady (launch : Launch) (pid : Int) (state : State) : Nat → Service Nat
  | 0 => throw (.service ("server readiness timed out after 15s; log=" ++ launch.paths.logFile))
  | rounds + 1 => do
      if ← validateReadyReceipt outside launch pid then
        atomicWriteJson outside state .running
        act outside .print
        return 0
      let runs ← stillRuns outside launch pid
      let world ← Op.get
      Op.raiseIf (runs = false)
        (.service ("server exited during startup with code " ++
          toString (outside.exitCode world.time) ++ "; log=" ++ launch.paths.logFile))
      act outside .sleep
      awaitReady launch pid state rounds

def endChild (launch : Launch) (pid : Int) : Service Unit := do
  if ← stillRuns outside launch pid then
    act outside .terminate
    tryCatch (processWait outside launch pid) fun error =>
      if error = .timeoutExpired then do
        processKill outside launch pid
        processWait outside launch pid
      else throw error

-- `except BaseException` of _start_replay, before it raises the error again.
def abandon (launch : Launch) (pid : Int) (state : State) : Service Unit := do
  endChild outside launch pid
  cleanupState outside state

def startedState (launch : Launch) (pid : Int) : State where
  status := some .starting
  pid := some pid
  instanceId := some launch.instanceId
  configPath := some launch.arguments.configPath
  replayDir := some launch.arguments.replayDir
  host := some launch.arguments.host
  port := some launch.arguments.replayPort
  validationId := some launch.arguments.validationId
  logFile := some launch.paths.logFile
  readyFile := some (launch.paths.readyFile launch.instanceId)

-- _start_replay from the new instance id on.
def launchServer (paths : Paths) (arguments : Arguments) : Service Nat := do
  let launch : Launch :=
    { paths, arguments, instanceId := tokenHex (outside.random (← Op.get).time) }
  act outside .openLog
  -- The log stream is closed on both exits.
  let pid ← tryCatch (popen outside launch) fun error => do
    act outside (.closeLog false)
    throw error
  act outside (.closeLog true)
  let state := startedState launch pid
  atomicWriteJson outside state .starting
  tryCatch (do awaitReady outside launch pid state (outside.rounds (← Op.get).time)) fun error => do
    abandon outside launch pid state
    throw error

def alreadyRunning (arguments : Arguments) (existing : State) : Service Nat := do
  match existing.host, existing.port with
  | some host, some port =>
      Op.raiseIf ((existing.configPath, existing.replayDir, host, port, existing.validationId) ≠
          (some arguments.configPath, some arguments.replayDir, arguments.host,
            arguments.replayPort, some arguments.validationId))
        (.service ("Replay is already running with different config; " ++
          "run run_replay.sh -stop first"))
      act outside .print
      return 0
  | _, _ => throw (.service "running Replay state is incomplete; stop it before restart")

def isValidName (name : String) : Bool :=
  name ≠ "" && name.toList = strip isSpace name.toList &&
    !name.toList.contains '\n' && !name.toList.contains '\r'

def startReplay (paths : Paths) (arguments : Arguments) : Service Nat := do
  act outside .resolve
  Op.raiseIf (isValidName arguments.host = false) (.service "Replay host is invalid")
  Op.raiseIf (isValidName arguments.validationId = false) (.service "validation id is invalid")
  act outside .makeDirectories
  stateLock outside do
    match ← loadState outside paths with
    | none => launchServer outside paths arguments
    | some existing =>
        match ← ownedReplayPid outside paths existing with
        | some _ => alreadyRunning outside arguments existing
        | none =>
            cleanupState outside existing
            launchServer outside paths arguments

end Calls

inductive Invocation where
  | start (arguments : Arguments)
  | stop
  deriving DecidableEq, Repr

def invoke (outside : Outside) (paths : Paths) : Invocation → Service Nat
  | .start arguments => startReplay outside paths arguments
  | .stop => stopReplay outside paths

def invokeAll (outside : Outside) (paths : Paths) (invocations : List Invocation) (world : World) :
    World :=
  invocations.foldl (fun world invocation => (invoke outside paths invocation world).2) world

end ReplayService

end MazeClient
