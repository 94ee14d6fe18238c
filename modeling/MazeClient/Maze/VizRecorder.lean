import MazeClient.Maze.Binding
import MazeClient.Maze.FrameLine
import MazeClient.Shared.Erasure

set_option autoImplicit false

namespace MazeClient

open Program Wire

-- A std::string where a C function reads it.
def cString (text : Text) : Bytes := ofString (String.ofList (text.takeWhile (· ≠ Char.ofNat 0)))

structure Stamp where
  year : Nat
  month : Nat
  day : Nat
  hour : Nat
  minute : Nat
  second : Nat

namespace Stamp

def text (stamp : Stamp) : Text :=
  padded 4 stamp.year ++ padded 2 stamp.month ++ padded 2 stamp.day ++
    '_' :: (padded 2 stamp.hour ++ padded 2 stamp.minute ++ padded 2 stamp.second)

end Stamp

-- The system as the recorder meets it, free to change with every observation: the clock, whether
-- fopen succeeds, and how much of what it holds back stdio passes on by itself.
structure RecorderOutside where
  localtime : Nat → Stamp
  opens : Nat → Bytes → Bool
  spills : Nat → Nat

structure VizRecorder where
  file : Option Bytes := none
  outputDir : String := ""
  frameCount : Nat := 0

structure Recording where
  recorder : VizRecorder := {}
  pending : Bytes := []
  files : Bytes → Option Bytes
  reading : Nat := 0

namespace Recording

variable (system : RecorderOutside)

-- snprintf into the 512 bytes of `filename`.
def fileName (outputDir : String) (episodeId : Nat) (stamp : Stamp) : Bytes :=
  (cString outputDir.toList ++
    cString ("/ep_".toList ++ padded 3 episodeId ++ '_' :: stamp.text ++ ".jsonl".toList)).take 511

def create (path bytes : Bytes) (recording : Recording) : Recording :=
  { recording with files := Function.update recording.files path (some bytes) }

def write (path bytes : Bytes) (recording : Recording) : Recording :=
  recording.create path ((recording.files path).getD [] ++ bytes)

def flush (recording : Recording) : Recording :=
  match recording.recorder.file with
  | none => recording
  | some path => { recording.write path recording.pending with pending := [] }

def endRecord (recording : Recording) : Recording :=
  let recording := recording.flush
  { recording with
    recorder.file := none
    recorder.frameCount := 0 }

def mapCopy (outputDir mapId : String) : Bytes :=
  cString (outputDir.toList ++ "/maps/".toList ++ mapId.toList ++ ".json".toList)

-- VizRecorder::CopyMapFile. A map that has been copied is not copied again.
def copyMapFile (mapId sourcePath : String) (recording : Recording) : Recording :=
  let path := mapCopy recording.recorder.outputDir mapId
  if (recording.files path).isSome then recording
  else
    match recording.files (cString sourcePath.toList) with
    | none => recording
    | some bytes =>
        let copied :=
          if system.opens recording.reading (cString sourcePath.toList) ∧
              system.opens (recording.reading + 1) path then recording.create path bytes
          else recording
        { copied with reading := recording.reading + 2 }

def beginRecord (started : Bool) (outputDir : String) (episodeId : Nat) (mapId sourcePath : String)
    (recording : Recording) : Recording :=
  let recording := recording.endRecord
  let recording := { recording with recorder.outputDir := outputDir }
  if !started then recording
  else
    let path := fileName outputDir episodeId (system.localtime recording.reading)
    let recording :=
      { recording.create path [] with
        recorder.file := some path
        reading := recording.reading + 1 }
    if mapId ≠ "" ∧ sourcePath ≠ "" then recording.copyMapFile system mapId sourcePath
    else recording

-- fprintf of a line to the open file; the system takes as much of what is held back as it likes.
def printLine (path : Bytes) (line : Text) (recording : Recording) : Recording :=
  let held := recording.pending ++ cString line ++ [10]
  let spilled := system.spills recording.reading
  { recording.write path (held.take spilled) with
    pending := held.drop spilled
    reading := recording.reading + 1 }

def recordFrame (jsonLine : Text) (recording : Recording) : Recording :=
  match recording.recorder.file with
  | none => recording
  | some path =>
      let printed := recording.printLine system path jsonLine
      let counted := { printed with recorder.frameCount := printed.recorder.frameCount + 1 }
      if counted.recorder.frameCount % 10 = 0 then counted.flush else counted

end Recording

structure RecorderConfig where
  interval : Nat

-- The operations of the adapter again, each with the calls it makes to the recorder.
namespace Taped

open Prog

variable (outside : MazeOutside) (system : RecorderOutside) (viz : RecorderConfig) (fuel : Nat)

def endRecord : Prog (World Adapter × Recording) Unit := beside fun _ => Recording.endRecord

def current : Prog (World Adapter × Recording) (World Adapter) := alongside get

def beginEpisode : Prog (World Adapter × Recording) CommandOutcome := do
  let ended ← alongside
    (TaskClient.beginEpisode outside.toOutside fuel (fun _ _ => true) outside.stopped)
  if ended.1 ≠ .applied then return ended.1
  if ended.2.hasTaskComplete then return ended.1
  if !ended.2.hasAssignment then return .unknown
  let w ← current
  if !w.task.acceptsAssignment w.client.cursor.phase ended.2.assignment then return .rejected
  alongside (Adapter.setTask (Adapter.begun ended.2.assignment))
  let w ← current
  if w.task.config.viz.recordingEnabled then
    let started ← alongside (observe fun tick => outside.recorderBegin tick
      w.task.config.viz.outputDir w.task.episodeNumber w.task.environment.map.mapId
      w.task.environment.loadedMapPath)
    beside fun _ => Recording.beginRecord system started w.task.config.viz.outputDir
      w.task.episodeNumber w.task.environment.map.mapId w.task.environment.loadedMapPath
    if !started then return .rejected
  return .applied

def frameLine (adapter : Adapter) : Text :=
  buildVizJson adapter.environment adapter.environment.frameId adapter.episodeNumber
    adapter.lastActions

def recordAdvanced (adapter : Adapter) (recording : Recording) : Recording :=
  if adapter.config.viz.recordingEnabled ∧ adapter.environment.frameId % viz.interval = 0 then
    recording.recordFrame system (frameLine adapter)
  else recording

def application : Prog (World Adapter × Recording) Bool := do
  let applied ← alongside Adapter.application
  if applied then beside fun w => recordAdvanced system viz w.task
  return applied

def runEpisode : Prog (World Adapter × Recording) CommandOutcome := do
  alongside (Adapter.setTask fun adapter => { adapter with updateResponse := {} })
  let result ← MazeClient.runEpisode fuel (alongside Adapter.observation)
    (fun request => alongside (Adapter.exchangeUpdate outside fuel request))
    (alongside Adapter.terminal) (application system viz) (alongside (observe outside.stopped))
  if result ≠ .applied ∧ result ≠ .stopped then
    alongside (Adapter.setTask fun adapter => { adapter with chainFailed := true })
  endRecord
  return result

def abortEpisode : Prog (World Adapter × Recording) CommandOutcome := do
  endRecord
  alongside (Adapter.abortEpisode outside fuel)

end Taped

def recordingAdapter (outside : MazeOutside) (system : RecorderOutside) (viz : RecorderConfig)
    (fuel : Nat) : Binding (World Adapter × Recording) where
  openSession := Prog.alongside (Adapter.openSession outside)
  initializeTask := Prog.alongside (Adapter.initialise outside fuel)
  beginEpisode := Taped.beginEpisode outside system fuel
  runEpisode := Taped.runEpisode outside system viz fuel
  endEpisode := Prog.alongside (Adapter.endEpisode outside fuel)
  abortEpisode := Taped.abortEpisode outside fuel
  closeSession := Prog.alongside (Adapter.closeSession outside fuel)
  active := Prog.alongside (readClient TaskClient.active)
  complete := Prog.alongside (readClient TaskClient.complete)
  canClose := Prog.alongside (readClient TaskClient.canClose)
  stopped := Prog.alongside (observe outside.stopped)

end MazeClient
