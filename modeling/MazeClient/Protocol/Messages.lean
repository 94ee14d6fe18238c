import MazeClient.Shared.Wire
import Mathlib.Algebra.Group.Nat.Defs

set_option autoImplicit false

namespace MazeClient

open Wire

-- proto3 enums are open: a peer may send any 32-bit number the schema does not name.
def Unnamed (count value : Int) : Prop :=
  -2147483648 ≤ value ∧ value < 2147483648 ∧ (value < 0 ∨ count ≤ value)

instance (count value : Int) : Decidable (Unnamed count value) :=
  inferInstanceAs (Decidable (_ ∧ _ ∧ (_ ∨ _)))

inductive CommandResult where
  | unspecified
  | applied
  | alreadyApplied
  | wait
  | rejected
  | unrecognized (value : Int) (unnamed : Unnamed 5 value)
  deriving DecidableEq

inductive CommandErrorCode where
  | unspecified
  | invalidIdentity
  | staleEpoch
  | outOfOrder
  | payloadConflict
  | stateConflict
  | taskInputInvalid
  | modelIdentityMismatch
  | unrecognized (value : Int) (unnamed : Unnamed 8 value)
  deriving DecidableEq

inductive SessionPhase where
  | unspecified
  | opened
  | ready
  | episodeRunning
  | episodeTerminal
  | taskComplete
  | closed
  | aborted
  | unrecognized (value : Int) (unnamed : Unnamed 8 value)
  deriving DecidableEq

def CommandResult.number : CommandResult → Int
  | .unspecified => 0
  | .applied => 1
  | .alreadyApplied => 2
  | .wait => 3
  | .rejected => 4
  | .unrecognized value _ => value

def CommandErrorCode.number : CommandErrorCode → Int
  | .unspecified => 0
  | .invalidIdentity => 1
  | .staleEpoch => 2
  | .outOfOrder => 3
  | .payloadConflict => 4
  | .stateConflict => 5
  | .taskInputInvalid => 6
  | .modelIdentityMismatch => 7
  | .unrecognized value _ => value

def SessionPhase.number : SessionPhase → Int
  | .unspecified => 0
  | .opened => 1
  | .ready => 2
  | .episodeRunning => 3
  | .episodeTerminal => 4
  | .taskComplete => 5
  | .closed => 6
  | .aborted => 7
  | .unrecognized value _ => value

-- A number outside the 32-bit range never reaches a parser; it reads as the default.
def CommandResult.ofNumber (value : Int) : CommandResult :=
  if value = 1 then .applied else if value = 2 then .alreadyApplied
  else if value = 3 then .wait else if value = 4 then .rejected
  else if unnamed : Unnamed 5 value then .unrecognized value unnamed else .unspecified

def CommandErrorCode.ofNumber (value : Int) : CommandErrorCode :=
  if value = 1 then .invalidIdentity else if value = 2 then .staleEpoch
  else if value = 3 then .outOfOrder else if value = 4 then .payloadConflict
  else if value = 5 then .stateConflict else if value = 6 then .taskInputInvalid
  else if value = 7 then .modelIdentityMismatch
  else if unnamed : Unnamed 8 value then .unrecognized value unnamed else .unspecified

def SessionPhase.ofNumber (value : Int) : SessionPhase :=
  if value = 1 then .opened else if value = 2 then .ready
  else if value = 3 then .episodeRunning else if value = 4 then .episodeTerminal
  else if value = 5 then .taskComplete else if value = 6 then .closed
  else if value = 7 then .aborted
  else if unnamed : Unnamed 8 value then .unrecognized value unnamed else .unspecified

theorem Unnamed.ne {count value named : Int} (unnamed : Unnamed count value) (low : 0 ≤ named)
    (high : named < count) : value ≠ named := by
  obtain ⟨-, -, outside⟩ := unnamed
  omega

theorem CommandResult.ofNumber_number (result : CommandResult) :
    ofNumber (toInt32 (ofInt result.number)) = result := by
  cases result with
  | unrecognized value unnamed =>
      simp [number, toInt32_ofInt value unnamed.1 unnamed.2.1, ofNumber, unnamed, unnamed.ne]
  | _ => decide

theorem CommandErrorCode.ofNumber_number (errorCode : CommandErrorCode) :
    ofNumber (toInt32 (ofInt errorCode.number)) = errorCode := by
  cases errorCode with
  | unrecognized value unnamed =>
      simp [number, toInt32_ofInt value unnamed.1 unnamed.2.1, ofNumber, unnamed, unnamed.ne]
  | _ => decide

theorem SessionPhase.ofNumber_number (phase : SessionPhase) :
    ofNumber (toInt32 (ofInt phase.number)) = phase := by
  cases phase with
  | unrecognized value unnamed =>
      simp [number, toInt32_ofInt value unnamed.1 unnamed.2.1, ofNumber, unnamed, unnamed.ne]
  | _ => decide

structure CommandIdentity where
  sessionId : String := ""
  sessionEpoch : Nat := 0
  sequence : Nat := 0
  episodeId : String := ""
  deriving DecidableEq

structure CommandReply where
  result : CommandResult := .unspecified
  errorCode : CommandErrorCode := .unspecified
  message : String := ""
  appliedSequence : Nat := 0
  phase : SessionPhase := .unspecified
  deriving DecidableEq

structure ServiceInstanceIdentity where
  component : String := ""
  instanceId : String := ""
  lifecycleEpoch : Nat := 0
  deriving DecidableEq

inductive EpisodeMode where
  | unspecified
  | training
  | evaluation
  | unrecognized (value : Int) (unnamed : Unnamed 3 value)
  deriving DecidableEq

inductive WorkloadMode where
  | unspecified
  | training
  | evaluation
  | unrecognized (value : Int) (unnamed : Unnamed 3 value)
  deriving DecidableEq

inductive ActionMaskMode where
  | unspecified
  | disabled
  | required
  | unrecognized (value : Int) (unnamed : Unnamed 3 value)
  deriving DecidableEq

inductive MazeTerminationReason where
  | unspecified
  | active
  | goalReached
  | timeLimit
  | clientAbort
  | chainFailure
  | unrecognized (value : Int) (unnamed : Unnamed 6 value)
  deriving DecidableEq

def MazeTerminationReason.number : MazeTerminationReason → Int
  | .unspecified => 0
  | .active => 1
  | .goalReached => 2
  | .timeLimit => 3
  | .clientAbort => 4
  | .chainFailure => 5
  | .unrecognized value _ => value

-- The code compares action numbers with 0..8 itself, so an action is its number.
abbrev MazeAction := Int

structure Binary32 where
  bits : UInt32 := 0
  deriving DecidableEq

def Binary32.ofInt (v : Int) : Binary32 :=
  let magnitude := v.natAbs
  let exponent := magnitude.log2
  let significand :=
    if exponent ≤ 23 then magnitude * 2 ^ (23 - exponent)
    else
      let unit := 2 ^ (exponent - 23)
      let kept := magnitude / unit
      let dropped := magnitude % unit
      if unit < 2 * dropped ∨ (unit = 2 * dropped ∧ kept % 2 = 1) then kept + 1 else kept
  if v = 0 then ⟨0⟩
  else ⟨UInt32.ofNat ((if v < 0 then 2 ^ 31 else 0) + (exponent + 127) * 2 ^ 23 +
    (significand - 2 ^ 23))⟩

structure EnvironmentSpec where
  agentCount : Nat := 0
  mapId : String := ""
  episodeMaxSteps : Nat := 0
  actionMaskMode : ActionMaskMode := .unspecified
  deriving DecidableEq

structure MapDescriptor where
  mapId : String := ""
  gridColumns : Nat := 0
  gridRows : Nat := 0
  gridSizeMicrounits : Nat := 0
  startGridX : Int := 0
  startGridY : Int := 0
  goalGridX : Int := 0
  goalGridY : Int := 0
  blockedBitmap : Bytes := []
  deriving DecidableEq

structure OpenSessionReq where
  client : Option ServiceInstanceIdentity := none
  environmentInstanceId : String := ""
  requestId : String := ""
  deriving DecidableEq

structure OpenSessionRsp where
  reply : CommandReply := {}
  sessionId : String := ""
  sessionEpoch : Nat := 0
  aiserver : ServiceInstanceIdentity := {}
  workloadMode : WorkloadMode := .unspecified
  environment : Option EnvironmentSpec := none
  deriving DecidableEq

structure InitReq where
  command : Option CommandIdentity := none
  map : Option MapDescriptor := none
  deriving DecidableEq

structure InitRsp where
  reply : CommandReply := {}
  deriving DecidableEq

structure EpisodeAssignment where
  episodeId : String := ""
  mode : EpisodeMode := .unspecified
  maxSteps : Nat := 0
  deriving DecidableEq

structure BeginEpisodeReq where
  command : Option CommandIdentity := none
  deriving DecidableEq

inductive BeginOutcome where
  | notSet
  | assignment (assignment : EpisodeAssignment)
  | taskComplete (message : String)
  deriving DecidableEq

structure BeginEpisodeRsp where
  reply : CommandReply := {}
  outcome : BeginOutcome := .notSet
  deriving DecidableEq

structure Vec2 where
  x : Binary32 := {}
  y : Binary32 := {}
  deriving DecidableEq

structure AgentState where
  agentId : Nat := 0
  position : Option Vec2 := none
  isDone : Bool := false
  terminationReason : MazeTerminationReason := .unspecified
  lastMoveBlocked : Bool := false
  executedActionId : Option MazeAction := none
  actionMask : List Bool := []
  deriving DecidableEq

structure UpdateReq where
  command : Option CommandIdentity := none
  frameId : Nat := 0
  agents : List AgentState := []
  deriving DecidableEq

structure AgentAction where
  agentId : Nat := 0
  actionId : MazeAction := 0
  deriving DecidableEq

structure WaitControl where
  retryAfterMs : Int := 0
  deriving DecidableEq

inductive UpdateControl where
  | notSet
  | actionBatch (actions : List AgentAction)
  | wait (control : WaitControl)
  deriving DecidableEq

structure UpdateRsp where
  reply : CommandReply := {}
  control : UpdateControl := .notSet
  deriving DecidableEq

structure EndEpisodeReq where
  command : Option CommandIdentity := none
  deriving DecidableEq

structure AgentEpisodeOutcome where
  agentId : Nat := 0
  terminationReason : MazeTerminationReason := .unspecified
  terminalFrameId : Nat := 0
  finalPosition : Option Vec2 := none
  goalRankGroup : Option Nat := none
  deriving DecidableEq

structure EpisodeOutcome where
  episodeId : String := ""
  agents : List AgentEpisodeOutcome := []
  deriving DecidableEq

structure EndEpisodeRsp where
  reply : CommandReply := {}
  outcome : Option EpisodeOutcome := none
  deriving DecidableEq

structure AbortEpisodeReq where
  command : Option CommandIdentity := none
  reason : MazeTerminationReason := .unspecified
  message : String := ""
  deriving DecidableEq

structure AbortEpisodeRsp where
  reply : CommandReply := {}
  wait : Option WaitControl := none
  deriving DecidableEq

structure CloseSessionReq where
  command : Option CommandIdentity := none
  deriving DecidableEq

structure CloseSessionRsp where
  reply : CommandReply := {}
  deriving DecidableEq

def BeginEpisodeRsp.hasAssignment (response : BeginEpisodeRsp) : Bool :=
  match response.outcome with
  | .assignment _ => true
  | _ => false

def BeginEpisodeRsp.hasTaskComplete (response : BeginEpisodeRsp) : Bool :=
  match response.outcome with
  | .taskComplete _ => true
  | _ => false

def BeginEpisodeRsp.assignment (response : BeginEpisodeRsp) : EpisodeAssignment :=
  match response.outcome with
  | .assignment assignment => assignment
  | _ => {}

def UpdateRsp.hasActionBatch (response : UpdateRsp) : Bool :=
  match response.control with
  | .actionBatch _ => true
  | _ => false

def UpdateRsp.actions (response : UpdateRsp) : List AgentAction :=
  match response.control with
  | .actionBatch actions => actions
  | _ => []

def UpdateRsp.wait (response : UpdateRsp) : Option WaitControl :=
  match response.control with
  | .wait control => some control
  | _ => none

end MazeClient
