import MazeClient.Session.Cursor

set_option autoImplicit false

namespace MazeClient

open Wire

structure Service where
  Rpc : Type
  Request : Rpc → Type
  Response : Rpc → Type
  command : {rpc : Rpc} → Request rpc → CommandIdentity
  withCommand : {rpc : Rpc} → Request rpc → CommandIdentity → Request rpc
  command_withCommand : ∀ {rpc : Rpc} (request : Request rpc) (identity : CommandIdentity),
    command (withCommand request identity) = identity
  serialize : {rpc : Rpc} → Request rpc → Bytes
  reply : {rpc : Rpc} → Response rpc → CommandReply
  withReply : {rpc : Rpc} → Response rpc → CommandReply → Response rpc
  reply_withReply : ∀ {rpc : Rpc} (response : Response rpc) (commandReply : CommandReply),
    reply (withReply response commandReply) = commandReply
  responseCodec : (rpc : Rpc) → Codec (Response rpc)
  -- Every response keeps its reply in one field, whichever type its bytes are parsed as.
  decode_reply : ∀ (p q : Rpc) (response : Response p) (parsed : Response q),
    (responseCodec q).decode ((responseCodec p).encode response) = some parsed →
      reply parsed = reply response

attribute [simp] Service.command_withCommand Service.reply_withReply

inductive LifecycleReplayDecision where
  | proceed
  | replay
  | payloadConflict
  | outOfOrder
  deriving DecidableEq

structure LifecycleReplayWindow where
  present : Bool := false
  commandSequence : Nat := 0
  payload : Bytes := []
  response : Bytes := []
  deriving DecidableEq

def LifecycleReplayWindow.classify (window : LifecycleReplayWindow)
    (commandSequence lastAppliedSequence : Nat) (payload : Bytes) : LifecycleReplayDecision :=
  if window.present && commandSequence = window.commandSequence then
    if payload ≠ window.payload then .payloadConflict else .replay
  else if commandSequence ≠ increment lastAppliedSequence then .outOfOrder
  else .proceed

def LifecycleReplayWindow.store (_window : LifecycleReplayWindow)
    (commandSequence : Nat) (payload response : Bytes) : LifecycleReplayWindow :=
  { present := true, commandSequence, payload, response }

structure SessionState where
  sessionId : String
  sessionEpoch : Nat
  phase : SessionPhase
  lastCommandSequence : Nat := 0
  commandReplay : LifecycleReplayWindow := {}
  deriving DecidableEq

def fillReply (session : SessionState) (appliedSequence : Nat) (result : CommandResult)
    (errorCode : CommandErrorCode) (message : String) : CommandReply :=
  { result, errorCode, message, appliedSequence, phase := session.phase }

inductive CommandCheck where
  | proceed
  | replayed
  | rejected
  deriving DecidableEq

def rejectCommand (session : SessionState) (errorCode : CommandErrorCode) (message : String) :
    CommandReply :=
  fillReply session session.lastCommandSequence .rejected errorCode message

section

variable {S : Service} {rpc : S.Rpc}

def replayedResponse (stored : S.Response rpc) : S.Response rpc :=
  S.withReply stored { S.reply stored with
    result := .alreadyApplied, message := "command was already applied" }

def checkCommand (session : SessionState) (command : CommandIdentity)
    (request : S.Request rpc) (response : S.Response rpc) : CommandCheck × S.Response rpc :=
  let reject (errorCode : CommandErrorCode) (message : String) : CommandCheck × S.Response rpc :=
    (.rejected, S.withReply response
      (fillReply session session.lastCommandSequence .rejected errorCode message))
  match session.commandReplay.classify command.sequence session.lastCommandSequence
      (S.serialize request) with
  | .payloadConflict =>
      reject .payloadConflict "command sequence was reused with a different payload"
  | .replay =>
      match (S.responseCodec rpc).decode session.commandReplay.response with
      | none => reject .stateConflict "idempotent response is unavailable"
      | some stored => (.replayed, replayedResponse stored)
  | .outOfOrder => reject .outOfOrder "command sequence is not contiguous"
  | .proceed =>
      if command.sessionId ≠ session.sessionId then
        reject .invalidIdentity "session identity does not match"
      else if command.sessionEpoch ≠ session.sessionEpoch then
        reject .staleEpoch "Session epoch does not match"
      else (.proceed, response)

def commitCommand (session : SessionState) (command : CommandIdentity)
    (request : S.Request rpc) (response : S.Response rpc) (message : String) :
    SessionState × S.Response rpc :=
  let applied := { session with lastCommandSequence := command.sequence }
  let response := S.withReply response
    (fillReply applied command.sequence .applied .unspecified message)
  ({ applied with
    commandReplay := applied.commandReplay.store command.sequence (S.serialize request)
      ((S.responseCodec rpc).encode response) }, response)

variable (session : SessionState) (command : CommandIdentity)
  (request : S.Request rpc) (response : S.Response rpc)

theorem checkCommand_cases :
    (checkCommand session command request response = (.proceed, response) ∧
      command.sequence = increment session.lastCommandSequence ∧
      command.sessionId = session.sessionId ∧ command.sessionEpoch = session.sessionEpoch ∧
      ¬ (session.commandReplay.present = true ∧
        command.sequence = session.commandReplay.commandSequence)) ∨
    (∃ stored, checkCommand session command request response =
        (.replayed, replayedResponse stored) ∧
      session.commandReplay.present = true ∧
      command.sequence = session.commandReplay.commandSequence ∧
      S.serialize request = session.commandReplay.payload ∧
      (S.responseCodec rpc).decode session.commandReplay.response = some stored) ∨
    (∃ errorCode message, errorCode ≠ .unspecified ∧
      checkCommand session command request response =
        (.rejected, S.withReply response (rejectCommand session errorCode message))) := by
  unfold checkCommand
  rcases kind : session.commandReplay.classify command.sequence session.lastCommandSequence
    (S.serialize request) with _ | _ | _ | _
  case proceed =>
    have fresh : command.sequence = increment session.lastCommandSequence ∧
        ¬ (session.commandReplay.present = true ∧
          command.sequence = session.commandReplay.commandSequence) := by
      unfold LifecycleReplayWindow.classify at kind
      grind
    by_cases sameId : command.sessionId = session.sessionId
    · by_cases sameEpoch : command.sessionEpoch = session.sessionEpoch
      · exact .inl ⟨by simp [sameId, sameEpoch], fresh.1, sameId, sameEpoch, fresh.2⟩
      · exact .inr (.inr ⟨.staleEpoch, _, by decide, by simp [sameId, sameEpoch]; rfl⟩)
    · exact .inr (.inr ⟨.invalidIdentity, _, by decide, by simp [sameId]; rfl⟩)
  case replay =>
    have same : session.commandReplay.present = true ∧
        command.sequence = session.commandReplay.commandSequence ∧
        S.serialize request = session.commandReplay.payload := by
      unfold LifecycleReplayWindow.classify at kind
      grind
    cases parsed : (S.responseCodec rpc).decode session.commandReplay.response with
    | none => exact .inr (.inr ⟨.stateConflict, _, by decide, rfl⟩)
    | some stored => exact .inr (.inl ⟨stored, rfl, same.1, same.2.1, same.2.2, rfl⟩)
  case payloadConflict => exact .inr (.inr ⟨.payloadConflict, _, by decide, rfl⟩)
  case outOfOrder => exact .inr (.inr ⟨.outOfOrder, _, by decide, rfl⟩)

theorem commitCommand_session (message : String) :
    (commitCommand session command request response message).1 =
      { session with
        lastCommandSequence := command.sequence
        commandReplay :=
          { present := true
            commandSequence := command.sequence
            payload := S.serialize request
            response := (S.responseCodec rpc).encode
              (commitCommand session command request response message).2 } } := rfl

theorem commitCommand_reply (message : String) :
    S.reply (commitCommand session command request response message).2 =
      { result := .applied
        errorCode := .unspecified
        message
        appliedSequence := command.sequence
        phase := session.phase } := by
  simp [commitCommand, fillReply]

end

end MazeClient
