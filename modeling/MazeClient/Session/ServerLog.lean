import MazeClient.Protocol.Encoding

set_option autoImplicit false

namespace MazeClient

open Wire

variable {S : Service}

structure Commit (S : Service) where
  rpc : S.Rpc
  request : S.Request rpc
  response : S.Response rpc

def Commit.sequence (commit : Commit S) : Nat := (S.command commit.request).sequence

def Commit.payload (commit : Commit S) : Bytes := S.serialize commit.request

def Commit.storedResponse (commit : Commit S) : Bytes :=
  (S.responseCodec commit.rpc).encode commit.response

def Commit.window (commit : Commit S) : LifecycleReplayWindow :=
  { present := true
    commandSequence := commit.sequence
    payload := commit.payload
    response := commit.storedResponse }

/-- A server session and the commands it has committed, oldest first. -/
structure ServerLog (S : Service) where
  session : SessionState
  commits : List (Commit S) := []

def freshSession (sessionId : String) (sessionEpoch : Nat) (phase : SessionPhase) : SessionState :=
  { sessionId, sessionEpoch, phase }

-- What a handler does once CheckCommand lets the request proceed: the phase it moves the
-- session to, the response it fills in and the message it commits with.
structure Commitment (S : Service) (rpc : S.Rpc) where
  phase : SessionPhase
  response : S.Response rpc
  message : String

structure Delivery (S : Service) where
  rpc : S.Rpc
  request : S.Request rpc
  response : S.Response rpc
  commitment : Option (Commitment S rpc)

def Delivery.command (delivery : Delivery S) : CommandIdentity := S.command delivery.request

def Delivery.check (delivery : Delivery S) (session : SessionState) :
    CommandCheck × S.Response delivery.rpc :=
  checkCommand session delivery.command delivery.request delivery.response

def ServerLog.commit (log : ServerLog S) {rpc : S.Rpc} (request : S.Request rpc)
    (commitment : Commitment S rpc) : ServerLog S :=
  let committed := commitCommand { log.session with phase := commitment.phase }
    (S.command request) request commitment.response commitment.message
  { session := committed.1
    commits := log.commits ++ [⟨rpc, request, committed.2⟩] }

def serve (log : ServerLog S) (delivery : Delivery S) : ServerLog S :=
  match (delivery.check log.session).1, delivery.commitment with
  | .proceed, some commitment => log.commit delivery.request commitment
  | _, _ => log

def serveAll (log : ServerLog S) (deliveries : List (Delivery S)) : ServerLog S :=
  deliveries.foldl serve log

/-- The window and last_command_sequence both describe the last commit, and the committed
sequences are 1, 2, 3, ... -/
structure ServerLog.Consistent (log : ServerLog S) : Prop where
  sequences : log.commits.map Commit.sequence = List.range' 1 log.commits.length
  last : log.session.lastCommandSequence = log.commits.length
  window : log.session.commandReplay = (log.commits.getLast?.map Commit.window).getD {}
  replies : ∀ commit ∈ log.commits, (S.reply commit.response).appliedSequence = commit.sequence

theorem consistent_fresh (sessionId : String) (sessionEpoch : Nat) (phase : SessionPhase) :
    (⟨freshSession sessionId sessionEpoch phase, []⟩ : ServerLog S).Consistent where
  sequences := rfl
  last := rfl
  window := rfl
  replies := by simp

theorem ServerLog.Consistent.getLast_sequence {log : ServerLog S} (consistent : log.Consistent)
    {commit : Commit S} (last : log.commits.getLast? = some commit) :
    commit.sequence = log.session.lastCommandSequence := by
  have nonempty : log.commits.length ≠ 0 := by
    intro empty
    simp [List.length_eq_zero_iff.mp empty] at last
  have mapped := congrArg List.getLast? consistent.sequences
  rw [List.getLast?_map, last, List.getLast?_range', if_neg nonempty] at mapped
  have same := Option.some.inj mapped
  rw [same, consistent.last]
  omega

@[simp] theorem ServerLog.commit_window (log : ServerLog S) {rpc : S.Rpc}
    (request : S.Request rpc) (commitment : Commitment S rpc) :
    (log.commit request commitment).session.commandReplay =
      ((log.commit request commitment).commits.getLast?.map Commit.window).getD {} := by
  simp [ServerLog.commit, commitCommand_session, Commit.window, Commit.sequence,
    Commit.payload, Commit.storedResponse]

theorem ServerLog.Consistent.commit {log : ServerLog S} (consistent : log.Consistent)
    {rpc : S.Rpc} (request : S.Request rpc) (commitment : Commitment S rpc)
    (next : (S.command request).sequence = log.commits.length + 1) :
    (log.commit request commitment).Consistent where
  sequences := by
    simp [ServerLog.commit, consistent.sequences, Commit.sequence, next, List.range'_concat,
      Nat.add_comm]
  last := by simp [ServerLog.commit, commitCommand, next]
  window := log.commit_window request commitment
  replies := by
    intro commit member
    rcases List.mem_append.mp member with old | new
    · exact consistent.replies commit old
    · obtain rfl := List.mem_singleton.mp new
      simp [commitCommand_reply, Commit.sequence]

theorem serve_cases (log : ServerLog S) (delivery : Delivery S) :
    (∃ commitment, delivery.commitment = some commitment ∧
      (delivery.check log.session).1 = .proceed ∧
      serve log delivery = log.commit delivery.request commitment) ∨
    serve log delivery = log := by
  unfold serve
  cases kind : (delivery.check log.session).1 <;> cases delivery.commitment <;> simp

theorem check_proceed {log : ServerLog S} {delivery : Delivery S}
    (kind : (delivery.check log.session).1 = .proceed) :
    delivery.command.sequence = increment log.session.lastCommandSequence ∧
      delivery.command.sessionId = log.session.sessionId ∧
      delivery.command.sessionEpoch = log.session.sessionEpoch := by
  rcases checkCommand_cases log.session delivery.command delivery.request delivery.response with
    ⟨-, sequence, sessionId, sessionEpoch, -⟩ | ⟨stored, answer, -⟩ | ⟨code, message, -, answer⟩
  · exact ⟨sequence, sessionId, sessionEpoch⟩
  · simp [Delivery.check, answer] at kind
  · simp [Delivery.check, answer] at kind

structure ServerLog.Bounded (log : ServerLog S) (sessionId : String) (sessionEpoch : Nat) :
    Prop where
  consistent : log.Consistent
  sessionId : log.session.sessionId = sessionId
  sessionEpoch : log.session.sessionEpoch = sessionEpoch
  small : log.commits.length < maxSequence

theorem ServerLog.Bounded.serve {log : ServerLog S} {sessionId : String} {sessionEpoch : Nat}
    (bounded : log.Bounded sessionId sessionEpoch) {delivery : Delivery S}
    (small : delivery.command.sequence < maxSequence) :
    (serve log delivery).Bounded sessionId sessionEpoch := by
  rcases serve_cases log delivery with ⟨commitment, -, kind, served⟩ | served
  · have next := (check_proceed kind).1
    have length := bounded.small
    rw [bounded.consistent.last, increment_of_lt length] at next
    rw [served]
    refine ⟨bounded.consistent.commit _ _ next, bounded.sessionId, bounded.sessionEpoch, ?_⟩
    have grown : (log.commit delivery.request commitment).commits.length =
        log.commits.length + 1 := by simp [ServerLog.commit]
    omega
  · rw [served]
    exact bounded

theorem serveAll_bounded {log : ServerLog S} {sessionId : String} {sessionEpoch : Nat}
    (bounded : log.Bounded sessionId sessionEpoch) (deliveries : List (Delivery S))
    (small : ∀ delivery ∈ deliveries, delivery.command.sequence < maxSequence) :
    (serveAll log deliveries).Bounded sessionId sessionEpoch := by
  induction deliveries generalizing log with
  | nil => exact bounded
  | cons delivery rest ih =>
      exact ih (bounded.serve (small delivery (by simp)))
        (fun later member => small later (List.mem_cons_of_mem _ member))

structure ServerLog.Answers (log : ServerLog S) (delivery : Delivery S) : Prop where
  proceed : (delivery.check log.session).1 = .proceed →
    delivery.command.sequence = log.session.lastCommandSequence + 1 ∧
      delivery.command.sessionId = log.session.sessionId ∧
      delivery.command.sessionEpoch = log.session.sessionEpoch
  replayed : (delivery.check log.session).1 = .replayed →
    ∃ commit stored, log.commits.getLast? = some commit ∧
      S.serialize delivery.request = commit.payload ∧
      (S.responseCodec delivery.rpc).decode commit.storedResponse = some stored ∧
      (delivery.rpc = commit.rpc → HEq stored commit.response) ∧
      (delivery.check log.session).2 = replayedResponse stored
  unchanged : (delivery.check log.session).1 ≠ .proceed →
    serve log delivery = log ∧
      (S.reply (delivery.check log.session).2).appliedSequence = log.session.lastCommandSequence

theorem ServerLog.Consistent.present_iff {log : ServerLog S} (consistent : log.Consistent) :
    log.session.commandReplay.present = true ↔ log.commits ≠ [] := by
  rw [consistent.window]
  cases last : log.commits.getLast? with
  | none => simp [List.getLast?_eq_none_iff.mp last]
  | some commit =>
      have nonempty : log.commits ≠ [] := by
        rintro empty
        simp [empty] at last
      simpa [Commit.window] using nonempty

theorem ServerLog.Consistent.last_commit {log : ServerLog S} (consistent : log.Consistent)
    (present : log.session.commandReplay.present = true) :
    ∃ commit, log.commits.getLast? = some commit ∧ log.session.commandReplay = commit.window := by
  have nonempty := consistent.present_iff.mp present
  refine ⟨log.commits.getLast nonempty, List.getLast?_eq_some_getLast nonempty, ?_⟩
  rw [consistent.window, List.getLast?_eq_some_getLast nonempty]
  rfl

theorem decode_same_rpc {rpc : S.Rpc} {commit : Commit S} {stored : S.Response rpc}
    (parsed : (S.responseCodec rpc).decode commit.storedResponse = some stored)
    (same : rpc = commit.rpc) : HEq stored commit.response := by
  subst same
  rw [Commit.storedResponse, (S.responseCodec commit.rpc).decode_encode] at parsed
  exact heq_of_eq (Option.some.inj parsed).symm

theorem ServerLog.Consistent.answers {log : ServerLog S} (consistent : log.Consistent)
    (small : log.commits.length < maxSequence) (delivery : Delivery S) :
    log.Answers delivery := by
  have keep (kind : (delivery.check log.session).1 ≠ .proceed) : serve log delivery = log := by
    rcases serve_cases log delivery with ⟨-, -, proceeds, -⟩ | same
    · exact absurd proceeds kind
    · exact same
  rcases checkCommand_cases log.session delivery.command delivery.request delivery.response with
    ⟨answer, sequence, sessionId, sessionEpoch, -⟩ |
      ⟨stored, answer, present, sequence, payload, parsed⟩ | ⟨code, message, -, answer⟩
  · refine ⟨fun _ => ⟨?_, sessionId, sessionEpoch⟩, ?_, ?_⟩
    · rw [sequence, increment_of_lt (consistent.last ▸ small)]
    · simp [Delivery.check, answer]
    · simp [Delivery.check, answer]
  · obtain ⟨commit, last, window⟩ := consistent.last_commit present
    rw [window] at parsed payload
    refine ⟨?_, fun _ => ⟨commit, stored, last, payload, parsed,
      fun same => decode_same_rpc parsed same, by simp [Delivery.check, answer]⟩, fun kind =>
      ⟨keep kind, ?_⟩⟩
    · simp [Delivery.check, answer]
    · have reply := S.decode_reply _ _ _ _ parsed
      have member := List.mem_of_getLast? last
      simp only [Delivery.check, answer, replayedResponse, Service.reply_withReply]
      rw [reply, consistent.replies commit member, consistent.getLast_sequence last]
  · refine ⟨?_, ?_, fun kind => ⟨keep kind, ?_⟩⟩ <;>
      simp [Delivery.check, answer, rejectCommand, fillReply]

/-- A session's command log as seen by the next request, whoever sent the ones before. -/
structure CommandLog (log : ServerLog S) (next : Delivery S) : Prop where
  present : log.session.commandReplay.present = true ↔ log.commits ≠ []
  window : ∀ commit, log.commits.getLast? = some commit →
    log.session.commandReplay = commit.window ∧
      log.session.commandReplay.commandSequence = log.session.lastCommandSequence
  answers : log.Answers next
  sequences : log.commits.map Commit.sequence = List.range' 1 log.commits.length
  committedOnce : (log.commits.map Commit.sequence).Nodup

theorem serveAll_commandLog (sessionId : String) (sessionEpoch : Nat) (phase : SessionPhase)
    (deliveries : List (Delivery S))
    (small : ∀ delivery ∈ deliveries, delivery.command.sequence < maxSequence)
    (next : Delivery S) :
    CommandLog (serveAll ⟨freshSession sessionId sessionEpoch phase, []⟩ deliveries) next := by
  have fresh : (⟨freshSession sessionId sessionEpoch phase, []⟩ : ServerLog S).Bounded
      sessionId sessionEpoch :=
    ⟨consistent_fresh sessionId sessionEpoch phase, rfl, rfl, by simp [maxSequence]⟩
  have bounded := serveAll_bounded fresh deliveries small
  have consistent := bounded.consistent
  refine ⟨consistent.present_iff, ?_, consistent.answers bounded.small next,
    consistent.sequences, ?_⟩
  · intro commit last
    have window := consistent.window
    rw [last] at window
    exact ⟨window, by rw [window]; exact consistent.getLast_sequence last⟩
  · rw [consistent.sequences]
    exact List.nodup_range'

def sampleBegin : Delivery (mazeService wireResponses) where
  rpc := .beginEpisode
  request := { command := some { sessionId := "session", sessionEpoch := 1, sequence := 1 } }
  response := {}
  commitment := some { phase := .episodeRunning, response := {}, message := "begun" }

theorem serveAll_commandLog_begin :
    let log := serveAll ⟨freshSession "session" 1 .ready, []⟩ [sampleBegin, sampleBegin]
    log.commits.length = 1 ∧ CommandLog log sampleBegin :=
  ⟨by decide, serveAll_commandLog "session" 1 .ready [sampleBegin, sampleBegin] (by decide)
    sampleBegin⟩

end MazeClient
