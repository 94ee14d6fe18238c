import MazeClient.Protocol.Messages

set_option autoImplicit false

namespace MazeClient

structure LifecycleCursor where
  sessionId : String := ""
  episodeId : String := ""
  sessionEpoch : Nat := 0
  nextSequence : Nat := 1
  phase : SessionPhase := .unspecified
  deriving DecidableEq

def increment (sequence : Nat) : Nat := (sequence + 1) % 18446744073709551616

def maxSequence : Nat := 18446744073709551615

theorem increment_of_lt {sequence : Nat} (small : sequence < maxSequence) :
    increment sequence = sequence + 1 := Nat.mod_eq_of_lt (Nat.succ_lt_succ small)

def updateCursor (cursor : LifecycleCursor) (reply : CommandReply) : LifecycleCursor :=
  { cursor with phase := reply.phase }

def fillCommand (cursor : LifecycleCursor) : CommandIdentity :=
  { sessionId := cursor.sessionId
    sessionEpoch := cursor.sessionEpoch
    sequence := cursor.nextSequence
    episodeId := cursor.episodeId }

def hasConcretePhase (reply : CommandReply) : Bool :=
  SessionPhase.opened.number ≤ reply.phase.number &&
    reply.phase.number ≤ SessionPhase.aborted.number

def commandAccepted (reply : CommandReply) : Bool :=
  (reply.result = .applied || reply.result = .alreadyApplied) && reply.errorCode = .unspecified

def acceptCommandReply (cursor : LifecycleCursor) (reply : CommandReply) :
    Bool × LifecycleCursor :=
  if !commandAccepted reply || reply.appliedSequence ≠ cursor.nextSequence ||
      !hasConcretePhase reply then
    (false, cursor)
  else (true, { updateCursor cursor reply with nextSequence := increment cursor.nextSequence })

def isCommandWait (cursor : LifecycleCursor) (reply : CommandReply) : Bool :=
  0 < cursor.nextSequence && reply.result = .wait && reply.errorCode = .unspecified &&
    reply.appliedSequence = cursor.nextSequence - 1 && hasConcretePhase reply &&
    reply.phase = cursor.phase

def isConclusiveRejected (cursor : LifecycleCursor) (reply : CommandReply) : Bool :=
  0 < cursor.nextSequence && reply.result = .rejected && reply.errorCode ≠ .unspecified &&
    reply.appliedSequence = cursor.nextSequence - 1 && hasConcretePhase reply &&
    reply.phase = cursor.phase

inductive CommandOutcome where
  | applied
  | rejected
  | unknown
  | stopped
  | waitExpired
  deriving DecidableEq

-- The verdict of Session::Exchange on a reply it does not wait on. `valid` stands for
-- `delay == 0 && validate(request, response)`.
def settle (cursor : LifecycleCursor) (valid : Bool) (reply : CommandReply) :
    CommandOutcome × LifecycleCursor :=
  if valid && (acceptCommandReply cursor reply).1 then
    (.applied, (acceptCommandReply cursor reply).2)
  else if isConclusiveRejected cursor reply then (.rejected, cursor)
  else (.unknown, cursor)

theorem acceptCommandReply_iff (cursor : LifecycleCursor) (reply : CommandReply) :
    (acceptCommandReply cursor reply).1 = true ↔
      commandAccepted reply ∧ reply.appliedSequence = cursor.nextSequence ∧
        hasConcretePhase reply := by
  unfold acceptCommandReply
  cases commandAccepted reply <;> cases hasConcretePhase reply <;>
    by_cases same : reply.appliedSequence = cursor.nextSequence <;> simp [same]

theorem acceptCommandReply_cursor {cursor : LifecycleCursor} {reply : CommandReply}
    (accepted : (acceptCommandReply cursor reply).1 = true) :
    (acceptCommandReply cursor reply).2 =
      { cursor with phase := reply.phase, nextSequence := increment cursor.nextSequence } := by
  unfold acceptCommandReply at accepted ⊢
  split at accepted
  · cases accepted
  · simp_all [updateCursor]

theorem settle_cases (cursor : LifecycleCursor) (valid : Bool) (reply : CommandReply) :
    (settle cursor valid reply =
        (.applied, { cursor with
          phase := reply.phase, nextSequence := increment cursor.nextSequence }) ∧
      valid = true ∧ commandAccepted reply = true ∧
      reply.appliedSequence = cursor.nextSequence ∧ hasConcretePhase reply = true) ∨
    (settle cursor valid reply = (.rejected, cursor) ∧ isConclusiveRejected cursor reply = true) ∨
    settle cursor valid reply = (.unknown, cursor) := by
  unfold settle
  by_cases accepted : valid && (acceptCommandReply cursor reply).1
  · obtain ⟨isValid, isAccepted⟩ := Bool.and_eq_true_iff.mp accepted
    have facts := (acceptCommandReply_iff cursor reply).mp isAccepted
    rw [if_pos accepted, acceptCommandReply_cursor isAccepted]
    exact .inl ⟨rfl, isValid, facts⟩
  · rw [if_neg accepted]
    by_cases rejected : isConclusiveRejected cursor reply = true <;> simp [rejected]

theorem commandAccepted_result {reply : CommandReply} (accepted : commandAccepted reply = true) :
    (reply.result = .applied ∨ reply.result = .alreadyApplied) ∧
      reply.errorCode = .unspecified := by
  simpa [commandAccepted] using accepted

end MazeClient
