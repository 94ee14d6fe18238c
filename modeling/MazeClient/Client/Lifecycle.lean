import MazeClient.Client.Exchange

set_option autoImplicit false

namespace MazeClient

open Program

variable {τ : Type}

namespace Command

def outcome (command : Command τ) : Option CommandOutcome := command.issue.outcome

def cursor (command : Command τ) : LifecycleCursor := command.issue.cursor

def error (command : Command τ) : String := command.issue.error

def after : Command τ → LifecycleCursor
  | ⟨.openSession, issue⟩ =>
      if issue.outcome = some .applied then
        bindCursor issue.cursor issue.response.sessionId issue.response.sessionEpoch
          issue.response.reply
      else issue.cursor
  | ⟨.task _, issue⟩ => issue.after

/-- A record TaskClient can have written. -/
def Proper : Command τ → Prop
  | ⟨.openSession, issue⟩ => issue.outcome = some .applied →
      issue.response.reply.appliedSequence = 0 ∧ issue.response.reply.phase = .opened ∧
      issue.response.sessionId ≠ "" ∧ issue.response.sessionEpoch ≠ 0 ∧ 0 < issue.sends
  | ⟨.task rpc, issue⟩ =>
      TaskRpc.command? issue.request = some (fillCommand issue.cursor) ∧
      (issue.outcome = some .applied →
        TaskRpc.admits issue.response = true ∧
        commandAccepted (TaskRpc.reply issue.response) = true ∧
        (TaskRpc.reply issue.response).appliedSequence = issue.cursor.nextSequence ∧
        0 < issue.sends) ∧
      (rpc.cleanup?.isSome → issue.outcome ≠ some .stopped)

end Command

def cursorAfter : List (Command τ) → LifecycleCursor
  | [] => {}
  | command :: _ => command.after

inductive Standing where
  | going
  | leaving
  | over
  deriving DecidableEq

def standingAfter (rpc : SessionRpc) (outcome : Option CommandOutcome) (before : Standing) :
    Standing :=
  match outcome, rpc with
  | none, _ => .over
  | some .unknown, _ => .over
  | some .applied, .task .closeSession => .over
  | some .applied, .task .abortEpisode => .leaving
  | some .applied, _ => before
  | some _, .openSession => .over
  | some _, .task .abortEpisode => .over
  | some _, .task .closeSession => .over
  | some _, _ => .leaving

def standing : List (Command τ) → Standing
  | [] => .going
  | command :: earlier => standingAfter command.rpc command.outcome (standing earlier)

def Permitted (final : Command τ → Prop) (command : Command τ) (earlier : List (Command τ)) :
    Prop :=
  let phase := command.cursor.phase
  match command.rpc with
  | .openSession => earlier = []
  | .task .init => standing earlier = .going ∧ phase = .opened
  | .task .beginEpisode => standing earlier = .going ∧ phase = .ready
  | .task .update =>
      standing earlier = .going ∧ (phase = .episodeRunning ∨ phase = .episodeTerminal)
  | .task .endEpisode => standing earlier = .going ∧ ∃ report ∈ earlier.head?,
      report.rpc = .task .update ∧ report.outcome = some .applied ∧ final report
  | .task .abortEpisode => standing earlier ≠ .over ∧ phase = .episodeRunning
  | .task .closeSession => standing earlier ≠ .over ∧
      (phase = .opened ∨ phase = .ready ∨ phase = .aborted ∨ phase = .taskComplete)

/-- The lifecycle a session follows: the records it may consist of, newest first. -/
inductive Lawful (final : Command τ → Prop) : List (Command τ) → Prop
  | nil : Lawful final []
  | cons {command : Command τ} {earlier : List (Command τ)} (lawful : Lawful final earlier)
      (current : command.cursor = cursorAfter earlier) (proper : command.Proper)
      (permitted : Permitted final command earlier) : Lawful final (command :: earlier)

-- Between commands the record leads to the client's cursor and accounts for every attempt.
structure Kept (final : Command τ → Prop) (w : World τ) : Prop where
  lawful : Lawful final w.commands
  cursor : w.client.cursor = cursorAfter w.commands
  sent : w.sent = w.commands.flatMap Command.attempts

variable {final : Command τ → Prop}

theorem Performed.proper {rpc : TaskRpc} {payload : rpc.Request}
    {validate : rpc.Request → rpc.Response → Bool} {w w' : World τ} {issue : Issue τ (.task rpc)}
    {result : Option (CommandOutcome × rpc.Response)}
    (performed : Performed payload validate w issue result w') :
    Command.Proper ⟨.task rpc, issue⟩ := by
  refine ⟨?_, ?_, performed.unstopped⟩
  · rw [performed.request, TaskRpc.command?_withCommand, performed.issuedAt]
  · intro applied
    obtain ⟨admits, -, accepted, sequence, sent⟩ := performed.applied applied
    exact ⟨admits, accepted, sequence, sent⟩

theorem Kept.perform {rpc : TaskRpc} {payload : rpc.Request}
    {validate : rpc.Request → rpc.Response → Bool} {w w' : World τ} {issue : Issue τ (.task rpc)}
    {result : Option (CommandOutcome × rpc.Response)} (kept : Kept final w)
    (performed : Performed payload validate w issue result w')
    (permitted : Permitted final ⟨.task rpc, issue⟩ w.commands) : Kept final w' := by
  refine ⟨?_, ?_, ?_⟩
  · rw [performed.commands]
    exact .cons kept.lawful (performed.issuedAt.trans kept.cursor) performed.proper permitted
  · rw [performed.cursor, performed.commands]
    rfl
  · rw [performed.sent, performed.commands, List.flatMap_cons, kept.sent]

theorem standingAfter_going {rpc : SessionRpc} {outcome : Option CommandOutcome}
    {before : Standing} (going : standingAfter rpc outcome before = .going) :
    before = .going ∧ outcome = some .applied ∧ rpc ≠ .task .abortEpisode ∧
      rpc ≠ .task .closeSession := by
  unfold standingAfter at going
  split at going <;> simp_all

theorem standing_going {commands : List (Command τ)} (going : standing commands = .going) :
    ∀ command ∈ commands, command.outcome = some .applied ∧
      command.rpc ≠ .task .abortEpisode ∧ command.rpc ≠ .task .closeSession := by
  induction commands with
  | nil => simp
  | cons command earlier ih =>
      obtain ⟨before, here⟩ := standingAfter_going going
      intro other member
      rcases List.mem_cons.mp member with rfl | older
      · exact here
      · exact ih before other older

def TaskRpc.Leads : TaskRpc → SessionPhase → Prop
  | .init, phase => phase = .ready
  | .beginEpisode, phase => phase = .episodeRunning ∨ phase = .taskComplete
  | .update, phase => phase = .episodeRunning ∨ phase = .episodeTerminal
  | .endEpisode, phase => phase = .ready
  | .abortEpisode, phase => phase = .aborted
  | .closeSession, phase => phase = .closed

theorem TaskRpc.admits_leads {rpc : TaskRpc} {response : rpc.Response}
    (admits : TaskRpc.admits response = true) : rpc.Leads (TaskRpc.reply response).phase := by
  cases rpc <;> simp [TaskRpc.admits] at admits <;> simp [Leads, TaskRpc.reply] <;> grind

theorem Permitted.begun {rpc : TaskRpc} {issue : Issue τ (.task rpc)}
    {earlier : List (Command τ)} (permitted : Permitted final ⟨.task rpc, issue⟩ earlier)
    (current : issue.cursor = cursorAfter earlier) :
    earlier ≠ [] ∧ standing earlier ≠ .over := by
  refine ⟨?_, ?_⟩
  · rintro rfl
    cases rpc <;> simp [Permitted, Command.cursor, current, cursorAfter] at permitted
  · intro finished
    cases rpc <;> simp [Permitted, finished] at permitted

theorem Issue.after_phase {rpc : TaskRpc} (issue : Issue τ (.task rpc)) :
    issue.after.phase =
      if issue.outcome = some .applied then (TaskRpc.reply issue.response).phase
      else issue.cursor.phase := by
  unfold Issue.after
  split <;> rfl

theorem Issue.after_sessionId {rpc : TaskRpc} (issue : Issue τ (.task rpc)) :
    issue.after.sessionId = issue.cursor.sessionId := by
  unfold Issue.after
  split <;> rfl

-- A session that may still send a command is bound, and in a phase `finish` knows but for
-- EPISODE_TERMINAL.
theorem Lawful.leavable {commands : List (Command τ)} (lawful : Lawful final commands)
    (begun : commands ≠ []) (leavable : standing commands ≠ .over) :
    (cursorAfter commands).sessionId ≠ "" ∧
      (cursorAfter commands).phase ∈
        [.opened, .ready, .episodeRunning, .episodeTerminal, .taskComplete, .aborted] := by
  induction lawful with
  | nil => exact absurd rfl begun
  | @cons command earlier lawful current proper permitted ih =>
      rcases command with ⟨_ | rpc, issue⟩
      · have applied : issue.outcome = some .applied := by
          unfold standing standingAfter at leavable
          split at leavable <;> simp_all [Command.outcome]
        obtain ⟨-, opened, bound, -, -⟩ := proper applied
        simp [cursorAfter, Command.after, applied, bindCursor, updateCursor, opened, bound]
      · obtain ⟨started, alive⟩ := permitted.begun current
        obtain ⟨bound, phase⟩ := ih started alive
        have same : issue.cursor = cursorAfter earlier := current
        refine ⟨?_, ?_⟩
        · exact (issue.after_sessionId.trans (congrArg _ same)) ▸ bound
        · change issue.after.phase ∈ _
          rw [issue.after_phase]
          split
          case isTrue applied =>
            have leads := TaskRpc.admits_leads (proper.2.1 applied).1
            have alive : standingAfter (.task rpc) (some .applied) (standing earlier) ≠ .over := by
              simpa [standing, Command.outcome, applied] using leavable
            cases rpc <;> simp_all [TaskRpc.Leads, standingAfter]
            all_goals rcases leads with phase | phase <;> simp [phase]
          case isFalse failed =>
            rw [same]
            exact phase

end MazeClient
