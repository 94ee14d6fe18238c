import MazeClient.Client.Order
import MazeClient.Client.Outcome

set_option autoImplicit false

namespace MazeClient

open Program

variable {τ : Type} {final : Command τ → Prop}

def openedBy : List (Command τ) → Option OpenSessionRsp
  | [] => none
  | ⟨.openSession, issue⟩ :: _ => some issue.response
  | ⟨.task _, _⟩ :: earlier => openedBy earlier

def latestAssignment : List (Command τ) → Option EpisodeAssignment
  | [] => none
  | ⟨.task .beginEpisode, issue⟩ :: earlier =>
      if issue.outcome = some .applied then some issue.response.assignment
      else latestAssignment earlier
  | _ :: earlier => latestAssignment earlier

def InEpisode (phase : SessionPhase) : Prop := phase = .episodeRunning ∨ phase = .episodeTerminal

instance (phase : SessionPhase) : Decidable (InEpisode phase) := inferInstanceAs (Decidable (_ ∨ _))

structure EpisodeScoped (cursor : LifecycleCursor) (commands : List (Command τ)) : Prop where
  named : cursor.episodeId ≠ "" ↔ InEpisode cursor.phase
  assigned : InEpisode cursor.phase →
    (latestAssignment commands).map EpisodeAssignment.episodeId = some cursor.episodeId

theorem latestAssignment_skip {rpc : TaskRpc} (issue : Issue τ (.task rpc))
    (earlier : List (Command τ))
    (skip : rpc ≠ .beginEpisode ∨ issue.outcome ≠ some .applied) :
    latestAssignment (⟨.task rpc, issue⟩ :: earlier) = latestAssignment earlier := by
  cases rpc <;> simp_all [latestAssignment]

theorem EpisodeScoped.idle {cursor : LifecycleCursor} {commands : List (Command τ)}
    (outside : ¬ InEpisode cursor.phase) (unnamed : cursor.episodeId = "") :
    EpisodeScoped cursor commands :=
  ⟨by simp [outside, unnamed], fun inside => absurd inside outside⟩

theorem EpisodeScoped.apply {rpc : TaskRpc} {issue : Issue τ (.task rpc)}
    {earlier : List (Command τ)} (before : EpisodeScoped issue.cursor earlier)
    (permitted : Permitted final ⟨.task rpc, issue⟩ earlier)
    (applied : issue.outcome = some .applied) (admits : TaskRpc.admits issue.response = true) :
    EpisodeScoped issue.after (⟨.task rpc, issue⟩ :: earlier) := by
  have phase := issue.after_phase
  have episode := issue.after_episodeId
  rw [if_pos applied] at phase episode
  have leads := TaskRpc.admits_leads admits
  rw [← phase] at leads
  have unnamed (outside : ¬ InEpisode issue.cursor.phase) : issue.cursor.episodeId = "" := by
    simpa [outside] using before.named
  cases rpc with
  | init =>
      have idle : issue.cursor.phase = .opened := permitted.2
      have ready : issue.after.phase = .ready := leads
      exact .idle (by simp [InEpisode, ready]) (episode.trans (unnamed (by simp [InEpisode, idle])))
  | beginEpisode =>
      have idle : issue.cursor.phase = .ready := permitted.2
      have answered : issue.response.reply.phase = issue.after.phase := phase.symm
      rcases leads with running | complete
      · have assigned : issue.response.assignment.episodeId ≠ "" := by
          simp [TaskRpc.admits, answered, running] at admits
          exact admits.2
        have named : issue.after.episodeId = issue.response.assignment.episodeId := by
          rw [episode, TaskRpc.episodeAfter, if_pos (answered.trans running)]
        exact ⟨by simp [named, assigned, InEpisode, running],
          fun _ => by simp [latestAssignment, applied, named]⟩
      · have skipped : issue.after.episodeId = issue.cursor.episodeId := by
          rw [episode, TaskRpc.episodeAfter, if_neg (by simp [answered, complete])]
        exact .idle (by simp [InEpisode, complete])
          (skipped.trans (unnamed (by simp [InEpisode, idle])))
  | update =>
      have inside : InEpisode issue.cursor.phase := permitted.2
      have same : issue.after.episodeId = issue.cursor.episodeId := episode
      have stays : InEpisode issue.after.phase := leads
      refine ⟨?_, fun _ => ?_⟩
      · simpa [same, stays, inside] using before.named
      · rw [latestAssignment_skip _ _ (.inl (by simp)), same]
        exact before.assigned inside
  | endEpisode =>
      have ready : issue.after.phase = .ready := leads
      exact .idle (by simp [InEpisode, ready]) episode
  | abortEpisode =>
      have aborted : issue.after.phase = .aborted := leads
      exact .idle (by simp [InEpisode, aborted]) episode
  | closeSession =>
      have closed : issue.after.phase = .closed := leads
      refine .idle (by simp [InEpisode, closed]) (episode.trans (unnamed ?_))
      rcases permitted.2 with phase | phase | phase | phase <;>
        simp [InEpisode, show issue.cursor.phase = _ from phase]

theorem Lawful.episodeScoped {commands : List (Command τ)} (lawful : Lawful final commands) :
    EpisodeScoped (cursorAfter commands) commands := by
  induction lawful with
  | nil => exact .idle (by simp [cursorAfter, InEpisode]) rfl
  | @cons command earlier lawful current proper permitted ih =>
      rcases command with ⟨_ | rpc, issue⟩
      · obtain rfl : earlier = [] := permitted
        have unbound : issue.cursor = {} := current
        by_cases applied : issue.outcome = some .applied
        · apply EpisodeScoped.idle <;>
            simp [cursorAfter, Command.after, applied, bindCursor, updateCursor, unbound,
              InEpisode, (proper applied).2.1]
        · apply EpisodeScoped.idle <;>
            simp [cursorAfter, Command.after, applied, unbound, InEpisode]
      · have same : issue.cursor = cursorAfter earlier := current
        rw [← same] at ih
        change EpisodeScoped issue.after _
        by_cases applied : issue.outcome = some .applied
        · exact ih.apply permitted applied (proper.2.1 applied).1
        · have kept : issue.after = issue.cursor := if_neg applied
          rw [kept]
          exact ⟨ih.named, by rw [latestAssignment_skip _ _ (.inr applied)]; exact ih.assigned⟩

theorem Lawful.bound {commands : List (Command τ)} (lawful : Lawful final commands)
    (begun : commands ≠ []) (alive : standing commands ≠ .over) :
    ∃ response, openedBy commands = some response ∧
      (cursorAfter commands).sessionId = response.sessionId ∧
      (cursorAfter commands).sessionEpoch = response.sessionEpoch := by
  induction lawful with
  | nil => exact absurd rfl begun
  | @cons command earlier lawful current proper permitted ih =>
      rcases command with ⟨_ | rpc, issue⟩
      · have applied : issue.outcome = some .applied := by
          unfold standing standingAfter at alive
          split at alive <;> simp_all [Command.outcome]
        exact ⟨issue.response, rfl, by simp [cursorAfter, Command.after, applied, bindCursor],
          by simp [cursorAfter, Command.after, applied, bindCursor]⟩
      · obtain ⟨started, before⟩ := Permitted.begun permitted current
        obtain ⟨response, opened, id, epoch⟩ := ih started before
        have same : issue.cursor = cursorAfter earlier := current
        rw [← same] at id epoch
        refine ⟨response, opened, issue.after_sessionId.trans id, Eq.trans ?_ epoch⟩
        change issue.after.sessionEpoch = _
        unfold Issue.after
        split <;> rfl

theorem Lawful.inEpisode {rpc : TaskRpc} {issue : Issue τ (.task rpc)}
    {earlier : List (Command τ)} (lawful : Lawful final earlier)
    (current : issue.cursor = cursorAfter earlier)
    (permitted : Permitted final ⟨.task rpc, issue⟩ earlier)
    (episodic : rpc = .update ∨ rpc = .endEpisode ∨ rpc = .abortEpisode) :
    InEpisode issue.cursor.phase := by
  rcases episodic with rfl | rfl | rfl
  · exact permitted.2
  · obtain ⟨-, report, newest, reporting, applied, -⟩ := permitted
    cases lawful with
    | nil => cases newest
    | @cons head _ older current' proper permitted' =>
        obtain rfl : head = report := Option.some.inj newest
        obtain ⟨rpc, reported⟩ := head
        obtain rfl : rpc = .task .update := reporting
        have applied : reported.outcome = some .applied := applied
        have leads := TaskRpc.admits_leads (proper.2.1 applied).1
        have phase : issue.cursor.phase = reported.after.phase := by rw [current]; rfl
        rw [reported.after_phase, if_pos applied] at phase
        exact phase ▸ leads
  · exact .inl permitted.2

theorem Lawful.between {rpc : TaskRpc} {issue : Issue τ (.task rpc)}
    {earlier : List (Command τ)} (permitted : Permitted final ⟨.task rpc, issue⟩ earlier)
    (sessional : rpc = .init ∨ rpc = .beginEpisode ∨ rpc = .closeSession) :
    ¬ InEpisode issue.cursor.phase := by
  rcases sessional with rfl | rfl | rfl
  · have phase : issue.cursor.phase = .opened := permitted.2
    simp [InEpisode, phase]
  · have phase : issue.cursor.phase = .ready := permitted.2
    simp [InEpisode, phase]
  · have phase : issue.cursor.phase = .opened ∨ issue.cursor.phase = .ready ∨
        issue.cursor.phase = .aborted ∨ issue.cursor.phase = .taskComplete := permitted.2
    rcases phase with phase | phase | phase | phase <;> simp [InEpisode, phase]

structure Identified {rpc : TaskRpc} (issue : Issue τ (.task rpc)) (earlier : List (Command τ))
    (identity : CommandIdentity) (opened : OpenSessionRsp) : Prop where
  carried : TaskRpc.command? issue.request = some identity
  first : openedBy earlier = some opened
  sessionId : identity.sessionId = opened.sessionId
  sessionEpoch : identity.sessionEpoch = opened.sessionEpoch
  episodic : rpc = .update ∨ rpc = .endEpisode ∨ rpc = .abortEpisode →
    (latestAssignment earlier).map EpisodeAssignment.episodeId = some identity.episodeId
  sessional : rpc = .init ∨ rpc = .beginEpisode ∨ rpc = .closeSession → identity.episodeId = ""

/-- Between commands the cursor names the assigned episode exactly while it is running or
terminal, every request carries the identity that follows, and nothing else is sent. -/
theorem runSession_identified {outside : Outside} {fuel : Nat} {binding : Binding (World τ)}
    (drives : DrivesClient outside fuel final binding) (options : ClientOptions)
    (connected : Bool) (task : τ) :
    let run := (runSession fuel binding (World.start options connected task)).2
    EpisodeScoped run.client.cursor run.commands ∧
      (∀ (rpc : TaskRpc) (issue : Issue τ (.task rpc)) (earlier : List (Command τ)),
        ⟨.task rpc, issue⟩ :: earlier <:+ run.commands →
          EpisodeScoped issue.cursor earlier ∧
            ∃ identity opened, Identified issue earlier identity opened) ∧
      run.sent = run.commands.flatMap Command.attempts := by
  have kept : Kept final (runSession fuel binding (World.start options connected task)).2 :=
    runSession_kept drives options connected task
  refine ⟨kept.cursor ▸ kept.lawful.episodeScoped, fun rpc issue earlier suffix => ?_, kept.sent⟩
  obtain ⟨before, current, proper, permitted⟩ := kept.lawful.step suffix
  have same : issue.cursor = cursorAfter earlier := current
  have scope := before.episodeScoped
  obtain ⟨begun, alive⟩ := Permitted.begun permitted same
  obtain ⟨opened, first, id, epoch⟩ := before.bound begun alive
  rw [← same] at scope id epoch
  refine ⟨scope, fillCommand issue.cursor, opened, proper.1, first, id, epoch, ?_, ?_⟩
  · exact fun episodic => scope.assigned (before.inEpisode same permitted episodic)
  · exact fun sessional => by
      simpa [fillCommand, Lawful.between permitted sessional] using scope.named

theorem runSession_identified_rejected :
    let run := (runSession 3 (failureBinding (rejectingServer false) 3) firstWorld).2
    EpisodeScoped run.client.cursor run.commands ∧
      ∀ (issue : Issue Unit (.task .abortEpisode)) (earlier : List (Command Unit)),
        ⟨.task .abortEpisode, issue⟩ :: earlier <:+ run.commands →
          ∃ identity opened, Identified issue earlier identity opened := by
  have key := runSession_identified (failureBinding_drives (rejectingServer false) 3) {} true ()
  generalize (runSession 3 (failureBinding (rejectingServer false) 3) firstWorld).2 = run
    at key ⊢
  exact ⟨key.1, fun issue earlier suffix => (key.2.1 _ issue earlier suffix).2⟩

end MazeClient
