import MazeClient.Client.Cleanup

set_option autoImplicit false

namespace MazeClient

open Program

variable {τ : Type} {final : Command τ → Prop}

def sentCommands (commands : List (Command τ)) : List (Command τ) :=
  commands.filter fun command => 0 < command.issue.sends

theorem Lawful.suffix {commands earlier : List (Command τ)} (lawful : Lawful final commands)
    (suffix : earlier <:+ commands) : Lawful final earlier := by
  induction lawful with
  | nil => rw [List.suffix_nil.mp suffix]; exact .nil
  | cons lawful current proper permitted ih =>
      rcases List.suffix_cons_iff.mp suffix with rfl | older
      · exact .cons lawful current proper permitted
      · exact ih older

theorem Permitted.alive {command : Command τ} {earlier : List (Command τ)}
    (permitted : Permitted final command earlier) (current : command.cursor = cursorAfter earlier)
    (begun : earlier ≠ []) : standing earlier ≠ .over := by
  rcases command with ⟨_ | rpc, issue⟩
  · exact absurd permitted begun
  · exact (Permitted.begun permitted current).2

theorem Lawful.alive {commands : List (Command τ)} (lawful : Lawful final commands)
    (alive : standing commands ≠ .over) :
    ∀ command ∈ commands, command.outcome ≠ none ∧ command.outcome ≠ some .unknown ∧
      command.rpc ≠ .task .closeSession := by
  induction lawful with
  | nil => simp
  | @cons command earlier lawful current proper permitted ih =>
      refine List.forall_mem_cons.mpr ⟨?_, ?_⟩
      · rw [standing, standingAfter.eq_def] at alive
        refine ⟨?_, ?_, ?_⟩ <;> intro same <;> simp [same] at alive
        split at alive <;> simp_all
      · by_cases begun : earlier = []
        · simp [begun]
        · exact ih (permitted.alive current begun)

theorem Command.Proper.sent {command : Command τ} (proper : command.Proper)
    (applied : command.outcome = some .applied) : 0 < command.issue.sends := by
  rcases command with ⟨_ | rpc, issue⟩
  · exact (proper applied).2.2.2.2
  · exact (proper.2.1 applied).2.2.2

theorem Lawful.sent_cursor {commands : List (Command τ)} (lawful : Lawful final commands) :
    cursorAfter (sentCommands commands) = cursorAfter commands := by
  induction lawful with
  | nil => rfl
  | @cons command earlier lawful current proper permitted ih =>
      by_cases sent : 0 < command.issue.sends
      · simp [sentCommands, sent, cursorAfter]
      · have unapplied : command.outcome ≠ some .applied :=
          fun applied => sent (proper.sent applied)
        have kept : command.after = command.cursor := by
          rcases command with ⟨_ | rpc, issue⟩ <;>
            simp_all [Command.after, Issue.after, Command.outcome, Command.cursor]
        have dropped : sentCommands (command :: earlier) = sentCommands earlier := by
          simp [sentCommands, sent]
        rw [dropped, ih, cursorAfter, kept, current]

theorem sentCommands_eq {commands : List (Command τ)} (lawful : Lawful final commands)
    (applied : ∀ command ∈ commands, command.outcome = some .applied) :
    sentCommands commands = commands := by
  apply List.filter_eq_self.mpr
  intro command member
  induction lawful with
  | nil => cases member
  | cons lawful current proper permitted ih =>
      rcases List.mem_cons.mp member with rfl | older
      · simpa using proper.sent (applied command member)
      · exact ih (fun other rest => applied other (List.mem_cons_of_mem _ rest)) older

theorem Lawful.sent_alive {commands : List (Command τ)} (lawful : Lawful final commands)
    (alive : standing commands ≠ .over) : standing (sentCommands commands) ≠ .over := by
  induction lawful with
  | nil => simp [sentCommands, standing]
  | @cons command earlier lawful current proper permitted ih =>
      have before : standing (sentCommands earlier) ≠ .over := by
        by_cases begun : earlier = []
        · simp [begun, sentCommands, standing]
        · exact ih (permitted.alive current begun)
      by_cases sent : 0 < command.issue.sends
      · simp only [sentCommands, sent, decide_true, List.filter_cons_of_pos]
        rw [standing] at alive ⊢
        unfold standingAfter at alive ⊢
        split at alive <;> simp_all [sentCommands]
      · simpa [sentCommands, sent] using before

theorem Lawful.sent {commands : List (Command τ)} (lawful : Lawful final commands) :
    Lawful final (sentCommands commands) := by
  induction lawful with
  | nil => exact .nil
  | @cons command earlier lawful current proper permitted ih =>
      by_cases sent : 0 < command.issue.sends
      · have kept : sentCommands (command :: earlier) = command :: sentCommands earlier := by
          simp [sentCommands, sent]
        rw [kept]
        refine .cons ih (current.trans lawful.sent_cursor.symm) proper ?_
        have same (going : standing earlier = .going) : sentCommands earlier = earlier :=
          sentCommands_eq lawful fun other member => (standing_going going other member).1
        rcases command with ⟨_ | rpc, issue⟩
        · have first : earlier = [] := permitted
          rw [first]
          rfl
        · cases rpc
          case abortEpisode => exact ⟨lawful.sent_alive permitted.1, permitted.2⟩
          case closeSession => exact ⟨lawful.sent_alive permitted.1, permitted.2⟩
          all_goals
            have going : standing earlier = .going := permitted.1
            rw [same going]
            exact permitted
      · simpa [sentCommands, sent] using ih

def Command.sequence? : Command τ → Option Nat
  | ⟨.openSession, _⟩ => none
  | ⟨.task _, issue⟩ => (TaskRpc.command? issue.request).map CommandIdentity.sequence

/-- The order of a session's commands, newest first: in `command :: earlier` the command comes
right after the `earlier` ones. -/
structure CommandOrder (final : Command τ → Prop) (commands : List (Command τ)) : Prop where
  openSession : ∀ command earlier, command :: earlier <:+ commands →
    (command.rpc = .openSession ↔ earlier = [])
  init : ∀ command earlier, command :: earlier <:+ commands → command.rpc = .task .init →
    command.cursor.phase = .opened ∧ ∀ other ∈ earlier, other.rpc ≠ .task .init
  beginEpisode : ∀ command ∈ commands, command.rpc = .task .beginEpisode →
    command.cursor.phase = .ready
  update : ∀ command ∈ commands, command.rpc = .task .update →
    command.cursor.phase = .episodeRunning ∨ command.cursor.phase = .episodeTerminal
  endEpisode : ∀ command earlier, command :: earlier <:+ commands →
    command.rpc = .task .endEpisode → ∃ report ∈ earlier.head?,
      report.rpc = .task .update ∧ report.outcome = some .applied ∧ final report
  abortEpisode : ∀ command earlier, command :: earlier <:+ commands →
    command.rpc = .task .abortEpisode → command.cursor.phase = .episodeRunning ∧
      ∀ other ∈ earlier, other.rpc ≠ .task .abortEpisode
  closeSession : ∀ command ∈ commands, command.rpc = .task .closeSession →
    command.cursor.phase = .opened ∨ command.cursor.phase = .ready ∨
      command.cursor.phase = .aborted ∨ command.cursor.phase = .taskComplete
  last : ∀ command earlier, command :: earlier <:+ commands → ∀ other ∈ earlier,
    other.rpc ≠ .task .closeSession ∧ other.outcome ≠ some .unknown ∧ other.outcome ≠ none
  sequence : ∀ later earlier rest, later :: earlier :: rest <:+ commands →
    earlier.rpc ≠ .openSession → later.sequence? =
      if earlier.outcome = some .applied then earlier.sequence?.map increment
      else earlier.sequence?

theorem Lawful.opened {commands : List (Command τ)} (lawful : Lawful final commands)
    (going : standing commands = .going) (phase : (cursorAfter commands).phase = .opened) :
    ∀ command ∈ commands, command.rpc = .openSession := by
  cases lawful with
  | nil => simp
  | @cons command earlier lawful current proper permitted =>
      rcases command with ⟨_ | rpc, issue⟩
      · obtain rfl : earlier = [] := permitted
        simp
      · have applied : issue.outcome = some .applied :=
          (standing_going going _ List.mem_cons_self).1
        have leads := TaskRpc.admits_leads (proper.2.1 applied).1
        have phase : issue.after.phase = .opened := phase
        rw [issue.after_phase, if_pos applied] at phase
        rw [phase] at leads
        cases rpc <;> simp [TaskRpc.Leads] at leads

theorem Lawful.aborted {commands : List (Command τ)} (lawful : Lawful final commands)
    (alive : standing commands ≠ .over) {abort : Command τ} (member : abort ∈ commands)
    (aborting : abort.rpc = .task .abortEpisode) :
    standing commands = .leaving ∧ (cursorAfter commands).phase = .aborted := by
  induction lawful with
  | nil => cases member
  | @cons command earlier lawful current proper permitted ih =>
      rcases List.mem_cons.mp member with rfl | older
      · obtain ⟨rpc, issue⟩ := abort
        obtain rfl : rpc = .task .abortEpisode := aborting
        have applied : issue.outcome = some .applied := by
          unfold standing standingAfter at alive
          split at alive <;> simp_all [Command.outcome]
        have leads := TaskRpc.admits_leads (proper.2.1 applied).1
        refine ⟨by simp [standing, Command.outcome, applied, standingAfter], ?_⟩
        change issue.after.phase = _
        rw [issue.after_phase, if_pos applied]
        exact leads
      · have before := ih (permitted.alive current (List.ne_nil_of_mem older)) older
        rcases command with ⟨_ | rpc, issue⟩
        · obtain rfl : earlier = [] := permitted
          cases older
        · have same : issue.cursor = cursorAfter earlier := current
          cases rpc <;> simp [Permitted, before, Command.cursor, same] at permitted
          unfold standing standingAfter at alive
          split at alive <;> simp_all [Command.outcome]

theorem Lawful.step {command : Command τ} {commands earlier : List (Command τ)}
    (lawful : Lawful final commands) (suffix : command :: earlier <:+ commands) :
    Lawful final earlier ∧ command.cursor = cursorAfter earlier ∧ command.Proper ∧
      Permitted final command earlier := by
  cases lawful.suffix suffix with
  | cons lawful current proper permitted => exact ⟨lawful, current, proper, permitted⟩

theorem Lawful.permitted {rpc : SessionRpc} {commands : List (Command τ)}
    (lawful : Lawful final commands) {command : Command τ} (member : command ∈ commands)
    (named : command.rpc = rpc) : ∃ issue : Issue τ rpc, ∃ earlier,
      issue.cursor = command.cursor ∧ Permitted final ⟨rpc, issue⟩ earlier := by
  obtain ⟨later, earlier, rfl⟩ := List.append_of_mem member
  obtain ⟨-, -, -, permitted⟩ := lawful.step (List.suffix_append _ _)
  subst named
  exact ⟨command.issue, earlier, rfl, permitted⟩

theorem Command.after_nextSequence {rpc : TaskRpc} (issue : Issue τ (.task rpc)) :
    (Command.after ⟨.task rpc, issue⟩).nextSequence =
      if issue.outcome = some .applied then increment issue.cursor.nextSequence
      else issue.cursor.nextSequence := by
  simp only [Command.after, Issue.after]
  split <;> rfl

theorem Command.Proper.sequence {rpc : TaskRpc} {issue : Issue τ (.task rpc)}
    (proper : Command.Proper ⟨.task rpc, issue⟩) :
    Command.sequence? ⟨.task rpc, issue⟩ = some issue.cursor.nextSequence := by
  rw [Command.sequence?, proper.1]
  rfl

theorem Lawful.order {commands : List (Command τ)} (lawful : Lawful final commands) :
    CommandOrder final commands where
  openSession command earlier suffix := by
    obtain ⟨-, current, -, permitted⟩ := lawful.step suffix
    rcases command with ⟨_ | rpc, issue⟩
    · exact ⟨fun _ => permitted, fun _ => rfl⟩
    · refine ⟨by simp, fun first => ?_⟩
      exact absurd first (Permitted.begun permitted current).1
  init command earlier suffix named := by
    obtain ⟨before, current, -, permitted⟩ := lawful.step suffix
    obtain ⟨rpc, issue⟩ := command
    obtain rfl : rpc = .task .init := named
    refine ⟨permitted.2, fun other member same => ?_⟩
    rw [before.opened permitted.1 (current ▸ permitted.2) other member] at same
    cases same
  beginEpisode command member named := by
    obtain ⟨issue, earlier, same, permitted⟩ := lawful.permitted member named
    exact same ▸ permitted.2
  update command member named := by
    obtain ⟨issue, earlier, same, permitted⟩ := lawful.permitted member named
    exact same ▸ permitted.2
  endEpisode command earlier suffix named := by
    obtain ⟨-, -, -, permitted⟩ := lawful.step suffix
    obtain ⟨rpc, issue⟩ := command
    obtain rfl : rpc = .task .endEpisode := named
    exact permitted.2
  abortEpisode command earlier suffix named := by
    obtain ⟨before, current, -, permitted⟩ := lawful.step suffix
    obtain ⟨rpc, issue⟩ := command
    obtain rfl : rpc = .task .abortEpisode := named
    refine ⟨permitted.2, fun other member same => ?_⟩
    have running : (cursorAfter earlier).phase = .episodeRunning := current ▸ permitted.2
    rw [(before.aborted permitted.1 member same).2] at running
    cases running
  closeSession command member named := by
    obtain ⟨issue, earlier, same, permitted⟩ := lawful.permitted member named
    exact same ▸ permitted.2
  last command earlier suffix other member := by
    obtain ⟨before, current, -, permitted⟩ := lawful.step suffix
    have alive := permitted.alive current (List.ne_nil_of_mem member)
    obtain ⟨ended, unknown, closed⟩ := before.alive alive other member
    exact ⟨closed, unknown, ended⟩
  sequence later earlier rest suffix task := by
    obtain ⟨before, current, proper, permitted⟩ := lawful.step suffix
    obtain ⟨-, -, proper', -⟩ := before.step (List.suffix_refl _)
    rcases earlier with ⟨_ | rpc, issue⟩
    · exact absurd rfl task
    rcases later with ⟨_ | rpc', issue'⟩
    · cases permitted
    have cursor : issue'.cursor = Command.after ⟨.task rpc, issue⟩ := current
    rw [proper.sequence, proper'.sequence, cursor, Command.after_nextSequence, Command.outcome]
    split <;> rfl

theorem sentCommands_attempts (commands : List (Command τ)) :
    (sentCommands commands).flatMap Command.attempts = commands.flatMap Command.attempts := by
  induction commands with
  | nil => rfl
  | cons command earlier ih =>
      by_cases sent : 0 < command.issue.sends
      · have kept : sentCommands (command :: earlier) = command :: sentCommands earlier := by
          simp [sentCommands, sent]
        rw [kept, List.flatMap_cons, List.flatMap_cons, ih]
      · have dropped : sentCommands (command :: earlier) = sentCommands earlier := by
          simp [sentCommands, sent]
        have unsent : command.attempts = [] := by
          rw [Command.attempts, Nat.eq_zero_of_not_pos sent, List.replicate_zero]
        rw [dropped, List.flatMap_cons, unsent, List.nil_append, ih]

theorem runSession_order {outside : Outside} {fuel : Nat} {binding : Binding (World τ)}
    (drives : DrivesClient outside fuel final binding) (options : ClientOptions)
    (connected : Bool) (task : τ) :
    let run := (runSession fuel binding (World.start options connected task)).2
    CommandOrder final (sentCommands run.commands) ∧
      run.sent = (sentCommands run.commands).flatMap Command.attempts := by
  have kept : Kept final (runSession fuel binding (World.start options connected task)).2 :=
    runSession_kept drives options connected task
  exact ⟨kept.lawful.sent.order, kept.sent.trans (sentCommands_attempts _).symm⟩

end MazeClient
