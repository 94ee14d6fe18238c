import MazeClient.Client.Lifecycle
import MazeClient.Client.RunSession

set_option autoImplicit false

namespace MazeClient

open Program

variable {τ : Type} {outside : Outside} {fuel : Nat} {final : Command τ → Prop}

theorem Kept.quiet {w w' : World τ} (kept : Kept final w) (quiet : Quiet w w') :
    Kept final w' := by
  obtain ⟨client, commands, sent⟩ := quiet
  exact ⟨commands ▸ kept.lawful, by rw [client, commands]; exact kept.cursor,
    by rw [sent, commands]; exact kept.sent⟩

structure Going (final : Command τ → Prop) (phases : SessionPhase → Prop) (w : World τ) : Prop where
  kept : Kept final w
  begun : w.commands ≠ []
  going : standing w.commands = .going
  phase : phases w.client.cursor.phase

theorem Going.quiet {phases : SessionPhase → Prop} {w w' : World τ}
    (going : Going final phases w) (quiet : Quiet w w') : Going final phases w' := by
  have kept := going.kept.quiet quiet
  obtain ⟨client, commands, -⟩ := quiet
  exact ⟨kept, commands ▸ going.begun, commands ▸ going.going, client ▸ going.phase⟩

structure Halted (final : Command τ → Prop) (outcome : CommandOutcome) (w : World τ) : Prop where
  kept : Kept final w
  begun : w.commands ≠ []
  leavable : outcome ≠ .unknown → standing w.commands ≠ .over
  uncleaned : ∀ command ∈ w.commands,
    command.rpc ≠ .task .abortEpisode ∧ command.rpc ≠ .task .closeSession
  failure : ∀ command ∈ w.commands, command.outcome ≠ some .applied →
    command.outcome = some outcome ∧ w.client.error = command.error

theorem Halted.quiet {outcome : CommandOutcome} {w w' : World τ}
    (halted : Halted final outcome w) (quiet : Quiet w w') : Halted final outcome w' := by
  have kept := halted.kept.quiet quiet
  obtain ⟨client, commands, -⟩ := quiet
  refine ⟨kept, commands ▸ halted.begun, commands ▸ halted.leavable, commands ▸ halted.uncleaned,
    ?_⟩
  rw [commands, client]
  exact halted.failure

theorem Going.halt {phases : SessionPhase → Prop} {w : World τ} (going : Going final phases w)
    (outcome : CommandOutcome) : Halted final outcome w where
  kept := going.kept
  begun := going.begun
  leavable _ := by simp [going.going]
  uncleaned command member := (standing_going going.going command member).2
  failure command member failed := absurd (standing_going going.going command member).1 failed

theorem ClientOperation.performed {rpc : TaskRpc} {w w' : World τ}
    {result : Option CommandOutcome} (called : ClientOperation outside fuel rpc w result w') :
    ∃ (payload : rpc.Request) (validate : rpc.Request → rpc.Response → Bool)
      (issue : Issue τ (.task rpc)) (ended : Option (CommandOutcome × rpc.Response)),
      Performed payload validate w issue ended w' ∧ ended.map Prod.fst = result := by
  cases called with
  | init request validate =>
      obtain ⟨issue, performed⟩ := @init_performed τ outside fuel w request validate
      exact ⟨_, _, issue, _, performed, rfl⟩
  | beginEpisode validate stopped =>
      obtain ⟨issue, performed⟩ := @beginEpisode_performed τ outside fuel w validate stopped
      exact ⟨_, _, issue, _, performed, rfl⟩
  | update request response validate stopped =>
      obtain ⟨issue, performed⟩ :=
        @update_performed τ outside fuel w request response validate stopped
      exact ⟨_, _, issue, _, performed, rfl⟩
  | endEpisode validate =>
      obtain ⟨issue, performed⟩ := @endEpisode_performed τ outside fuel w validate
      exact ⟨_, _, issue, _, performed, rfl⟩
  | abortEpisode request =>
      obtain ⟨issue, performed⟩ := @abortEpisode_performed τ outside fuel w request
      exact ⟨_, _, issue, _, performed, rfl⟩
  | closeSession =>
      obtain ⟨issue, performed⟩ := @closeSession_performed τ outside fuel w
      exact ⟨_, _, issue, _, performed, rfl⟩

theorem standingAfter_working {rpc : TaskRpc} (working : rpc.cleanup? = none)
    (outcome : CommandOutcome) :
    standingAfter (.task rpc) (some outcome) .going =
      if outcome = .applied then .going else if outcome = .unknown then .over else .leaving := by
  cases rpc <;> cases outcome <;> first | rfl | cases working

def Onward (final : Command τ → Prop) (rpc : TaskRpc) :
    Option CommandOutcome → World τ → Prop
  | none, w => Kept final w
  | some outcome, w => (outcome = .applied → Going final rpc.Leads w) ∧
      (outcome ≠ .applied → Halted final outcome w)

theorem Onward.quiet {rpc : TaskRpc} {result : Option CommandOutcome} {w w' : World τ}
    (onward : Onward final rpc result w) (quiet : Quiet w w') : Onward final rpc result w' := by
  cases result with
  | none => exact Kept.quiet onward quiet
  | some outcome =>
      exact ⟨fun applied => (onward.1 applied).quiet quiet,
        fun failed => (onward.2 failed).quiet quiet⟩

theorem Going.operate {rpc : TaskRpc} {phases : SessionPhase → Prop} {w w' : World τ}
    {result : Option CommandOutcome} (going : Going final phases w)
    (called : ClientOperation outside fuel rpc w result w') (working : rpc.cleanup? = none)
    (permitted : ∀ issue : Issue τ (.task rpc), issue.cursor = w.client.cursor →
      Permitted final ⟨.task rpc, issue⟩ w.commands) :
    Onward final rpc result w' ∧
      ∃ issue, w'.commands = ⟨.task rpc, issue⟩ :: w.commands ∧ issue.outcome = result := by
  obtain ⟨payload, validate, issue, ended, performed, rfl⟩ := called.performed
  have kept := going.kept.perform performed (permitted issue performed.issuedAt)
  have record := performed.commands
  refine ⟨?_, issue, record, performed.outcome⟩
  cases ended with
  | none => exact kept
  | some ended =>
      have outcome : issue.outcome = some ended.1 := performed.outcome
      have here : standing w'.commands = standingAfter (.task rpc) (some ended.1) .going := by
        rw [record, standing, going.going, Command.outcome, outcome]
      rw [standingAfter_working working] at here
      constructor
      · intro applied
        have phase : w'.client.cursor.phase = (TaskRpc.reply issue.response).phase := by
          rw [performed.cursor, Issue.after, if_pos (by rw [outcome, applied])]
        refine ⟨kept, by simp [record], by simpa [applied] using here, ?_⟩
        rw [phase]
        exact TaskRpc.admits_leads (performed.applied (by rw [outcome, applied])).1
      · intro failed
        have error : w'.client.error = issue.error := by
          rw [(performed.returned ended rfl).2, TaskRpc.errorAfter, working]
        refine ⟨kept, by simp [record], ?_, ?_, ?_⟩
        · intro known
          simp [here, failed, known]
        · rw [record]
          refine List.forall_mem_cons.mpr ⟨?_, fun command member =>
            (standing_going going.going command member).2⟩
          constructor <;> rintro ⟨⟩ <;> cases working
        · rw [record]
          refine List.forall_mem_cons.mpr ⟨fun _ => ⟨outcome, error⟩, fun command member failed =>
            absurd (standing_going going.going command member).1 failed⟩

theorem Going.around {rpc : TaskRpc} {phases : SessionPhase → Prop} {w w' : World τ}
    {result : Option CommandOutcome} (going : Going final phases w)
    (around : Around outside fuel rpc w result w') (working : rpc.cleanup? = none)
    (permitted : ∀ issue : Issue τ (.task rpc), issue.cursor = w.client.cursor →
      Permitted final ⟨.task rpc, issue⟩ w.commands) :
    Onward final rpc result w' := by
  have moved {before : World τ} (quiet : Quiet w before) (issue : Issue τ (.task rpc))
      (current : issue.cursor = before.client.cursor) :
      Permitted final ⟨.task rpc, issue⟩ before.commands := by
    rw [quiet.2]
    exact permitted issue (current.trans (congrArg TaskClient.cursor quiet.1))
  cases around with
  | refused quiet refusal =>
      exact ⟨fun applied => absurd applied refusal, fun _ => (going.quiet quiet).halt _⟩
  | passed quiet called settled =>
      exact ((going.quiet quiet).operate called working (moved quiet)).1.quiet settled
  | withdrawn quiet called settled refusal =>
      have onward := ((going.quiet quiet).operate called working (moved quiet)).1
      exact ⟨fun applied => absurd applied refusal,
        fun _ => ((onward.1 rfl).halt _).quiet settled⟩

-- The induction is on the series: an Applied Update keeps the episode going for the rest.
theorem Going.report {w w' : World τ} {result : Option CommandOutcome}
    (going : Going final TaskRpc.update.Leads w)
    (reports : Reports outside fuel final w result w') :
    Onward final .update result w' ∧ (result = some .applied → ∃ report ∈ w'.commands.head?,
      report.rpc = .task .update ∧ report.outcome = some .applied ∧ final report) := by
  have permitted {before : World τ} (here : Going final TaskRpc.update.Leads before)
      (issue : Issue τ (.task .update)) (current : issue.cursor = before.client.cursor) :
      Permitted final ⟨.task .update, issue⟩ before.commands :=
    ⟨here.going, by rw [Command.cursor, current]; exact here.phase⟩
  induction reports with
  | @left w w' result quiet refusal =>
      refine ⟨?_, fun applied => absurd applied refusal⟩
      cases result with
      | none => exact going.kept.quiet quiet
      | some outcome =>
          exact ⟨fun applied => absurd (congrArg some applied) refusal,
            fun _ => (going.quiet quiet).halt _⟩
  | last quiet called reported settled =>
      have here := going.quiet quiet
      obtain ⟨onward, issue, record, outcome⟩ := here.operate called rfl (permitted here)
      refine ⟨onward.quiet settled, fun applied => ⟨⟨_, issue⟩, ?_, rfl, ?_, ?_⟩⟩
      · simp [settled.2, record]
      · exact outcome.trans applied
      · exact reported applied _ (by simp [record])
  | next quiet called rest ih =>
      have here := going.quiet quiet
      exact ih ((here.operate called rfl (permitted here)).1.1 rfl)

@[simp] theorem wp_readClient (reading : TaskClient → Bool) (post : Option Bool → World τ → Prop)
    (w : World τ) : (readClient reading).wp post w = post (some (reading w.client)) w := rfl

section Run

variable {binding : Binding (World τ)} (drives : DrivesClient outside fuel final binding)
include drives

theorem sessionRound_onward {w : World τ} (going : Going final (· = .ready) w) :
    (sessionRound binding).wp (fun result w' => match result with
      | some (.inl _) => Going final (· = .ready) w'
      | some (.inr outcome) => Halted final outcome w'
      | none => Kept final w') w := by
  unfold sessionRound
  rw [Prog.wp_bind]
  apply Prog.wp_mono (drives.stopped w)
  rintro (_ | halt) w₁ ⟨answered, quiet⟩
  · cases answered
  have going := going.quiet quiet
  rw [Prog.andThen_some]
  split
  case isTrue => exact going.halt _
  rw [Prog.wp_bind]
  apply Prog.wp_mono (drives.beginEpisode w₁)
  intro result w₂ around
  have begun := going.around around rfl fun issue current =>
    ⟨going.going, by rw [Command.cursor, current]; exact going.phase⟩
  cases result with
  | none => exact begun
  | some result =>
    rw [Prog.andThen_some]
    split
    case isTrue failed => exact begun.2 failed
    case isFalse applied =>
    have begun := begun.1 (by simpa using applied)
    rw [drives.complete, Prog.wp_bind, wp_readClient, Prog.andThen_some]
    split
    case isTrue => exact begun.halt _
    case isFalse incomplete =>
    have running : Going final TaskRpc.update.Leads w₂ :=
      ⟨begun.kept, begun.begun, begun.going, .inl (begun.phase.resolve_right fun complete =>
        incomplete (by simp [TaskClient.complete, complete]))⟩
    rw [Prog.wp_bind]
    apply Prog.wp_mono (drives.runEpisode w₂)
    intro result w₃ reports
    obtain ⟨reported, last⟩ := running.report reports
    cases result with
    | none => exact reported
    | some result =>
      rw [Prog.andThen_some]
      split
      case isTrue failed => exact reported.2 failed
      case isFalse applied =>
      have succeeded : result = .applied := by simpa using applied
      have reported := reported.1 succeeded
      rw [Prog.wp_bind]
      apply Prog.wp_mono (drives.endEpisode w₃)
      intro result w₄ around
      have ended := reported.around around rfl fun issue current =>
        ⟨reported.going, last (congrArg some succeeded)⟩
      cases result with
      | none => exact ended
      | some result =>
        rw [Prog.andThen_some]
        split
        case isTrue failed => exact ended.2 failed
        case isFalse applied => exact ended.1 (by simpa using applied)

theorem conduct_halted {w : World τ} (going : Going final (· = .opened) w) :
    (conduct fuel binding).wp (fun result w' => match result with
      | some outcome => Halted final outcome w'
      | none => Kept final w') w := by
  rw [conduct, Prog.wp_bind]
  apply Prog.wp_mono (drives.initializeTask w)
  intro result w₁ around
  have started := going.around around rfl fun issue current =>
    ⟨going.going, by rw [Command.cursor, current]; exact going.phase⟩
  cases result with
  | none => exact started
  | some result =>
    rw [Prog.andThen_some]
    split
    case isTrue failed => exact started.2 failed
    case isFalse applied =>
    refine Prog.wp_iterate (fun _ => Going final (· = .ready)) ?_ ?_ fuel
      (started.1 (by simpa using applied))
    · intro _ w going
      apply Prog.wp_mono (sessionRound_onward drives going)
      rintro (_ | _ | _) w' after <;> exact after
    · exact fun _ _ going => going.kept

theorem openSession_going (options : ClientOptions) (connected : Bool) (task : τ) :
    binding.openSession.wp (fun result w' => Kept final w' ∧
      (result = some .applied → Going final (· = .opened) w'))
      (World.start options connected task) := by
  apply Prog.wp_mono (drives.openSession _)
  rintro result w' ⟨validate, response, before, quiet, settled, passed⟩
  obtain ⟨ended, issue, returned, opened⟩ :=
    @openSession_opened τ outside validate response before
  have fresh : before.commands = [] := quiet.2
  have unbound : before.client.cursor = {} := congrArg TaskClient.cursor quiet.1
  have record := opened.commands
  have outcome := opened.outcome
  rw [fresh] at record
  have applied (applied : issue.outcome = some .applied) :=
    opened.applied (by simpa [outcome] using applied)
  have proper : Command.Proper ⟨.openSession, issue⟩ := by
    intro done
    obtain ⟨response, -, sequence, phase, id, epoch, -, sent, -⟩ := applied done
    rw [response]
    exact ⟨sequence, phase, id, epoch, sent⟩
  have after : (TaskClient.openSession outside validate response before).2.client.cursor =
      Command.after ⟨.openSession, issue⟩ := by
    by_cases done : issue.outcome = some .applied
    · obtain ⟨response, -, -, -, -, -, -, -, cursor⟩ := applied done
      rw [cursor, Command.after, if_pos done, response, opened.issuedAt]
    · rw [opened.kept (by simpa [outcome] using done), Command.after, if_neg done,
        opened.issuedAt]
  have kept : Kept final (TaskClient.openSession outside validate response before).2 := by
    refine ⟨?_, ?_, ?_⟩
    · rw [record]
      exact .cons .nil (opened.issuedAt.trans unbound) proper rfl
    · rw [after, record]
      rfl
    · rw [opened.sent, record, quiet.sent]
      rfl
  refine ⟨kept.quiet settled, ?_⟩
  rintro rfl
  have done : issue.outcome = some .applied := by
    rw [outcome]
    simpa [returned, eq_comm] using passed
  refine Going.quiet ⟨kept, by simp [record], ?_, ?_⟩ settled
  · simp [record, standing, Command.outcome, done, standingAfter]
  · rw [after]
    simp [Command.after, done, bindCursor, updateCursor, (proper done).2.1]

end Run

end MazeClient
