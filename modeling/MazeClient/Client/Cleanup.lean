import MazeClient.Client.Drive

set_option autoImplicit false

namespace MazeClient

open Program

variable {τ : Type} {outside : Outside} {fuel : Nat} {final : Command τ → Prop}

def Command.cleanup? (command : Command τ) : Option String :=
  match command.rpc with
  | .openSession => none
  | .task rpc => rpc.cleanup?

def passedOn (outcome own : CommandOutcome) : CommandOutcome :=
  if outcome = .rejected || outcome = .waitExpired then outcome else own

/-- What `finish` does with an outcome: nothing, a complete cleanup, or one that breaks off at
its first command that is not Applied. -/
inductive Cleanup (outcome : CommandOutcome) (w : World τ) :
    Option CommandOutcome → World τ → Prop
  | untouched {w' : World τ}
      (undue : outcome = .unknown ∨ w.client.cursor.phase = .episodeTerminal)
      (quiet : Quiet w w') : Cleanup outcome w (some outcome) w'
  | closed {w' : World τ} {cleanup : List (Command τ)}
      (due : outcome ≠ .unknown ∧ w.client.cursor.phase ≠ .episodeTerminal)
      (record : w'.commands = cleanup ++ w.commands)
      (applied : ∀ command ∈ cleanup, command.cleanup?.isSome = true ∧
        command.outcome = some .applied)
      (phase : w'.client.cursor.phase = .closed)
      (error : w.client.error ≠ "" → w'.client.error = w.client.error) :
      Cleanup outcome w (some outcome) w'
  | failed {w' : World τ} {cleanup : List (Command τ)} {failing : Command τ} {name : String}
      (due : outcome ≠ .unknown ∧ w.client.cursor.phase ≠ .episodeTerminal)
      (record : w'.commands = failing :: cleanup ++ w.commands)
      (applied : ∀ command ∈ cleanup, command.cleanup?.isSome = true ∧
        command.outcome = some .applied)
      (named : failing.cleanup? = some name)
      (refused : failing.outcome ≠ some .applied) (unstopped : failing.outcome ≠ some .stopped)
      (error : failing.outcome.isSome = true → w.client.error ≠ "" → w'.client.error =
        w.client.error ++ ("; " ++ name ++ " cleanup failed: " ++ failing.error)) :
      Cleanup outcome w (failing.outcome.map (passedOn outcome)) w'

structure Cleaned (final : Command τ → Prop) (rpc : TaskRpc) (w : World τ)
    (issue : Issue τ (.task rpc)) (result : Option CommandOutcome) (w' : World τ) : Prop where
  kept : Kept final w'
  record : w'.commands = ⟨.task rpc, issue⟩ :: w.commands
  outcome : issue.outcome = result
  unstopped : result ≠ some .stopped
  phase : result = some .applied → rpc.Leads w'.client.cursor.phase
  error : ∀ ended, result = some ended →
    w'.client.error = rpc.errorAfter w.client.error issue.error ended

theorem Kept.clean {rpc : TaskRpc} {w before after w' : World τ} {result : Option CommandOutcome}
    (kept : Kept final w) (quiet : Quiet w before)
    (called : ClientOperation outside fuel rpc before result after) (settled : Quiet after w')
    (cleaning : rpc.cleanup?.isSome = true)
    (permitted : ∀ issue : Issue τ (.task rpc), issue.cursor = w.client.cursor →
      Permitted final ⟨.task rpc, issue⟩ w.commands) :
    ∃ issue, Cleaned final rpc w issue result w' := by
  obtain ⟨payload, validate, issue, ended, performed, rfl⟩ := called.performed
  have cursor : before.client.cursor = w.client.cursor := congrArg TaskClient.cursor quiet.1
  have allowed : Permitted final ⟨.task rpc, issue⟩ before.commands := by
    rw [quiet.2]
    exact permitted issue (performed.issuedAt.trans cursor)
  have after := ((kept.quiet quiet).perform performed allowed).quiet settled
  refine ⟨issue, after, ?_, performed.outcome, ?_, ?_, ?_⟩
  · rw [settled.2, performed.commands, quiet.2]
  · exact performed.outcome ▸ performed.unstopped cleaning
  · intro applied
    have done : issue.outcome = some .applied := performed.outcome.trans applied
    rw [settled.1, performed.cursor, issue.after_phase, if_pos done]
    exact TaskRpc.admits_leads (performed.applied done).1
  · intro outcome returned
    obtain ⟨full, rfl, rfl⟩ := Option.map_eq_some_iff.mp returned
    rw [settled.1, (performed.returned full rfl).2, quiet.1]

theorem TaskRpc.errorAfter_failed {rpc : TaskRpc} {name original own : String}
    {outcome : CommandOutcome} (named : rpc.cleanup? = some name) (failed : outcome ≠ .applied)
    (nonempty : original ≠ "") : rpc.errorAfter original own outcome =
      original ++ ("; " ++ name ++ " cleanup failed: " ++ own) := by
  simp [errorAfter, named, failed, nonempty]

theorem TaskRpc.errorAfter_applied {rpc : TaskRpc} {name original own : String}
    (named : rpc.cleanup? = some name) (nonempty : original ≠ "") :
    rpc.errorAfter original own .applied = original := by
  simp [errorAfter, named, nonempty]

theorem Cleaned.broken {rpc : TaskRpc} {name : String} {outcome : CommandOutcome}
    {w before w' : World τ} (cleanup : List (Command τ)) {issue : Issue τ (.task rpc)}
    {result : Option CommandOutcome} (cleaned : Cleaned final rpc before issue result w')
    (named : rpc.cleanup? = some name) (refused : result ≠ some .applied)
    (due : outcome ≠ .unknown ∧ w.client.cursor.phase ≠ .episodeTerminal)
    (record : before.commands = cleanup ++ w.commands)
    (applied : ∀ command ∈ cleanup, command.cleanup?.isSome = true ∧
      command.outcome = some .applied)
    (error : w.client.error ≠ "" → before.client.error = w.client.error) :
    Cleanup outcome w (result.map (passedOn outcome)) w' := by
  have own : Command.outcome ⟨.task rpc, issue⟩ = result := cleaned.outcome
  rw [← own]
  refine .failed due (by rw [cleaned.record, record]; rfl) applied named
    (own.symm ▸ refused) (own.symm ▸ cleaned.unstopped) ?_
  intro returned nonempty
  obtain ⟨ended, ended_eq⟩ := Option.isSome_iff_exists.mp (own ▸ returned)
  rw [cleaned.error ended ended_eq, error nonempty]
  exact TaskRpc.errorAfter_failed named (fun same => refused (same ▸ ended_eq)) nonempty

def closing {σ : Type} (binding : Binding σ) (outcome : CommandOutcome) :
    Prog σ CommandOutcome := do
  if ← binding.canClose then
    let closed ← binding.closeSession
    if closed ≠ .applied then return passedOn outcome closed
  return outcome

theorem finish_eq {σ : Type} (binding : Binding σ) {outcome : CommandOutcome}
    (known : outcome ≠ .unknown) :
    finish binding outcome = (do
      if ← binding.active then
        let aborted ← binding.abortEpisode
        if aborted ≠ .applied then return passedOn outcome aborted
      closing binding outcome) := by
  rw [finish, if_neg known]
  rfl

section Finish

variable {binding : Binding (World τ)} (drives : DrivesClient outside fuel final binding)
include drives

theorem closing_cleanup {outcome : CommandOutcome} {w before : World τ}
    (cleanup : List (Command τ)) (kept : Kept final before) (begun : before.commands ≠ [])
    (leavable : standing before.commands ≠ .over)
    (phase : before.client.cursor.phase = .opened ∨ before.client.cursor.phase = .ready ∨
      before.client.cursor.phase = .aborted ∨ before.client.cursor.phase = .taskComplete)
    (due : outcome ≠ .unknown ∧ w.client.cursor.phase ≠ .episodeTerminal)
    (record : before.commands = cleanup ++ w.commands)
    (applied : ∀ command ∈ cleanup, command.cleanup?.isSome = true ∧
      command.outcome = some .applied)
    (error : w.client.error ≠ "" → before.client.error = w.client.error) :
    (closing binding outcome).wp
      (fun result w' => Kept final w' ∧ Cleanup outcome w result w') before := by
  have bound := (kept.lawful.leavable begun leavable).1
  rw [← kept.cursor] at bound
  have open_ : TaskClient.canClose before.client = true := by
    rcases phase with phase | phase | phase | phase <;> simp [TaskClient.canClose, bound, phase]
  rw [closing, drives.canClose, Prog.wp_bind, wp_readClient, Prog.andThen_some, if_pos open_,
    Prog.wp_bind]
  apply Prog.wp_mono (drives.closeSession before)
  rintro result w' ⟨_, _, quiet, called, settled⟩
  obtain ⟨issue, cleaned⟩ := kept.clean quiet called settled rfl fun issue current =>
    ⟨leavable, by rw [Command.cursor, current]; exact phase⟩
  have named : TaskRpc.closeSession.cleanup? = some "CloseSession" := rfl
  rcases result with _ | closed
  · exact ⟨cleaned.kept, cleaned.broken cleanup named (by simp) due record applied error⟩
  rw [Prog.andThen_some]
  split
  case isTrue refused =>
    exact ⟨cleaned.kept,
      cleaned.broken cleanup named (by simpa using refused) due record applied error⟩
  case isFalse succeeded =>
    obtain rfl : closed = .applied := by simpa using succeeded
    have record' : w'.commands = (⟨_, issue⟩ :: cleanup) ++ w.commands := by
      rw [cleaned.record, record]
      rfl
    show Kept final w' ∧ Cleanup outcome w (some outcome) w'
    refine ⟨cleaned.kept, .closed due record' ?_ (cleaned.phase rfl) ?_⟩
    · exact List.forall_mem_cons.mpr ⟨⟨rfl, cleaned.outcome⟩, applied⟩
    · intro nonempty
      rw [cleaned.error _ rfl, error nonempty]
      exact TaskRpc.errorAfter_applied named nonempty

theorem finish_cleanup {outcome : CommandOutcome} {w : World τ}
    (halted : Halted final outcome w) :
    (finish binding outcome).wp
      (fun result w' => Kept final w' ∧ Cleanup outcome w result w') w := by
  by_cases known : outcome = .unknown
  · rw [finish, if_pos known]
    exact ⟨halted.kept, .untouched (.inl known) ⟨rfl, rfl, rfl⟩⟩
  have alive := halted.leavable known
  obtain ⟨bound, phases⟩ := halted.kept.lawful.leavable halted.begun alive
  rw [← halted.kept.cursor] at bound phases
  rw [finish_eq binding known, drives.active, Prog.wp_bind, wp_readClient, Prog.andThen_some]
  split
  case isTrue active =>
    have running : w.client.cursor.phase = .episodeRunning := by
      simpa [TaskClient.active] using active
    have due : outcome ≠ .unknown ∧ w.client.cursor.phase ≠ .episodeTerminal :=
      ⟨known, by simp [running]⟩
    rw [Prog.wp_bind]
    apply Prog.wp_mono (drives.abortEpisode w)
    rintro result w' ⟨_, _, quiet, called, settled⟩
    obtain ⟨issue, cleaned⟩ := halted.kept.clean quiet called settled rfl fun issue current =>
      ⟨alive, by rw [Command.cursor, current]; exact running⟩
    have named : TaskRpc.abortEpisode.cleanup? = some "AbortEpisode" := rfl
    rcases result with _ | aborted
    · exact ⟨cleaned.kept, cleaned.broken [] named (by simp) due rfl (by simp) fun _ => rfl⟩
    rw [Prog.andThen_some]
    split
    case isTrue refused =>
      exact ⟨cleaned.kept,
        cleaned.broken [] named (by simpa using refused) due rfl (by simp) fun _ => rfl⟩
    case isFalse succeeded =>
      obtain rfl : aborted = .applied := by simpa using succeeded
      refine closing_cleanup drives [⟨_, issue⟩] cleaned.kept (by simp [cleaned.record]) ?_
        (.inr (.inr (.inl (cleaned.phase rfl)))) due cleaned.record
        (by simpa using ⟨rfl, cleaned.outcome⟩) ?_
      · rw [cleaned.record, standing, Command.outcome, cleaned.outcome]
        simp [standingAfter]
      · intro nonempty
        rw [cleaned.error _ rfl]
        exact TaskRpc.errorAfter_applied named nonempty
  case isFalse idle =>
    have other : w.client.cursor.phase ≠ .episodeRunning := by
      simpa [TaskClient.active] using idle
    by_cases terminal : w.client.cursor.phase = .episodeTerminal
    · have shut : TaskClient.canClose w.client = false := by
        simp [TaskClient.canClose, terminal]
      rw [closing, drives.canClose, Prog.wp_bind, wp_readClient, Prog.andThen_some,
        if_neg (by simp [shut])]
      exact ⟨halted.kept, .untouched (.inr terminal) ⟨rfl, rfl, rfl⟩⟩
    · refine closing_cleanup drives [] halted.kept halted.begun alive ?_
        ⟨known, terminal⟩ rfl (by simp) fun _ => rfl
      simp [other, terminal] at phases
      tauto

theorem runSession_kept (options : ClientOptions) (connected : Bool) (task : τ) :
    (runSession fuel binding).wp (fun _ w' => Kept final w')
      (World.start options connected task) := by
  rw [runSession, Prog.wp_bind]
  apply Prog.wp_mono (openSession_going drives options connected task)
  rintro (_ | opened) w₁ ⟨kept, going⟩
  · exact kept
  rw [Prog.andThen_some]
  split
  case isTrue failed => exact kept
  case isFalse applied =>
  rw [Prog.wp_bind]
  apply Prog.wp_mono (conduct_halted drives (going (by simpa using applied)))
  rintro (_ | outcome) w₂ halted
  · exact halted
  · exact Prog.wp_mono (finish_cleanup drives halted) fun _ _ cleanup => cleanup.1

-- A run that returns after an Applied OpenSession went through `finish`.
theorem runSession_returned {options : ClientOptions} {connected : Bool} {task : τ}
    {result : CommandOutcome}
    (opened : (binding.openSession (World.start options connected task)).1 = some .applied)
    (returned : (runSession fuel binding (World.start options connected task)).1 = some result) :
    let handed := conduct fuel binding
      (binding.openSession (World.start options connected task)).2
    ∃ outcome, handed.1 = some outcome ∧ Halted final outcome handed.2 ∧
      Cleanup outcome handed.2 (some result)
        (runSession fuel binding (World.start options connected task)).2 := by
  have going := (openSession_going drives options connected task).2 opened
  generalize World.start options connected task = start at opened returned going ⊢
  have entered : binding.openSession start = (some .applied, (binding.openSession start).2) :=
    Prod.ext opened rfl
  have halted := conduct_halted drives going
  rw [runSession, Prog.bind_some entered, if_neg (by simp)] at returned ⊢
  cases handed : conduct fuel binding (binding.openSession start).2 with
  | mk result handed' =>
      rcases result with _ | outcome
      · rw [Prog.bind_none handed] at returned
        cases returned
      · rw [Prog.wp, handed] at halted
        rw [Prog.bind_some handed] at returned ⊢
        have cleanup := (finish_cleanup drives halted).2
        rw [returned] at cleanup
        exact ⟨outcome, rfl, halted, cleanup⟩

end Finish

end MazeClient
