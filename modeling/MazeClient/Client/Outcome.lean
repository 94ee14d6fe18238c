import MazeClient.Client.Cleanup

set_option autoImplicit false

namespace MazeClient

open Program

variable {τ : Type} {outside : Outside} {fuel : Nat} {final : Command τ → Prop}
variable {binding : Binding (World τ)}

theorem passedOn_failed {outcome own : CommandOutcome} (unapplied : own ≠ .applied)
    (unstopped : own ≠ .stopped) :
    passedOn outcome own ≠ .applied ∧ passedOn outcome own ≠ .stopped := by
  unfold passedOn
  split
  case isTrue failed =>
    simp only [Bool.or_eq_true, decide_eq_true_eq] at failed
    rcases failed with rfl | rfl <;> simp
  case isFalse => exact ⟨unapplied, unstopped⟩

theorem Halted.working {outcome : CommandOutcome} {w : World τ}
    (halted : Halted final outcome w) {command : Command τ} (member : command ∈ w.commands) :
    command.cleanup? = none := by
  obtain ⟨kept, unclosed⟩ := halted.uncleaned command member
  unfold Command.cleanup?
  split
  · rfl
  case h_2 rpc same => cases rpc <;> simp_all [TaskRpc.cleanup?]

def CleanedUp (result : CommandOutcome) (w : World τ) : Prop :=
  (w.client.cursor.phase = .closed ∨ ∃ last ∈ w.commands.head?,
    last.cleanup?.isSome = true ∧ last.outcome ≠ some .applied) ∧
  (result = .applied ∨ result = .stopped → w.client.cursor.phase = .closed)

instance (result : CommandOutcome) (w : World τ) : Decidable (CleanedUp result w) :=
  inferInstanceAs (Decidable ((_ ∨ _) ∧ (_ → _)))

theorem cleanedUp_iff (drives : DrivesClient outside fuel final binding)
    (options : ClientOptions) (connected : Bool) (task : τ) {result : CommandOutcome}
    (opened : (binding.openSession (World.start options connected task)).1 = some .applied)
    (returned : (runSession fuel binding (World.start options connected task)).1 = some result)
    (known : result ≠ .unknown) :
    CleanedUp result (runSession fuel binding (World.start options connected task)).2 ↔
      (conduct fuel binding (binding.openSession
        (World.start options connected task)).2).2.client.cursor.phase ≠ .episodeTerminal := by
  obtain ⟨outcome, -, halted, cleanup⟩ := runSession_returned drives opened returned
  generalize (runSession fuel binding (World.start options connected task)).2 = w' at cleanup ⊢
  generalize conduct fuel binding
    (binding.openSession (World.start options connected task)).2 = handed at halted cleanup ⊢
  generalize same : some result = answered at cleanup
  cases cleanup with
  | untouched undue quiet =>
      obtain rfl := Option.some.inj same
      have terminal := undue.resolve_left known
      refine ⟨?_, fun due => absurd terminal due⟩
      rintro ⟨closed | ⟨last, newest, cleaning, -⟩, -⟩
      · rw [quiet.1, terminal] at closed
        cases closed
      · rw [quiet.2] at newest
        rw [halted.working (List.mem_of_mem_head? newest)] at cleaning
        cases cleaning
  | closed due record applied phase error =>
      exact ⟨fun _ => due.2, fun _ => ⟨.inl phase, fun _ => phase⟩⟩
  | @failed _ cleanup failing name due record applied named refused unstopped error =>
      refine ⟨fun _ => due.2, fun _ => ⟨.inr ⟨failing, by simp [record], by simp [named], refused⟩,
        fun clean => ?_⟩⟩
      obtain ⟨own, outcome_eq, rfl⟩ := Option.map_eq_some_iff.mp same.symm
      have other := @passedOn_failed outcome own (fun same => refused (same ▸ outcome_eq))
        (fun same => unstopped (same ▸ outcome_eq))
      exact absurd clean (by simp [other])

def appliedReply (phase : SessionPhase) (sequence : Nat) : CommandReply :=
  { result := .applied, appliedSequence := sequence, phase }

def rejectedReply (message : String) (phase : SessionPhase) (sequence : Nat) : CommandReply :=
  { result := .rejected
    errorCode := .stateConflict
    message
    appliedSequence := sequence - 1
    phase }

def answering (reply : TaskRpc → Nat → CommandReply) : Outside where
  attempt _ rpc request :=
    match rpc, request with
    | .openSession, _ => ({},
        { reply := appliedReply .opened 0
          sessionId := "session"
          sessionEpoch := 1
          aiserver := { component := "aiserver", instanceId := "aiserver-1", lifecycleEpoch := 1 } })
    | .task rpc, request =>
        let answer := reply rpc ((TaskRpc.command? request).getD {}).sequence
        match rpc with
        | .init => ({}, { reply := answer })
        | .beginEpisode => ({},
            { reply := answer, outcome := .assignment { episodeId := "episode", maxSteps := 8 } })
        | .update => ({}, { reply := answer, control := .actionBatch [] })
        | .endEpisode => ({}, { reply := answer })
        | .abortEpisode => ({}, { reply := answer })
        | .closeSession => ({}, { reply := answer })
  stopped _ := false
  now _ := 0

abbrev firstWorld : World Unit := World.start {} true ()

def terminalServer : Outside := answering fun rpc sequence =>
  match rpc with
  | .init => appliedReply .ready sequence
  | .beginEpisode => appliedReply .episodeRunning sequence
  | .update => appliedReply .episodeTerminal sequence
  | .endEpisode => rejectedReply "outcome is not ready" .episodeTerminal sequence
  | .abortEpisode => appliedReply .aborted sequence
  | .closeSession => appliedReply .closed sequence

def rejectingServer (abortFails : Bool) : Outside := answering fun rpc sequence =>
  match rpc with
  | .init => appliedReply .ready sequence
  | .beginEpisode => appliedReply .episodeRunning sequence
  | .update => rejectedReply "original-task-cause" .episodeRunning sequence
  | .endEpisode => appliedReply .ready sequence
  | .abortEpisode =>
      if abortFails then rejectedReply "cleanup-cause" .episodeRunning sequence
      else appliedReply .aborted sequence
  | .closeSession => appliedReply .closed sequence

theorem cleanedUp_rejected :
    CleanedUp .rejected
      (runSession 3 (failureBinding (rejectingServer false) 3) firstWorld).2 :=
  (cleanedUp_iff (failureBinding_drives (rejectingServer false) 3) {} true () (by decide +kernel)
    (by decide +kernel) (by decide)).mpr (by decide +kernel)

theorem terminal_unclosed :
    let run := runSession 3 (failureBinding terminalServer 3) firstWorld
    ((failureBinding terminalServer 3).openSession firstWorld).1 = some .applied ∧
      run.1 = some .rejected ∧ run.2.client.cursor.phase = .episodeTerminal ∧
      ¬ CleanedUp .rejected run.2 := by
  decide +kernel

def Preserved (e : String) (w : World τ) : Prop :=
  (∃ rest, w.client.error = e ++ rest) ∧
  ((∀ command ∈ w.commands, command.cleanup?.isSome = true →
    command.outcome = some .applied) → w.client.error = e) ∧
  ∀ command ∈ w.commands, ∀ name, command.cleanup? = some name →
    command.outcome ≠ some .applied →
    w.client.error = e ++ ("; " ++ name ++ " cleanup failed: " ++ command.error)

theorem Cleanup.preserved {outcome result : CommandOutcome} {w w' : World τ}
    (halted : Halted final outcome w) (cleanup : Cleanup outcome w (some result) w')
    (nonempty : w.client.error ≠ "") : Preserved w.client.error w' := by
  generalize same : some result = answered at cleanup
  cases cleanup with
  | untouched undue quiet =>
      obtain ⟨client, commands⟩ := quiet
      refine ⟨⟨"", by simp [client]⟩, fun _ => by rw [client], ?_⟩
      intro command member name named
      rw [commands] at member
      simp [halted.working member] at named
  | closed due record applied phase error =>
      have kept := error nonempty
      refine ⟨⟨"", by simp [kept]⟩, fun _ => kept, ?_⟩
      intro command member name named refused
      rw [record] at member
      rcases List.mem_append.mp member with cleaning | earlier
      · exact absurd (applied command cleaning).2 refused
      · simp [halted.working earlier] at named
  | @failed _ cleanup failing name due record applied named refused unstopped error =>
      obtain ⟨own, outcome_eq, -⟩ := Option.map_eq_some_iff.mp same.symm
      have appended := error (by simp [outcome_eq]) nonempty
      refine ⟨⟨_, appended⟩, ?_, ?_⟩
      · intro complete
        exact absurd (complete failing (by simp [record]) (by simp [named])) refused
      · intro command member name' named' refused'
        rw [record, List.cons_append] at member
        rcases List.mem_cons.mp member with rfl | member
        · obtain rfl : name = name' := by simpa [named] using named'
          exact appended
        rcases List.mem_append.mp member with cleaning | earlier
        · exact absurd (applied command cleaning).2 refused'
        · simp [halted.working earlier] at named'

theorem Cleanup.refused {outcome result : CommandOutcome} {w w' : World τ}
    (halted : Halted final outcome w) (cleanup : Cleanup outcome w (some result) w')
    {command : Command τ} (member : command ∈ w'.commands)
    (cleaning : command.cleanup?.isSome = true) (refused : command.outcome ≠ some .applied) :
    (outcome = .stopped ∨ outcome = .applied → command.outcome = some result) ∧
      result ≠ .applied ∧ result ≠ .stopped := by
  generalize same : some result = answered at cleanup
  cases cleanup with
  | untouched undue quiet =>
      rw [quiet.2] at member
      simp [halted.working member] at cleaning
  | closed due record applied phase error =>
      rw [record] at member
      rcases List.mem_append.mp member with cleaned | earlier
      · exact absurd (applied command cleaned).2 refused
      · simp [halted.working earlier] at cleaning
  | @failed _ cleanup failing name due record applied named refused' unstopped error =>
      obtain ⟨own, own_eq, rfl⟩ := Option.map_eq_some_iff.mp same.symm
      have mine : command = failing := by
        rw [record, List.cons_append] at member
        rcases List.mem_cons.mp member with rfl | member
        · rfl
        rcases List.mem_append.mp member with cleaned | earlier
        · exact absurd (applied command cleaned).2 refused
        · simp [halted.working earlier] at cleaning
      refine ⟨?_, passedOn_failed (fun same => refused' (same ▸ own_eq))
        (fun same => unstopped (same ▸ own_eq))⟩
      rintro (rfl | rfl) <;> simp [mine, own_eq, passedOn]

theorem Cleanup.failed_kept {outcome result : CommandOutcome} {w w' : World τ}
    (cleanup : Cleanup outcome w (some result) w')
    (failed : outcome = .rejected ∨ outcome = .waitExpired) : result = outcome := by
  generalize same : some result = answered at cleanup
  cases cleanup with
  | untouched => exact Option.some.inj same
  | closed => exact Option.some.inj same
  | failed =>
      obtain ⟨own, -, rfl⟩ := Option.map_eq_some_iff.mp same.symm
      rcases failed with rfl | rfl <;> simp [passedOn]

theorem Cleanup.commands {outcome : CommandOutcome} {w w' : World τ}
    {result : Option CommandOutcome} (cleanup : Cleanup outcome w result w')
    {command : Command τ} (member : command ∈ w'.commands) (working : command.cleanup? = none) :
    command ∈ w.commands := by
  cases cleanup with
  | untouched undue quiet => exact quiet.2 ▸ member
  | closed due record applied phase error =>
      rw [record] at member
      rcases List.mem_append.mp member with cleaned | earlier
      · simpa [working] using (applied command cleaned).1
      · exact earlier
  | failed due record applied named refused unstopped error =>
      rw [record, List.cons_append] at member
      rcases List.mem_cons.mp member with rfl | member
      · simp [working] at named
      rcases List.mem_append.mp member with cleaned | earlier
      · simpa [working] using (applied command cleaned).1
      · exact earlier

/-- A failure before the cleanup is what RunSession returns and what `error()` starts with; a
cleanup that fails after anything else is what RunSession returns. -/
theorem failure_survives_cleanup (drives : DrivesClient outside fuel final binding)
    (options : ClientOptions) (connected : Bool) (task : τ) {result : CommandOutcome}
    (opened : (binding.openSession (World.start options connected task)).1 = some .applied)
    (returned : (runSession fuel binding (World.start options connected task)).1 = some result) :
    let handed := conduct fuel binding
      (binding.openSession (World.start options connected task)).2
    let run := (runSession fuel binding (World.start options connected task)).2
    ∃ outcome, handed.1 = some outcome ∧
      (∀ failing ∈ run.commands, failing.cleanup? = none → failing.outcome ≠ some .applied →
        failing.outcome = some outcome ∧ handed.2.client.error = failing.error) ∧
      (outcome = .rejected ∨ outcome = .waitExpired → result = outcome ∧
        (handed.2.client.error ≠ "" → Preserved handed.2.client.error run)) ∧
      (∀ command ∈ run.commands, command.cleanup?.isSome = true →
        command.outcome ≠ some .applied →
        (outcome = .stopped ∨ outcome = .applied → command.outcome = some result) ∧
          result ≠ .applied ∧ result ≠ .stopped) := by
  obtain ⟨outcome, handed, halted, cleanup⟩ := runSession_returned drives opened returned
  refine ⟨outcome, handed, ?_, ?_, ?_⟩
  · intro failing member working failed
    exact halted.failure failing (cleanup.commands member working) failed
  · exact fun failed => ⟨cleanup.failed_kept failed, cleanup.preserved halted⟩
  · exact fun command member cleaning refused => cleanup.refused halted member cleaning refused

theorem failure_survives_cleanup_abort :
    let run := runSession 3 (failureBinding (rejectingServer true) 3) firstWorld
    run.1 = some .rejected ∧ Preserved "original-task-cause" run.2 := by
  have returned : (runSession 3 (failureBinding (rejectingServer true) 3) firstWorld).1 =
      some .rejected := by decide +kernel
  have given : (conduct 3 (failureBinding (rejectingServer true) 3)
      ((failureBinding (rejectingServer true) 3).openSession firstWorld).2).1 =
        some .rejected := by decide +kernel
  have error : (conduct 3 (failureBinding (rejectingServer true) 3)
      ((failureBinding (rejectingServer true) 3).openSession firstWorld).2).2.client.error =
        "original-task-cause" := by decide +kernel
  have key :=
    failure_survives_cleanup (failureBinding_drives (rejectingServer true) 3) {} true ()
      (by decide +kernel) returned
  generalize conduct 3 (failureBinding (rejectingServer true) 3)
    ((failureBinding (rejectingServer true) 3).openSession firstWorld).2 = handed
    at given error key
  generalize runSession 3 (failureBinding (rejectingServer true) 3) firstWorld = run
    at returned key ⊢
  obtain ⟨outcome, same, -, rejected, -⟩ := key
  obtain rfl : outcome = .rejected := Option.some.inj (same.symm.trans given)
  exact ⟨returned, error ▸ (rejected (.inl rfl)).2 (by simp [error])⟩

end MazeClient
