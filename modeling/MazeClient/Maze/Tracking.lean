import MazeClient.Client.SessionRule
import MazeClient.Maze.Binding
import MazeClient.Maze.Frame

set_option autoImplicit false

namespace MazeClient

open Program

variable {outside : MazeOutside} {fuel : Nat}

def Issue.settled (issue : Issue Adapter (.task .update)) : Adapter :=
  if issue.outcome = some .applied ∧ issue.task.environment.allDone = false then
    (issue.task.accepted issue.response).applyActions.2
  else issue.task

def Linked : Option (Command Adapter) → MazeEnv → Prop
  | some ⟨.task .update, issue⟩, environment => environment = issue.settled.environment
  | _, _ => True

def Positioned : Option (Command Adapter) → Adapter → Prop
  | some ⟨.task .beginEpisode, issue⟩, adapter => adapter.Given issue.response.assignment
  | some ⟨.task .update, issue⟩, adapter => issue.outcome = some .applied ∧
      issue.task.environment.allDone = false ∧ adapter = issue.settled
  | _, _ => False

theorem Positioned.linked {previous : Option (Command Adapter)} {adapter : Adapter}
    (positioned : Positioned previous adapter) :
    Linked previous adapter.environment := by
  unfold Positioned at positioned
  split at positioned
  · trivial
  · exact congrArg Adapter.environment positioned.2.2
  · cases positioned

/-- An Update as the adapter makes it. -/
structure Made (issue : Issue Adapter (.task .update)) : Prop where
  synced : issue.task.Synced
  request : issue.request =
    { issue.task.observeUpdate.1 with command := some (fillCommand issue.cursor) }
  prepared : issue.outcome = some .applied →
    UpdatePrepared issue.task.observeUpdate.1 issue.response issue.task.agentExecution

structure Launched (previous : Option (Command Adapter)) (issue : Issue Adapter (.task .update)) :
    Prop extends Made issue where
  positioned : Positioned previous issue.task

/-- The records the Maze adapter writes, newest first: each command finds the environment its
predecessor left. -/
inductive Tracked : List (Command Adapter) → Prop
  | nil : Tracked []
  | other {command : Command Adapter} {earlier : List (Command Adapter)}
      (tracked : Tracked earlier) (named : command.rpc ≠ .task .update)
      (linked : Linked earlier.head? command.issue.task.environment) : Tracked (command :: earlier)
  | update {issue : Issue Adapter (.task .update)} {earlier : List (Command Adapter)}
      (tracked : Tracked earlier) (launched : Launched earlier.head? issue) :
      Tracked (⟨.task .update, issue⟩ :: earlier)

-- The one way a chain failure comes about.
def Failed (commands : List (Command Adapter)) : Prop :=
  ∃ issue : Issue Adapter (.task .update), ⟨.task .update, issue⟩ ∈ commands ∧
    (issue.outcome = some .rejected ∨ issue.outcome = some .unknown)

structure Left (w : World Adapter) : Prop where
  tracked : Tracked w.commands
  linked : Linked w.commands.head? w.task.environment
  failed : w.task.chainFailed = true → Failed w.commands

structure Opened (w : World Adapter) : Prop where
  left : Left w
  unlinked : ∀ environment, Linked w.commands.head? environment
  few : w.task.config.run.agentNum < 2147483648
  sound : w.task.chainFailed = false

structure Ready (w : World Adapter) : Prop where
  left : Left w
  crewed : w.task.environment.Crewed
  sound : w.task.chainFailed = false

structure Running (w : World Adapter) : Prop where
  tracked : Tracked w.commands
  positioned : Positioned w.commands.head? w.task
  synced : w.task.Synced

theorem Running.left {w : World Adapter} (running : Running w) : Left w :=
  ⟨running.tracked, running.positioned.linked, fun failed => by
    simp [running.synced.sound] at failed⟩

theorem Linked.idle {rpc : SessionRpc} (named : rpc ≠ .task .update) (issue : Issue Adapter rpc)
    (environment : MazeEnv) : Linked (some ⟨rpc, issue⟩) environment := by
  unfold Linked
  split
  case h_1 same =>
    cases same
    exact absurd rfl named
  case h_2 => trivial

structure Passed (before w' : World Adapter) : Prop where
  tracked : Tracked w'.commands
  unlinked : ∀ environment, Linked w'.commands.head? environment
  task : w'.task = before.task
  kept : ∀ command ∈ before.commands, command ∈ w'.commands

theorem Left.pass {rpc : TaskRpc} {w before w' : World Adapter} {result : Option CommandOutcome}
    (left : Left w) (quiet : Quiet w before) (linked : Linked w.commands.head? before.task.environment)
    (called : ClientOperation outside.toOutside fuel rpc before result w')
    (named : rpc ≠ .update) : Passed before w' := by
  obtain ⟨payload, validate, issue, ended, performed, rfl⟩ := called.performed
  have record := performed.commands
  have other : SessionRpc.task rpc ≠ .task .update := fun same => named (by cases same; rfl)
  refine ⟨?_, ?_, performed.task, ?_⟩
  · rw [record, quiet.2]
    exact .other left.tracked other (performed.snapshot ▸ linked)
  · rw [record]
    exact Linked.idle other issue
  · intro command member
    rw [record]
    exact List.mem_cons_of_mem _ member

theorem Passed.left {before after w' : World Adapter} (passed : Passed before after)
    (quiet : Quiet after w') (failed : w'.task.chainFailed = true → Failed before.commands) :
    Left w' := by
  refine ⟨quiet.2 ▸ passed.tracked, quiet.2 ▸ passed.unlinked _, fun broken => ?_⟩
  obtain ⟨issue, member, outcome⟩ := failed broken
  exact ⟨issue, quiet.2 ▸ passed.kept _ member, outcome⟩

theorem afterUpdate_environment (request : UpdateReq) (adapter : Adapter)
    (ended : Option (CommandOutcome × UpdateRsp)) :
    (Adapter.afterUpdate request adapter ended).environment = adapter.environment := by
  unfold Adapter.afterUpdate
  repeat' split
  all_goals rfl

structure Recorded (w : World Adapter) (issue : Issue Adapter (.task .update))
    (ended : Option (CommandOutcome × UpdateRsp)) (w' : World Adapter) : Prop where
  made : Made issue
  commands : w'.commands = ⟨.task .update, issue⟩ :: w.commands
  snapshot : issue.task = w.task
  outcome : issue.outcome = ended.map Prod.fst
  response : ∀ returned, ended = some returned → issue.response = returned.2
  task : w'.task = Adapter.afterUpdate w.task.observeUpdate.1 w.task ended
  patient : issue.outcome ≠ some .waitExpired

theorem Adapter.Synced.recorded {w before after w' : World Adapter}
    {issue : Issue Adapter (.task .update)} {ended : Option (CommandOutcome × UpdateRsp)}
    (synced : w.task.Synced) (quiet : Quiet w before)
    (observed : before.task = w.task.observeUpdate.2)
    (update : Adapter.UpdateCalled outside fuel w.task.observeUpdate.1 before issue ended after
      w') : Recorded w issue ended w' := by
  have same : before.task = w.task := observed.trans (by rw [synced.observed])
  have performed := update.performed
  have snapshot : issue.task = w.task := performed.snapshot.trans same
  have request : issue.request =
      { w.task.observeUpdate.1 with command := some (fillCommand issue.cursor) } := by
    rw [performed.request, performed.issuedAt]
    rfl
  refine ⟨⟨?_, ?_, fun applied => ?_⟩, ?_, snapshot, performed.outcome, ?_, ?_, ?_⟩
  · exact snapshot ▸ synced
  · rw [request, snapshot]
  · obtain ⟨candidate, accepted⟩ :=
      Option.isSome_iff_exists.mp (performed.applied applied).2.1
    rw [request, same] at accepted
    -- The command of the request plays no part in the checks.
    have plain : prepareAppliedAgentUpdate w.task.observeUpdate.1 issue.response
        w.task.agentExecution = some candidate := accepted
    exact snapshot ▸ (prepareAppliedAgentUpdate_iff.mp plain).1
  · rw [update.settled.2, performed.commands, quiet.2]
  · exact fun returned same => (performed.returned returned same).1
  · rw [update.task, same]
  · exact performed.patient (by simp)

structure Advanced (w : World Adapter) (issue : Issue Adapter (.task .update))
    (w' : World Adapter) : Prop where
  made : Made issue
  snapshot : issue.task = w.task
  applied : issue.outcome = some .applied
  commands : w'.commands = ⟨.task .update, issue⟩ :: w.commands
  settled : issue.settled = w'.task
  frame : w.task.NextFrame issue.response.actions w'.task

theorem Adapter.Synced.advanced {w before after made w' : World Adapter}
    {issue : Issue Adapter (.task .update)} {ended : Option (CommandOutcome × UpdateRsp)}
    (synced : w.task.Synced) (quiet : Quiet w before)
    (observed : before.task = w.task.observeUpdate.2)
    (update : Adapter.UpdateCalled outside fuel w.task.observeUpdate.1 before issue ended after
      made) (outcome : ended.map Prod.fst = some .applied)
    (going : w.task.environment.allDone = false) (settled : Quiet made w')
    (task : w'.task = made.task.applyActions.2) :
    made.task.applyActions.1 = true ∧ Advanced w issue w' := by
  have recorded := synced.recorded quiet observed update
  obtain ⟨⟨answer, response⟩, rfl, rfl⟩ := Option.map_eq_some_iff.mp outcome
  have answered : issue.response = response := recorded.response _ rfl
  have applied : issue.outcome = some .applied := recorded.outcome
  have prepared := recorded.made.prepared applied
  rw [recorded.snapshot] at prepared
  obtain ⟨next, ran, frame⟩ := synced.apply prepared
  have accepted : made.task = w.task.accepted issue.response := by
    rw [recorded.task, answered]
    rfl
  rw [accepted, ran] at task ⊢
  refine ⟨rfl, recorded.made, recorded.snapshot, applied, ?_, ?_, task ▸ frame⟩
  · rw [settled.2, recorded.commands]
  · rw [Issue.settled, if_pos ⟨applied, recorded.snapshot ▸ going⟩, recorded.snapshot, ran, task]

theorem Recorded.launched {w w' : World Adapter} {issue : Issue Adapter (.task .update)}
    {ended : Option (CommandOutcome × UpdateRsp)} (recorded : Recorded w issue ended w')
    (running : Running w) : Launched w.commands.head? issue :=
  ⟨recorded.made, recorded.snapshot ▸ running.positioned⟩

theorem Recorded.failed {w w' : World Adapter} {issue : Issue Adapter (.task .update)}
    {outcome : CommandOutcome} {response : UpdateRsp}
    (recorded : Recorded w issue (some (outcome, response)) w') (unapplied : outcome ≠ .applied)
    (unstopped : outcome ≠ .stopped) : Failed w'.commands := by
  have patient := recorded.patient
  have own : issue.outcome = some outcome := recorded.outcome
  refine ⟨issue, recorded.commands ▸ List.mem_cons_self, ?_⟩
  cases outcome <;> simp_all

theorem Recorded.left {w w' : World Adapter} {issue : Issue Adapter (.task .update)}
    {ended : Option (CommandOutcome × UpdateRsp)} (running : Running w)
    (recorded : Recorded w issue ended w')
    (last : ended.map Prod.fst ≠ some .applied ∨ w.task.environment.allDone = true) :
    Left w' := by
  have stays : issue.settled = w.task := by
    rw [Issue.settled, if_neg, recorded.snapshot]
    rintro ⟨applied, going⟩
    rw [recorded.snapshot] at going
    simp [going, ← recorded.outcome, applied] at last
  refine ⟨?_, ?_, fun failed => ?_⟩
  · rw [recorded.commands]
    exact .update running.tracked (recorded.launched running)
  · rw [recorded.commands, recorded.task]
    exact (afterUpdate_environment _ _ _).trans (congrArg Adapter.environment stays.symm)
  · have sound := running.synced.sound
    rw [recorded.task] at failed
    rcases ended with _ | ⟨outcome, response⟩
    · simp [Adapter.afterUpdate, sound] at failed
    · apply recorded.failed <;> rintro rfl <;>
        simp [Adapter.afterUpdate, Adapter.acceptUpdate, sound] at failed

structure Leaving (outcome : CommandOutcome) (w : World Adapter) : Prop where
  ready : outcome = .applied → Ready w
  left : Left w
  failed : outcome ≠ .applied → outcome ≠ .stopped → Failed w.commands

theorem Running.round {w : World Adapter} (running : Running w) :
    (episodeRound Adapter.observation (Adapter.exchangeUpdate outside fuel) Adapter.terminal
      Adapter.application (observe outside.stopped)).wp (fun result w' => match result with
        | some (.inl _) => Running w'
        | some (.inr outcome) => Leaving outcome w'
        | none => Left w') w := by
  apply Prog.wp_mono (Adapter.episodeRound_spec w)
  intro result w' round
  cases round with
  | stopped quiet task =>
      refine ⟨nofun, ⟨?_, ?_, ?_⟩, by simp⟩
      · exact quiet.2 ▸ running.tracked
      · exact quiet.2 ▸ task ▸ running.positioned.linked
      · simp [task, running.synced.sound]
  | refused quiet failed =>
      obtain ⟨same, failed⟩ := failed
      simp [same, running.synced.observed, running.synced.sound] at failed
  | @sent before after _ issue ended quiet observed update last =>
      have recorded := running.synced.recorded quiet observed.1 update
      have left := recorded.left running last
      rcases ended with _ | ⟨outcome, response⟩
      · exact left
      · refine ⟨?_, left, recorded.failed⟩
        rintro rfl
        have task := recorded.task
        refine ⟨left, ?_, ?_⟩
        · rw [task, afterUpdate_environment]
          exact running.synced.crewed
        · rw [task]
          exact running.synced.sound
  | @applied before after made _ issue ended quiet observed update outcome going settled task =>
      have recorded := running.synced.recorded quiet observed.1 update
      obtain ⟨ran, advanced⟩ :=
        running.synced.advanced quiet observed.1 update outcome going settled task
      rw [ran]
      refine ⟨?_, ?_, advanced.frame.synced⟩
      · rw [advanced.commands]
        exact .update running.tracked (recorded.launched running)
      · rw [advanced.commands]
        exact ⟨advanced.applied, advanced.snapshot ▸ going, advanced.settled.symm⟩

-- A stale reply does not matter: the first Update of an episode writes it before it is read.
theorem Running.fresh {w : World Adapter} (running : Running w)
    (begun : ∃ command ∈ w.commands.head?, command.rpc = .task .beginEpisode) :
    Running { w with task.updateResponse := {} } := by
  obtain ⟨tracked, positioned, synced⟩ := running
  refine ⟨tracked, ?_, ⟨synced.crewed, synced.aligned, synced.sound, synced.accounted⟩⟩
  obtain ⟨⟨rpc, issue⟩, newest, named⟩ := begun
  obtain rfl : rpc = .task .beginEpisode := named
  rw [Option.mem_def.mp newest] at positioned
  change Positioned w.commands.head? _
  rw [Option.mem_def.mp newest]
  have given : w.task.Given issue.response.assignment := positioned
  obtain ⟨⟨frame, running, active, unblocked, empty⟩, session, limit⟩ := given
  exact ⟨⟨frame, running, active, unblocked, empty⟩, session, limit⟩

theorem Running.runEpisode {w : World Adapter} (running : Running w)
    (begun : ∃ command ∈ w.commands.head?, command.rpc = .task .beginEpisode) :
    (Adapter.runEpisode outside fuel).wp (fun result w' =>
      (result = some .applied → Ready w') ∧ (result ≠ some .applied → Left w')) w := by
  have loop := @Prog.wp_iterate _ _ _ (fun _ : Unit => episodeRound Adapter.observation
    (Adapter.exchangeUpdate outside fuel) Adapter.terminal Adapter.application
    (observe outside.stopped)) (fun result w' =>
      result.elim (Left w') fun outcome => Leaving outcome w') (fun _ => Running)
    (fun _ w running => Prog.wp_mono running.round fun result w' after => by
      rcases result with _ | _ | _ <;> exact after)
    (fun _ w running => running.left) fuel () _ (running.fresh begun)
  simp only [Adapter.runEpisode, MazeClient.runEpisode, Prog.wp_bind, Adapter.wp_setTask,
    Prog.andThen_some]
  apply Prog.wp_mono loop
  rintro (_ | outcome) w' after
  · exact ⟨fun applied => absurd applied (by simp), fun _ => after⟩
  · rw [Prog.andThen_some]
    split
    case isTrue broken =>
      refine ⟨fun applied => absurd (Option.some.inj applied) broken.1, fun _ => ?_⟩
      refine ⟨after.left.tracked, ?_, fun _ => after.failed broken.1 broken.2⟩
      exact after.left.linked
    case isFalse =>
      exact ⟨fun applied => after.ready (Option.some.inj applied), fun _ => after.left⟩

structure Assigned (w : World Adapter) : Prop where
  left : Left w
  running : w.client.complete = false →
    Running w ∧ ∃ command ∈ w.commands.head?, command.rpc = .task .beginEpisode

theorem Ready.beginEpisode {w : World Adapter} (ready : Ready w) :
    (Adapter.beginEpisode outside fuel).wp (fun result w' =>
      (result = some .applied → Assigned w') ∧ (result ≠ some .applied → Left w')) w := by
  apply Prog.wp_mono (Adapter.beginEpisode_spec w)
  rintro result w' ⟨called, after, call, quiet, ended⟩
  have passed := ready.left.pass (.refl w) ready.left.linked call (by simp)
  have sound : after.task.chainFailed = false := passed.task ▸ ready.sound
  have quietly (same : w'.task.chainFailed = after.task.chainFailed) : Left w' :=
    passed.left quiet fun failed => by simp [same, sound] at failed
  have newest : ∃ command ∈ w'.commands.head?, command.rpc = .task .beginEpisode := by
    obtain ⟨_, _, issue, _, performed, _⟩ := call.performed
    exact ⟨⟨_, issue⟩, by rw [quiet.2, performed.commands]; rfl, rfl⟩
  rcases ended with ⟨failed, rfl, task⟩ | ⟨-, ⟨rfl, complete, task⟩ |
    ⟨issue, head, outcome, going, accepted, task⟩ | ⟨outcome, task⟩⟩
  · exact ⟨fun applied => absurd applied failed, fun _ => quietly (congrArg _ task)⟩
  · refine ⟨fun _ => ⟨quietly (congrArg _ task), fun incomplete => ?_⟩, fun failed => absurd rfl failed⟩
    rw [quiet.1, complete] at incomplete
    cases incomplete
  · have left := quietly (task ▸ rfl)
    have crewed : after.task.environment.Crewed := passed.task ▸ ready.crewed
    refine ⟨fun _ => ⟨left, fun _ => ⟨⟨left.tracked, ?_, ?_⟩, newest⟩⟩, fun _ => left⟩
    · rw [quiet.2, head, task]
      exact Adapter.begun_given accepted
    · exact task ▸ Adapter.begun_synced _ crewed sound
  · refine ⟨fun applied => ?_, fun _ => quietly (congrArg _ task)⟩
    rcases outcome with rfl | rfl <;> cases applied

theorem mazeClientAdapter_rule (outside : MazeOutside) (fuel : Nat) :
    SessionRule (mazeClientAdapter outside fuel) Opened Ready Assigned (fun w => Running w ∧
      ∃ command ∈ w.commands.head?, command.rpc = .task .beginEpisode) Ready Left where
  idle w ready := ready.left
  initializeTask w opened := by
    apply Prog.wp_mono (Adapter.initialise_spec w)
    rintro result w' ⟨before, ⟨quiet, chain⟩, ⟨rfl, rfl⟩ | ⟨called, crewed⟩⟩
    · refine ⟨nofun, fun _ => ⟨quiet.2 ▸ opened.left.tracked, quiet.2 ▸ opened.unlinked _, ?_⟩⟩
      simp [chain, opened.sound]
    · have passed := opened.left.pass quiet (opened.unlinked _) called (by simp)
      have sound : w'.task.chainFailed = false := by rw [passed.task, chain, opened.sound]
      have left := passed.left (.refl w') fun failed => by simp [sound] at failed
      exact ⟨fun _ => ⟨left, passed.task ▸ crewed opened.few, sound⟩, fun _ => left⟩
  halt w ready := by
    have left : Left { w with tick := w.tick + 1 } :=
      ⟨ready.left.tracked, ready.left.linked, ready.left.failed⟩
    exact ⟨fun _ => ⟨left, ready.crewed, ready.sound⟩, fun _ => left⟩
  beginEpisode w ready := ready.beginEpisode
  complete w assigned := by
    change (readClient TaskClient.complete).wp _ w
    rw [wp_readClient]
    exact ⟨fun going => assigned.running (Option.some.inj going), fun _ => assigned.left⟩
  runEpisode w running := running.1.runEpisode running.2
  endEpisode w reported := by
    apply Prog.wp_mono (Adapter.endEpisode_spec w)
    rintro result w' ⟨after, called, quiet, environment, chain⟩
    have passed := reported.left.pass (.refl w) reported.left.linked called (by simp)
    have sound : w'.task.chainFailed = false := by rw [chain, passed.task, reported.sound]
    have left := passed.left quiet fun failed => by simp [sound] at failed
    refine ⟨fun _ => ⟨left, ?_, sound⟩, fun _ => left⟩
    rw [environment, passed.task]
    exact reported.crewed
  active w left := left
  abortEpisode w left := by
    apply Prog.wp_mono (Adapter.abortEpisode_spec w)
    rintro result w' ⟨before, quiet, task, called⟩
    have passed := left.pass quiet (task ▸ left.linked) called (by simp)
    refine passed.left (.refl w') fun failed => ?_
    rw [passed.task, task] at failed
    exact quiet.2 ▸ left.failed failed
  canClose w left := left
  closeSession w left := by
    apply Prog.wp_mono (Adapter.closeSession_spec w)
    intro result w' called
    have passed := left.pass (.refl w) left.linked called (by simp)
    exact passed.left (.refl w') fun failed => left.failed (passed.task ▸ failed)

theorem openSession_start {w : World Adapter} (first : w.commands = [])
    (sound : w.task.chainFailed = false) : (Adapter.openSession outside).wp (fun result w' =>
      (result = some .applied → Opened w') ∧ (result ≠ some .applied → Left w')) w := by
  apply Prog.wp_mono (Adapter.openSession_spec w)
  rintro result w' ⟨quiet, chain, -, few⟩
  obtain ⟨ended, issue, -, opened⟩ := @openSession_opened _ outside.toOutside
    (fun _ rsp => Adapter.validEnvironment rsp) w.task.openResponse w
  have unbroken : w'.task.chainFailed = false := by rw [chain, opened.task, sound]
  have unlinked (environment : MazeEnv) : Linked w'.commands.head? environment := by
    rw [quiet.2, opened.commands]
    exact Linked.idle (by simp) issue environment
  have left : Left w' := by
    refine ⟨?_, unlinked _, by simp [unbroken]⟩
    rw [quiet.2, opened.commands, first]
    exact .other .nil (by simp) trivial
  exact ⟨fun applied => ⟨left, unlinked, few applied, unbroken⟩, fun _ => left⟩

theorem mazeClientAdapter_left (outside : MazeOutside) (fuel : Nat) (options : ClientOptions)
    (connected : Bool) (config : ClientConfig) (environment : MazeEnv) :
    Left (runSession fuel (mazeClientAdapter outside fuel)
      (World.start options connected (Adapter.start config environment))).2 :=
  (mazeClientAdapter_rule outside fuel).runSession fuel (openSession_start rfl rfl)

end MazeClient
