import MazeClient.Client.Outcome
import MazeClient.Maze.ExactlyOnce
import MazeClient.Maze.Invariant

set_option autoImplicit false

namespace MazeClient

open Wire

theorem MazeEnv.stepAll_same {environment next : MazeEnv} {actions : List AgentAction}
    (ran : environment.stepAll actions = .ok next) :
    ∃ agents, next = { environment with agents } := by
  induction actions generalizing environment with
  | nil => exact ⟨environment.agents, (Except.ok.inj ran).symm⟩
  | cons action actions ih =>
      rw [stepAll, List.foldlM_cons] at ran
      cases first : environment.step (toInt32 action.agentId) action.actionId with
      | error message =>
          rw [first] at ran
          cases ran
      | ok middle =>
          rw [first] at ran
          obtain ⟨-, -, -, rfl⟩ := step_stepped first
          obtain ⟨agents, rfl⟩ := ih ran
          exact ⟨agents, rfl⟩

namespace Adapter

theorem executeActions_openResponse (actions : List AgentAction) (adapter : Adapter) :
    (executeActions actions adapter).2.openResponse = adapter.openResponse := by
  induction actions generalizing adapter with
  | nil => rfl
  | cons action actions ih =>
      rw [executeActions]
      dsimp only
      split
      · rfl
      · exact ih _

theorem applyActions_openResponse (adapter : Adapter) :
    adapter.applyActions.2.openResponse = adapter.openResponse := by
  have executed := executeActions_openResponse adapter.updateResponse.actions adapter
  unfold applyActions
  dsimp only
  split <;> exact executed

structure Timed (limit : Int) (adapter : Adapter) : Prop where
  horizon : adapter.environment.maxSteps = limit
  active : ∀ index < adapter.environment.agents.length, (adapter.agentAt index).done = false →
    (adapter.agentAt index).terminationReason = .active
  early : ∀ index < adapter.environment.agents.length, (adapter.agentAt index).done = false →
    adapter.environment.frameId < limit

variable {adapter after : Adapter} {actions : List AgentAction} {limit : Int}

theorem NextFrame.environment (frame : adapter.NextFrame actions after) :
    ∃ agents, after.environment = { adapter.environment with
      agents, frameId := adapter.environment.frameId + 1 } := by
  obtain ⟨environment, ran, same⟩ := frame.stepped
  obtain ⟨agents, rfl⟩ := MazeEnv.stepAll_same ran
  exact ⟨agents, same⟩

theorem NextFrame.ending (frame : adapter.NextFrame actions after) {action : AgentAction}
    (member : action ∈ actions) : MazeEnv.Ending adapter.environment
      (adapter.agentAt action.agentId) (after.agentAt action.agentId) := by
  rw [(frame.acted action member).1]
  exact MazeEnv.stepAgent_ending _ _ _

-- An agent that may still act has just acted, before the limit.
theorem Timed.next (timed : adapter.Timed limit) (frame : adapter.NextFrame actions after) :
    after.Timed limit := by
  obtain ⟨agents, same⟩ := frame.environment
  have onward (index : Nat) (within : index < after.environment.agents.length)
      (live : (after.agentAt index).done = false) :
      (after.agentAt index).terminationReason = .active ∧
        adapter.environment.checkTimeout = false := by
    obtain ⟨within, before⟩ := frame.live within live
    obtain ⟨action, member, rfl⟩ := List.mem_map.mp ((frame.covered index).mpr ⟨within, before⟩)
    cases frame.ending member with
    | goal _ done => simp [done] at live
    | timeLimit _ _ done => simp [done] at live
    | onward _ time _ reason => exact ⟨reason.trans (timed.active _ within before), time⟩
  refine ⟨?_, fun index within live => (onward index within live).1, fun index within live => ?_⟩
  · rw [same]
    exact timed.horizon
  · have time := (onward index within live).2
    simp only [MazeEnv.checkTimeout, timed.horizon, decide_eq_false_iff_not] at time
    rw [frame.frame]
    omega

theorem Timed.timeLimit_iff (timed : adapter.Timed limit) (frame : adapter.NextFrame actions after)
    {action : AgentAction} (member : action ∈ actions) :
    (after.agentAt action.agentId).terminationReason = .timeLimit ↔
      adapter.environment.frameId + 1 = limit ∧
        ¬ MazeEnv.OnGoal adapter.environment.map (after.agentAt action.agentId) := by
  obtain ⟨within, live⟩ := (frame.covered _).mp (List.mem_map_of_mem member)
  have early := timed.early _ within live
  have expiry : adapter.environment.checkTimeout = true ↔
      adapter.environment.frameId + 1 = limit := by
    simp only [MazeEnv.checkTimeout, timed.horizon, decide_eq_true_eq]
    omega
  cases frame.ending member with
  | goal reached _ reason => simp [reason, reached]
  | timeLimit away expired _ reason => simp [reason, away, ← expiry, expired]
  | onward _ time _ reason => simp [reason, timed.active _ within live, ← expiry, time]

end Adapter

def episodeAssignment : List (Command Adapter) → Option EpisodeAssignment
  | [] => none
  | ⟨.task .beginEpisode, issue⟩ :: _ => some issue.response.assignment
  | _ :: earlier => episodeAssignment earlier

-- The actions an agent has executed in the newest episode of a record.
def actionsExecuted (agentId : Nat) (commands : List (Command Adapter)) : Nat :=
  (episodeUpdates commands).countP fun issue =>
    issue.outcome = some .applied && agentId ∈ issue.response.actions.map AgentAction.agentId

structure Paced (earlier : List (Command Adapter)) (adapter : Adapter) : Prop where
  session : ∀ assignment ∈ episodeAssignment earlier,
    assignment.maxSteps = adapter.openResponse.spec.episodeMaxSteps
  timed : ∀ assignment ∈ episodeAssignment earlier, 0 < toInt32 assignment.maxSteps →
    adapter.Timed (toInt32 assignment.maxSteps)
  counted : ∀ index < adapter.environment.agents.length, (adapter.agentAt index).done = false →
    actionsExecuted index earlier = adapter.environment.frameId

theorem actionsExecuted_update {agentId : Nat} {issue : Issue Adapter (.task .update)}
    {earlier : List (Command Adapter)} (applied : issue.outcome = some .applied)
    (assigned : agentId ∈ issue.response.actions.map AgentAction.agentId) :
    actionsExecuted agentId (⟨.task .update, issue⟩ :: earlier) =
      actionsExecuted agentId earlier + 1 := by
  simp only [actionsExecuted, episodeUpdates, List.countP_append, List.countP_singleton]
  rw [if_pos (by simpa [applied] using assigned)]

theorem Paced.begin {issue : Issue Adapter (.task .beginEpisode)}
    (earlier : List (Command Adapter)) {adapter : Adapter}
    (given : adapter.Given issue.response.assignment) :
    Paced (⟨.task .beginEpisode, issue⟩ :: earlier) adapter where
  session := by
    intro assignment newest
    obtain rfl : BeginEpisodeRsp.assignment issue.response = assignment := Option.some.inj newest
    exact given.session
  timed := by
    intro assignment newest positive
    obtain rfl : BeginEpisodeRsp.assignment issue.response = assignment := Option.some.inj newest
    refine ⟨given.limit positive, fun index _ _ => given.fresh.active index, fun index _ _ => ?_⟩
    rw [given.fresh.frame]
    exact positive
  counted index _ _ := given.fresh.frame.symm

theorem Paced.update {issue : Issue Adapter (.task .update)} {earlier : List (Command Adapter)}
    (paced : Paced earlier issue.task) (applied : issue.outcome = some .applied)
    (frame : issue.task.NextFrame issue.response.actions issue.settled) :
    Paced (⟨.task .update, issue⟩ :: earlier) issue.settled where
  session assignment newest := (paced.session assignment newest).trans <| by
    rw [Issue.settled]
    split
    · rw [Adapter.applyActions_openResponse]
      rfl
    · rfl
  timed assignment newest positive := (paced.timed assignment newest positive).next frame
  counted index within live := by
    obtain ⟨within, before⟩ := frame.live within live
    rw [actionsExecuted_update applied ((frame.covered index).mpr ⟨within, before⟩),
      paced.counted index within before, frame.frame]

theorem Tracked.paced {issue : Issue Adapter (.task .update)} {earlier : List (Command Adapter)}
    (tracked : Tracked (⟨.task .update, issue⟩ :: earlier)) : Paced earlier issue.task := by
  induction earlier generalizing issue with
  | nil => cases tracked.newest.2.positioned
  | cons command earlier ih =>
      have positioned := tracked.newest.2.positioned
      rw [List.head?_cons] at positioned
      unfold Positioned at positioned
      split at positioned
      case h_1 newest =>
        cases newest
        exact .begin earlier positioned
      case h_2 before newest =>
        cases newest
        obtain ⟨applied, going, task⟩ := positioned
        have prior := tracked.newest.1
        rw [task]
        exact (ih prior).update applied (prior.newest.2.nextFrame applied going)
      case h_3 => cases positioned

def LimitHonoured (maxSteps : Nat) (issue : Issue Adapter (.task .update))
    (earlier : List (Command Adapter)) : Prop :=
  ∀ action ∈ issue.response.actions,
    let number := actionsExecuted action.agentId (⟨.task .update, issue⟩ :: earlier)
    let agent := issue.settled.agentAt action.agentId
    number ≤ maxSteps ∧ (agent.terminationReason = .timeLimit ↔
      number = maxSteps ∧ ¬ MazeEnv.OnGoal issue.task.environment.map agent)

instance {map : GridMap} {agent : AgentInfo} : Decidable (MazeEnv.OnGoal map agent) :=
  inferInstanceAs (Decidable (_ ∧ _))

instance {maxSteps : Nat} {issue : Issue Adapter (.task .update)}
    {earlier : List (Command Adapter)} : Decidable (LimitHonoured maxSteps issue earlier) :=
  inferInstanceAs (Decidable (∀ action ∈ issue.response.actions, _ ∧ (_ ↔ _)))

/-- In every episode of every run a step limit below 2^31 strikes at the action of its number. -/
theorem step_limit_honoured (outside : MazeOutside) (fuel : Nat) (options : ClientOptions)
    (connected : Bool) (config : ClientConfig) (environment : MazeEnv)
    {issue : Issue Adapter (.task .update)} {earlier : List (Command Adapter)}
    {assignment : EpisodeAssignment}
    (made : ⟨.task .update, issue⟩ :: earlier <:+ (runSession fuel (mazeClientAdapter outside fuel)
      (World.start options connected (Adapter.start config environment))).2.commands)
    (applied : issue.outcome = some .applied) (assigned : episodeAssignment earlier = some assignment)
    (positive : 0 < assignment.maxSteps) (short : assignment.maxSteps < 2147483648) :
    assignment.maxSteps = issue.task.openResponse.spec.episodeMaxSteps ∧
      LimitHonoured assignment.maxSteps issue earlier := by
  have tracked := (mazeClientAdapter_left outside fuel options connected config
    environment).tracked.suffix made
  have paced := tracked.paced
  have launched := tracked.newest.2
  have limit : toInt32 assignment.maxSteps = assignment.maxSteps := by
    unfold toInt32
    split <;> omega
  have timed := paced.timed assignment assigned (by omega)
  rw [limit] at timed
  refine ⟨paced.session assignment assigned, fun action member => ?_⟩
  obtain ⟨next, -, reached⟩ := launched.synced.apply (launched.prepared applied)
  have going : issue.task.environment.allDone = false := by
    by_contra done
    simp [reached.silent (by simpa using done)] at member
  have frame := launched.nextFrame applied going
  obtain ⟨within, live⟩ := (frame.covered _).mp (List.mem_map_of_mem member)
  have number : actionsExecuted action.agentId (⟨.task .update, issue⟩ :: earlier) =
      issue.task.environment.frameId + 1 := by
    rw [actionsExecuted_update applied (List.mem_map_of_mem member),
      paced.counted _ within live]
  have early := timed.early _ within live
  dsimp only
  rw [number, timed.timeLimit_iff frame member]
  refine ⟨by omega, and_congr_left fun _ => ?_⟩
  omega

-- A server for one agent on a map of two cells, which it never asks to move.
def idleServer (maxSteps : Nat) : MazeOutside where
  attempt _ rpc request :=
    match rpc, request with
    | .openSession, _ => ({},
        { reply := appliedReply .opened 0
          sessionId := "session"
          sessionEpoch := 1
          aiserver := { component := "aiserver", instanceId := "aiserver-1", lifecycleEpoch := 1 }
          workloadMode := .training
          environment := some
            { agentCount := 1
              mapId := "pair"
              episodeMaxSteps := maxSteps
              actionMaskMode := .disabled } })
    | .task rpc, request =>
        let sequence := ((TaskRpc.command? request).getD {}).sequence
        match rpc, request with
        | .init, _ => ({}, { reply := appliedReply .ready sequence })
        | .beginEpisode, _ => ({},
            { reply := appliedReply .episodeRunning sequence
              outcome := .assignment { episodeId := "episode", mode := .training, maxSteps } })
        | .update, request => ({},
            if (UpdateReq.agents request).all AgentState.isDone then
              { reply := appliedReply .episodeTerminal sequence, control := .actionBatch [] }
            else
              { reply := appliedReply .episodeRunning sequence
                control := .actionBatch [{ agentId := 0, actionId := 0 }] })
        | .endEpisode, _ => ({},
            { reply := rejectedReply "outcome is not ready" .episodeTerminal sequence })
        | .abortEpisode, _ => ({}, { reply := appliedReply .aborted sequence })
        | .closeSession, _ => ({}, { reply := appliedReply .closed sequence })
  stopped _ := false
  now _ := 0
  resolveTaskMapFile _ _ _ := "pair.json"
  loadMapFromFile _ _ preset :=
    (true, { preset with
      mapId := "pair", gridSize := 10, gridCols := 2, gridRows := 1, endGx := 1
      blocked := [false, false], startX := 5, startY := 5, endX := 15, endY := 5
      hasAuthoritativeGrid := true })
  recorderBegin _ _ _ _ _ := true

abbrev idleRun (maxSteps : Nat) : World Adapter :=
  (runSession 4 (mazeClientAdapter (idleServer maxSteps) 4)
    (World.start {} true (Adapter.start {} {}))).2

def lastUpdate (commands : List (Command Adapter)) :
    Option (Issue Adapter (.task .update) × List (Command Adapter)) :=
  match commands.drop 2 with
  | ⟨.task .update, issue⟩ :: earlier => some (issue, earlier)
  | _ => none

theorem lastUpdate_suffix {commands earlier : List (Command Adapter)}
    {issue : Issue Adapter (.task .update)} (last : lastUpdate commands = some (issue, earlier)) :
    ⟨.task .update, issue⟩ :: earlier <:+ commands := by
  unfold lastUpdate at last
  split at last
  case h_1 issue earlier newest =>
    cases last
    exact newest ▸ List.drop_suffix _ _
  case h_2 => cases last

theorem step_limit_honoured_two : ∃ issue earlier,
    ⟨.task .update, issue⟩ :: earlier <:+ (idleRun 2).commands ∧
      (issue.settled.agentAt 0).terminationReason = .timeLimit ∧
      LimitHonoured 2 issue earlier := by
  have found : (lastUpdate (idleRun 2).commands).any (fun found =>
      found.1.outcome = some .applied ∧ episodeAssignment found.2 = some
        { episodeId := "episode", mode := .training, maxSteps := 2 } ∧
      (found.1.settled.agentAt 0).terminationReason = .timeLimit) = true := by decide +kernel
  obtain ⟨⟨issue, earlier⟩, last, same⟩ := Option.any_eq_true _ _ |>.mp found
  obtain ⟨applied, assigned, expired⟩ := of_decide_eq_true same
  have made := lastUpdate_suffix last
  exact ⟨issue, earlier, made, expired, (step_limit_honoured (idleServer 2) 4 {} true {} {} made
    applied assigned (by decide) (by decide)).2⟩

/-- 2^31 as an `int` is negative: SetMaxSteps keeps the 0 of a new environment, and the time limit
strikes at the first action. -/
theorem step_limit_wraps : ∃ issue earlier,
    ⟨.task .update, issue⟩ :: earlier <:+ (idleRun 2147483648).commands ∧
      issue.outcome = some .applied ∧
      episodeAssignment earlier = some
        { episodeId := "episode", mode := .training, maxSteps := 2147483648 } ∧
      issue.task.openResponse.spec.episodeMaxSteps = 2147483648 ∧
      actionsExecuted 0 (⟨.task .update, issue⟩ :: earlier) = 1 ∧
      (issue.settled.agentAt 0).terminationReason = .timeLimit ∧
      ¬ LimitHonoured 2147483648 issue earlier := by
  have found : (lastUpdate (idleRun 2147483648).commands).any (fun found =>
      found.1.outcome = some .applied ∧
        episodeAssignment found.2 = some
          { episodeId := "episode", mode := .training, maxSteps := 2147483648 } ∧
        found.1.task.openResponse.spec.episodeMaxSteps = 2147483648 ∧
        actionsExecuted 0 (⟨.task .update, found.1⟩ :: found.2) = 1 ∧
        (found.1.settled.agentAt 0).terminationReason = .timeLimit ∧
        ¬ LimitHonoured 2147483648 found.1 found.2) = true := by decide +kernel
  obtain ⟨⟨issue, earlier⟩, last, same⟩ := Option.any_eq_true _ _ |>.mp found
  exact ⟨issue, earlier, lastUpdate_suffix last, of_decide_eq_true same⟩

end MazeClient
