import MazeClient.Maze.Tracking

set_option autoImplicit false

namespace MazeClient

/-- An observation that attaches every receipt and passes the request-side checks. -/
structure Observable (adapter : Adapter) : Prop where
  attached : ∀ index < adapter.environment.agents.length,
    (adapter.cursorAt index).retired = false →
      (attachExecutedActionReceipt adapter.environment.frameId (adapter.cursorAt index)
        (adapter.observedState index)).isSome = true
  unbroken : adapter.observeUpdate.2.chainFailed = false
  checked : requestChecks adapter.observeUpdate.1 adapter.agentExecution = true

theorem Adapter.Synced.observable {adapter : Adapter} (synced : adapter.Synced) :
    Observable adapter where
  attached index within live := by simp [synced.attached within live]
  unbroken := by rw [synced.observed]; exact synced.sound
  checked := synced.checked

theorem Adapter.applyActions_executed {adapter : Adapter}
    (applied : adapter.applyActions.1 = true) :
    (executeActions adapter.updateResponse.actions adapter).1 = true := by
  unfold applyActions at applied
  dsimp only at applied
  split at applied
  · cases applied
  case isFalse taken =>
    by_contra failed
    exact taken (.inl (by simpa using failed))

def ExecutesSafely (adapter : Adapter) (response : UpdateRsp)
    (candidate : List AgentExecutionCursor) : Prop :=
  let accepted := { adapter with updateResponse := response, agentExecution := candidate }
  (Adapter.executeActions response.actions accepted).1 = true ∧
    accepted.applyActions.1 = true ∧ Observable accepted.applyActions.2

theorem Adapter.Synced.executesSafely {adapter : Adapter} (synced : adapter.Synced)
    {response : UpdateRsp} {candidate : List AgentExecutionCursor}
    (prepared : prepareAppliedAgentUpdate adapter.observeUpdate.1 response adapter.agentExecution =
      some candidate) : ExecutesSafely adapter response candidate := by
  obtain ⟨next, ran, frame⟩ := synced.apply (prepareAppliedAgentUpdate_iff.mp prepared).1
  have accepted : adapter.accepted response =
      { adapter with updateResponse := response, agentExecution := candidate } := by
    simp [Adapter.accepted, Adapter.acceptUpdate, prepared]
  rw [accepted] at ran
  have applied := congrArg Prod.fst ran
  exact ⟨Adapter.applyActions_executed applied, applied, ran ▸ frame.synced.observable⟩

theorem Tracked.launched {commands : List (Command Adapter)} (tracked : Tracked commands)
    {issue : Issue Adapter (.task .update)}
    (member : (⟨.task .update, issue⟩ : Command Adapter) ∈ commands) :
    ∃ previous, Launched previous issue := by
  induction tracked with
  | nil => cases member
  | other tracked named linked ih =>
      rcases List.mem_cons.mp member with rfl | older
      · exact absurd rfl named
      · exact ih older
  | @update newest earlier tracked launched ih =>
      rcases List.mem_cons.mp member with same | older
      · obtain rfl : issue = newest := by cases same; rfl
        exact ⟨_, launched⟩
      · exact ih older

/-- Whatever reply an Update meets: once it is accepted, its actions and the next observation go
through, and the chain fails only by an Update that is rejected or stays unconfirmed. -/
theorem local_failures_unreachable (outside : MazeOutside) (fuel : Nat) (options : ClientOptions)
    (connected : Bool) (config : ClientConfig) (environment : MazeEnv) :
    let run := (runSession fuel (mazeClientAdapter outside fuel)
      (World.start options connected (Adapter.start config environment))).2
    (∀ issue : Issue Adapter (.task .update), ⟨.task .update, issue⟩ ∈ run.commands →
      Observable issue.task ∧ requestChecks issue.request issue.task.agentExecution = true ∧
        ∀ response candidate, prepareAppliedAgentUpdate issue.request response
          issue.task.agentExecution = some candidate →
            ExecutesSafely issue.task response candidate) ∧
      (run.task.chainFailed = true → Failed run.commands) := by
  have left := mazeClientAdapter_left outside fuel options connected config environment
  refine ⟨fun issue member => ?_, left.failed⟩
  obtain ⟨previous, launched⟩ := left.tracked.launched member
  have observable := launched.synced.observable
  rw [launched.request]
  exact ⟨observable, observable.checked, fun response candidate prepared =>
    launched.synced.executesSafely prepared⟩

end MazeClient
