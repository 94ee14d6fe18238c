import MazeClient.Maze.Adapter

set_option autoImplicit false

namespace MazeClient

open Wire

structure Accounted (frameId : Nat) (agent : AgentInfo) (cursor : AgentExecutionCursor) :
    Prop where
  retired : cursor.retired = true → agent.done = true ∧ cursor.lastExecutedActionId = none
  live : cursor.retired = false →
    if frameId = 0 then cursor.lastExecutedActionId = none
    else ∃ actionId, cursor.lastExecutedActionId = some actionId ∧ isMazeActionId actionId = true

-- The environment part of a batch: one Step for each action, in order.
def MazeEnv.stepAll (environment : MazeEnv) (actions : List AgentAction) :
    Except String MazeEnv :=
  actions.foldlM (fun environment action =>
    environment.step (toInt32 action.agentId) action.actionId) environment

namespace Adapter

/-- The cursors, the environment and the frame counter of an adapter fit together. -/
structure Synced (adapter : Adapter) : Prop where
  crewed : adapter.environment.Crewed
  aligned : adapter.agentExecution.length = adapter.environment.agents.length
  sound : adapter.chainFailed = false
  accounted : ∀ index < adapter.environment.agents.length,
    Accounted adapter.environment.frameId (adapter.agentAt index) (adapter.cursorAt index)

def liveAgents (adapter : Adapter) : List Nat :=
  (List.range adapter.environment.agents.length).filter fun index =>
    !(adapter.cursorAt index).retired

def report (adapter : Adapter) (index : Nat) : AgentState :=
  { adapter.observedState index with
    executedActionId := (adapter.cursorAt index).lastExecutedActionId }

variable {adapter : Adapter}

theorem Synced.attached (synced : adapter.Synced) {index : Nat}
    (within : index < adapter.environment.agents.length)
    (live : (adapter.cursorAt index).retired = false) :
    attachExecutedActionReceipt adapter.environment.frameId (adapter.cursorAt index)
      (adapter.observedState index) = some (adapter.report index) := by
  have receipt := (synced.accounted index within).live live
  refine attachExecutedActionReceipt_iff.mpr ⟨live, ?_⟩
  split at receipt
  case isTrue first => simp [first, receipt, report, observedState]
  case isFalse later =>
    obtain ⟨actionId, held, valid⟩ := receipt
    simp [later, held, valid, report]

theorem Synced.observed (synced : adapter.Synced) : adapter.observeUpdate =
    ({ frameId := adapter.environment.frameId, agents := adapter.liveAgents.map adapter.report },
      adapter) := by
  have reports (indices : List Nat)
      (within : ∀ index ∈ indices, index < adapter.environment.agents.length) :
      adapter.reportAgents indices =
        ((indices.filter fun index => !(adapter.cursorAt index).retired).map adapter.report,
          true) := by
    induction indices with
    | nil => rfl
    | cons index rest ih =>
        have later := ih fun other member => within other (List.mem_cons_of_mem _ member)
        rw [reportAgents]
        cases live : (adapter.cursorAt index).retired with
        | true => simp [live, later]
        | false => simp [live, later, synced.attached (within index List.mem_cons_self) live]
  have all := reports (List.range adapter.environment.agents.length) fun index => List.mem_range.mp
  have kept : { adapter with chainFailed := false } = adapter := by rw [← synced.sound]
  simp [observeUpdate, all, liveAgents, synced.sound, kept]

theorem mem_liveAgents {index : Nat} : index ∈ adapter.liveAgents ↔
    index < adapter.environment.agents.length ∧ (adapter.cursorAt index).retired = false := by
  simp [liveAgents]

theorem cursor_get {index : Nat} (within : index < adapter.agentExecution.length) :
    adapter.agentExecution[index]? = some (adapter.cursorAt index) := by
  simp [cursorAt, List.getElem?_eq_getElem within]

theorem Synced.liveCount (synced : adapter.Synced) :
    activeAgentCount adapter.agentExecution = adapter.liveAgents.length := by
  have listed : adapter.agentExecution =
      (List.range adapter.environment.agents.length).map adapter.cursorAt := by
    apply List.ext_getElem?
    intro index
    by_cases within : index < adapter.environment.agents.length
    · rw [cursor_get (synced.aligned ▸ within)]
      simp [within]
    · rw [List.getElem?_eq_none (synced.aligned ▸ Nat.le_of_not_lt within)]
      simp [within]
  rw [activeAgentCount, listed, List.countP_map, List.countP_eq_length_filter]
  rfl

theorem Synced.named (synced : adapter.Synced) {index : Nat}
    (member : index ∈ adapter.liveAgents) : (adapter.report index).agentId = index :=
  synced.crewed.numbered index (mem_liveAgents.mp member).1

theorem Synced.ids (synced : adapter.Synced) :
    (adapter.liveAgents.map adapter.report).map AgentState.agentId = adapter.liveAgents := by
  rw [List.map_map]
  exact (List.map_congr_left fun index member => synced.named member).trans (List.map_id' _)

theorem Synced.reported (synced : adapter.Synced) :
    Reported adapter.observeUpdate.1 adapter.agentExecution := by
  rw [synced.observed]
  refine ⟨List.forall_mem_map.mpr fun index member => ?_, ?_⟩
  · obtain ⟨within, live⟩ := mem_liveAgents.mp member
    have receipt := (synced.accounted index within).live live
    rw [synced.named member, cursor_get (synced.aligned ▸ within)]
    refine ⟨_, rfl, live, ?_⟩
    split at receipt
    case isTrue first => simp [receiptMatches, first, report, receipt]
    case isFalse later =>
      obtain ⟨actionId, held, valid⟩ := receipt
      simp [receiptMatches, later, report, held, valid]
  · rw [synced.ids]
    exact List.nodup_range.filter _

theorem Synced.checked (synced : adapter.Synced) :
    requestChecks adapter.observeUpdate.1 adapter.agentExecution = true := by
  have populated : adapter.agentExecution ≠ [] := by
    intro none_
    have crewed := synced.crewed.populated
    simp [← synced.aligned, none_] at crewed
  have count : adapter.observeUpdate.1.agents.length = activeAgentCount adapter.agentExecution := by
    rw [synced.liveCount, synced.observed, List.length_map]
  simp [requestChecks, populated, count,
    checkReports_iff.mpr ⟨synced.reported, rfl⟩]

-- The cursors a frame starts to execute with, once its Update is Applied.
theorem Synced.settled (synced : adapter.Synced) {index : Nat}
    (within : index < adapter.environment.agents.length) :
    (settleReports adapter.observeUpdate.1.agents adapter.agentExecution).getD index {} =
      { retired := (adapter.agentAt index).done } := by
  have distinct := synced.reported.distinct
  have held := cursor_get (synced.aligned ▸ within)
  have accounted := synced.accounted index within
  rw [synced.observed] at distinct ⊢
  obtain ⟨-, reported, kept⟩ := settleReports_get distinct
  rw [List.getD_eq_getElem?_getD]
  cases live : (adapter.cursorAt index).retired with
  | false =>
      have member := mem_liveAgents.mpr ⟨within, live⟩
      have settled := reported _ (List.mem_map_of_mem member)
      rw [synced.named member, held] at settled
      simp [settled, AgentExecutionCursor.reported, live, report, observedState]
  | true =>
      obtain ⟨done, empty⟩ := accounted.retired live
      have silent : index ∉ adapter.liveAgents := fun member => by
        simp [(mem_liveAgents.mp member).2] at live
      rw [kept index (by rw [synced.ids]; exact silent), held, done]
      cases cursor : adapter.cursorAt index
      simp_all

structure Executed (adapter : Adapter) (actions : List AgentAction) (after : Adapter) : Prop where
  same : ∃ agents cursors lastActions, after = { adapter with
    environment.agents := agents
    agentExecution := cursors
    lastActions := lastActions }
  stepped : adapter.environment.stepAll actions = .ok after.environment
  agents : after.environment.agents.length = adapter.environment.agents.length
  cursors : after.agentExecution.length = adapter.agentExecution.length
  moved : ∀ action ∈ actions,
    after.agentAt action.agentId =
      adapter.environment.stepAgent (adapter.agentAt action.agentId) action.actionId ∧
    after.cursorAt action.agentId = { lastExecutedActionId := some action.actionId }
  kept : ∀ index, index ∉ actions.map AgentAction.agentId →
    after.agentAt index = adapter.agentAt index ∧ after.cursorAt index = adapter.cursorAt index

theorem getD_set {α : Type} (xs : List α) (index other : Nat) (value default : α) :
    (xs.set index value).getD other default =
      if other = index ∧ index < xs.length then value else xs.getD other default := by
  simp only [List.getD_eq_getElem?_getD, List.getElem?_set]
  grind

structure Executable (adapter : Adapter) (action : AgentAction) : Prop where
  assigned : action.agentId < adapter.environment.agents.length
  valid : isMazeActionId action.actionId = true
  running : (adapter.agentAt action.agentId).done = false
  empty : adapter.cursorAt action.agentId = {}

theorem executeActions_spec {actions : List AgentAction}
    (addressable : adapter.environment.agents.length ≤ 2147483648)
    (aligned : adapter.agentExecution.length = adapter.environment.agents.length)
    (once : (actions.map AgentAction.agentId).Nodup)
    (ready : ∀ action ∈ actions, adapter.Executable action) :
    ∃ after, executeActions actions adapter = (true, after) ∧ adapter.Executed actions after := by
  induction actions generalizing adapter with
  | nil => exact ⟨adapter, rfl, ⟨_, _, _, rfl⟩, rfl, rfl, rfl, by simp, fun _ _ => ⟨rfl, rfl⟩⟩
  | cons action rest ih =>
      obtain ⟨assigned, valid, running, empty⟩ := ready action List.mem_cons_self
      obtain ⟨first, distinct⟩ := List.nodup_cons.mp once
      have index : toInt32 action.agentId = (action.agentId : Int) := by
        unfold toInt32
        split <;> omega
      have range : 0 ≤ action.actionId ∧ action.actionId ≤ 8 := by
        simpa [isMazeActionId] using valid
      have stepped := MazeEnv.step_ok assigned running range
      rw [← index] at stepped
      have executed := executeAssignedAction_eq stepped valid
      rw [← empty] at executed
      let made : Adapter :=
        { adapter with
          environment.agents := adapter.environment.agents.set action.agentId
            (adapter.environment.stepAgent (adapter.agentAt action.agentId) action.actionId)
          agentExecution := adapter.agentExecution.set action.agentId
            { lastExecutedActionId := some action.actionId }
          lastActions := adapter.lastActions.set action.agentId action.actionId }
      have agent (other : Nat) : made.agentAt other = if other = action.agentId then
          adapter.environment.stepAgent (adapter.agentAt action.agentId) action.actionId
          else adapter.agentAt other := by
        simp [made, agentAt, getD_set, assigned, -List.getD_eq_getElem?_getD]
      have cursor (other : Nat) : made.cursorAt other = if other = action.agentId then
          { lastExecutedActionId := some action.actionId } else adapter.cursorAt other := by
        simp [made, cursorAt, getD_set, aligned, assigned, -List.getD_eq_getElem?_getD]
      have unrolled : executeActions (action :: rest) adapter = executeActions rest made := by
        rw [executeActions, index, Int.toNat_natCast]
        simp only [executed]
        rfl
      have apart (other : AgentAction) (member : other ∈ rest) : other.agentId ≠ action.agentId :=
        fun same => first (same ▸ List.mem_map_of_mem member)
      obtain ⟨after, ran, ⟨⟨agents, cursors, lastActions, same⟩, all, agentsLength,
          cursorsLength, moved, kept⟩⟩ := @ih made (by simpa [made] using addressable)
        (by simpa [made] using aligned) distinct fun other member => by
          obtain ⟨assigned, valid, running, empty⟩ :=
            ready other (List.mem_cons_of_mem _ member)
          refine ⟨by simpa [made] using assigned, valid, ?_, ?_⟩
          · rw [agent, if_neg (apart other member), running]
          · rw [cursor, if_neg (apart other member), empty]
      refine ⟨after, unrolled.trans ran, ⟨⟨agents, cursors, lastActions, same⟩, ?_,
        by simpa [made] using agentsLength, by simpa [made] using cursorsLength,
        List.forall_mem_cons.mpr ⟨?_, ?_⟩, ?_⟩⟩
      · rw [MazeEnv.stepAll, List.foldlM_cons, stepped]
        exact all
      · obtain ⟨keptAgent, keptCursor⟩ := kept _ first
        rw [keptAgent, keptCursor, agent, cursor, if_pos rfl, if_pos rfl]
        exact ⟨rfl, rfl⟩
      · intro other member
        have untouched := agent other.agentId
        rw [if_neg (apart other member)] at untouched
        rw [← untouched]
        exact moved other member
      · intro other outside
        simp only [List.map_cons, List.mem_cons, not_or] at outside
        obtain ⟨keptAgent, keptCursor⟩ := kept other outside.2
        rw [keptAgent, keptCursor, agent, cursor, if_neg outside.1, if_neg outside.1]
        exact ⟨rfl, rfl⟩

/-- How an adapter goes on from one frame to the next by an accepted batch. -/
structure NextFrame (adapter : Adapter) (actions : List AgentAction) (next : Adapter) : Prop where
  synced : next.Synced
  frame : next.environment.frameId = adapter.environment.frameId + 1
  agents : next.environment.agents.length = adapter.environment.agents.length
  stepped : ∃ environment, adapter.environment.stepAll actions = .ok environment ∧
    next.environment = environment.advanceFrame
  covered : ∀ index, index ∈ actions.map AgentAction.agentId ↔
    index < adapter.environment.agents.length ∧ (adapter.agentAt index).done = false
  once : (actions.map AgentAction.agentId).Nodup
  acted : ∀ action ∈ actions,
    next.agentAt action.agentId =
      adapter.environment.stepAgent (adapter.agentAt action.agentId) action.actionId ∧
    next.cursorAt action.agentId = { lastExecutedActionId := some action.actionId }
  waited : ∀ index < adapter.environment.agents.length, (adapter.agentAt index).done = true →
    next.agentAt index = adapter.agentAt index ∧ next.cursorAt index = { retired := true }

theorem NextFrame.live {next : Adapter} {actions : List AgentAction}
    (frame : adapter.NextFrame actions next) {index : Nat}
    (within : index < next.environment.agents.length)
    (live : (next.agentAt index).done = false) :
    index < adapter.environment.agents.length ∧ (adapter.agentAt index).done = false := by
  have within : index < adapter.environment.agents.length := frame.agents ▸ within
  refine ⟨within, ?_⟩
  by_contra done
  have done : (adapter.agentAt index).done = true := by simpa using done
  rw [(frame.waited index within done).1, done] at live
  cases live

def accepted (adapter : Adapter) (response : UpdateRsp) : Adapter :=
  { adapter with updateResponse := response }.acceptUpdate adapter.observeUpdate.1 response

theorem mem_expectedActions (synced : adapter.Synced) {index : Nat} :
    index ∈ expectedActions adapter.observeUpdate.1 ↔
      index < adapter.environment.agents.length ∧ (adapter.agentAt index).done = false := by
  rw [synced.observed, expectedActions]
  simp only [List.mem_map, List.mem_filter, mem_liveAgents]
  constructor
  · rintro ⟨_, ⟨⟨other, member, rfl⟩, going⟩, rfl⟩
    rw [synced.named (mem_liveAgents.mpr member)]
    exact ⟨member.1, by simpa [report, observedState] using going⟩
  · rintro ⟨within, going⟩
    have live : (adapter.cursorAt index).retired = false := by
      by_contra retired
      have done := (synced.accounted index within).retired (by simpa using retired)
      simp [going] at done
    exact ⟨_, ⟨⟨index, ⟨within, live⟩, rfl⟩, by simpa [report, observedState] using going⟩,
      synced.named (mem_liveAgents.mpr ⟨within, live⟩)⟩

theorem Synced.apply (synced : adapter.Synced) {response : UpdateRsp}
    (prepared : UpdatePrepared adapter.observeUpdate.1 response adapter.agentExecution) :
    ∃ next, (adapter.accepted response).applyActions = (true, next) ∧
      adapter.NextFrame response.actions next := by
  have candidate := prepareAppliedAgentUpdate_iff.mpr ⟨prepared, rfl⟩
  have cursors : (adapter.accepted response).agentExecution =
      settleReports adapter.observeUpdate.1.agents adapter.agentExecution := by
    simp [accepted, acceptUpdate, candidate]
  have length : (settleReports adapter.observeUpdate.1.agents adapter.agentExecution).length =
      adapter.environment.agents.length :=
    (settleReports_get synced.reported.distinct).1.trans synced.aligned
  have cursor (index : Nat) (within : index < adapter.environment.agents.length) :
      (adapter.accepted response).cursorAt index = { retired := (adapter.agentAt index).done } := by
    rw [cursorAt, cursors, synced.settled within]
  have expected {index : Nat} := @mem_expectedActions adapter synced index
  obtain ⟨after, ran, executed⟩ := @executeActions_spec (adapter.accepted response)
    response.actions synced.crewed.addressable (cursors ▸ length)
    prepared.once fun action member => by
      obtain ⟨valid, needed, -⟩ := prepared.actions action member
      obtain ⟨assigned, running⟩ := expected.mp needed
      exact ⟨assigned, valid, running, by rw [cursor _ assigned, running]⟩
  obtain ⟨⟨agents, made, lastActions, same⟩, stepped, agentCount, cursorCount, moved, kept⟩ :=
    executed
  have covered (index : Nat) : index ∈ response.actions.map AgentAction.agentId ↔
      index < adapter.environment.agents.length ∧ (adapter.agentAt index).done = false := by
    rw [← expected, List.mem_map]
    refine ⟨?_, prepared.covers⟩
    rintro ⟨action, member, rfl⟩
    exact (prepared.actions action member).2.1
  have waited (index : Nat) (within : index < adapter.environment.agents.length)
      (done : (adapter.agentAt index).done = true) :
      after.agentAt index = adapter.agentAt index ∧ after.cursorAt index = { retired := true } := by
    have silent : index ∉ response.actions.map AgentAction.agentId := by simp [covered, done]
    obtain ⟨agent, held⟩ := kept index silent
    rw [agent, held, cursor index within, done]
    exact ⟨rfl, rfl⟩
  have sound : after.chainFailed = false := by
    rw [same]
    exact synced.sound
  refine ⟨{ after with environment := after.environment.advanceFrame }, ?_, ?_⟩
  · simp [applyActions, show (adapter.accepted response).updateResponse = response from rfl, ran,
      sound]
  have frame : after.environment.frameId = adapter.environment.frameId := by
    rw [same]
    rfl
  refine ⟨⟨⟨?_, ?_, ?_⟩, ?_, sound, ?_⟩, ?_, agentCount, ⟨_, stepped, rfl⟩, covered, prepared.once,
    moved, waited⟩
  · exact agentCount ▸ synced.crewed.populated
  · exact agentCount ▸ synced.crewed.addressable
  · intro index within
    have within : index < adapter.environment.agents.length := agentCount ▸ within
    have numbered : (adapter.agentAt index).id = index := synced.crewed.numbered index within
    change (after.agentAt index).id = index
    cases done : (adapter.agentAt index).done with
    | true => rw [(waited index within done).1, numbered]
    | false =>
        obtain ⟨action, member, rfl⟩ := List.mem_map.mp ((covered index).mpr ⟨within, done⟩)
        rw [(moved action member).1, MazeEnv.stepAgent_id]
        exact numbered
  · exact cursorCount.trans ((cursors ▸ length).trans agentCount.symm)
  · intro index within
    have within : index < adapter.environment.agents.length := agentCount ▸ within
    change Accounted (after.environment.frameId + 1) (after.agentAt index) (after.cursorAt index)
    cases done : (adapter.agentAt index).done with
    | true =>
        obtain ⟨agent, held⟩ := waited index within done
        rw [agent, held]
        exact ⟨fun _ => ⟨done, rfl⟩, nofun⟩
    | false =>
        obtain ⟨action, member, rfl⟩ := List.mem_map.mp ((covered index).mpr ⟨within, done⟩)
        rw [(moved action member).2]
        exact ⟨nofun, fun _ => by simpa using (prepared.actions action member).1⟩
  · exact congrArg (· + 1) frame

structure Fresh (adapter : Adapter) : Prop where
  frame : adapter.environment.frameId = 0
  running : ∀ index, (adapter.agentAt index).done = false
  active : ∀ index, (adapter.agentAt index).terminationReason = .active
  unblocked : ∀ index, (adapter.agentAt index).lastMoveBlocked = false
  empty : ∀ index, adapter.cursorAt index = {}

theorem begun_fresh (assignment : EpisodeAssignment) : (begun assignment adapter).Fresh := by
  have placed (index : Nat) : ((begun assignment adapter).agentAt index).done = false ∧
      ((begun assignment adapter).agentAt index).terminationReason = .active ∧
      ((begun assignment adapter).agentAt index).lastMoveBlocked = false := by
    simp only [agentAt, begun, MazeEnv.reset, List.getD_eq_getElem?_getD, List.getElem?_map]
    cases (adapter.environment.setMaxSteps _).agents[index]? <;> exact ⟨rfl, rfl, rfl⟩
  refine ⟨rfl, fun index => (placed index).1, fun index => (placed index).2.1,
    fun index => (placed index).2.2, fun index => ?_⟩
  · simp only [cursorAt, begun, List.getD_eq_getElem?_getD, List.getElem?_replicate]
    split <;> rfl

structure Given (assignment : EpisodeAssignment) (adapter : Adapter) : Prop where
  fresh : adapter.Fresh
  session : assignment.maxSteps = adapter.openResponse.spec.episodeMaxSteps
  limit : 0 < toInt32 assignment.maxSteps →
    adapter.environment.maxSteps = toInt32 assignment.maxSteps

theorem begun_given {phase : SessionPhase} {assignment : EpisodeAssignment}
    (accepted : adapter.acceptsAssignment phase assignment = true) :
    (begun assignment adapter).Given assignment where
  fresh := begun_fresh assignment
  session := by
    simp only [acceptsAssignment, Bool.and_eq_true, decide_eq_true_eq] at accepted
    exact accepted.1.1.2
  limit positive := by
    rw [begun, MazeEnv.reset, MazeEnv.setMaxSteps, if_pos positive]

theorem begun_synced (assignment : EpisodeAssignment) (crewed : adapter.environment.Crewed)
    (sound : adapter.chainFailed = false) : (begun assignment adapter).Synced := by
  have fresh := @begun_fresh adapter assignment
  have agents : (adapter.environment.setMaxSteps (toInt32 assignment.maxSteps)).agents =
      adapter.environment.agents := by
    unfold MazeEnv.setMaxSteps
    split <;> rfl
  have manned : (adapter.environment.setMaxSteps (toInt32 assignment.maxSteps)).Crewed := by
    obtain ⟨populated, addressable, numbered⟩ := crewed
    exact ⟨agents ▸ populated, agents ▸ addressable, agents ▸ numbered⟩
  refine ⟨manned.reset, ?_, sound, fun index _ => ?_⟩
  · simp [begun, MazeEnv.reset, agents]
  · rw [fresh.frame, fresh.empty]
    exact ⟨by simp, fun _ => rfl⟩

end Adapter

end MazeClient
