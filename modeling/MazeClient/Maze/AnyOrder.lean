import MazeClient.Maze.StepLimit
import MazeClient.Maze.UpdateContract

set_option autoImplicit false

namespace MazeClient

open Wire

structure Reordered (request request' : UpdateReq) (response response' : UpdateRsp) : Prop where
  frameId : request.frameId = request'.frameId
  agents : request.agents.Perm request'.agents
  reply : response.reply = response'.reply
  batch : response.hasActionBatch = response'.hasActionBatch
  actions : response.actions.Perm response'.actions

section

variable {request request' : UpdateReq} {response response' : UpdateRsp}
  {current : List AgentExecutionCursor}

theorem Reordered.symm (reordered : Reordered request request' response response') :
    Reordered request' request response' response :=
  ⟨reordered.frameId.symm, reordered.agents.symm, reordered.reply.symm, reordered.batch.symm,
    reordered.actions.symm⟩

theorem Reordered.contract (reordered : Reordered request request' response response')
    (contract : AgentUpdateContract request response current) :
    AgentUpdateContract request' response' current := by
  have ids := reordered.agents.map AgentState.agentId
  have returned := reordered.actions.map AgentAction.agentId
  have states (state : AgentState) : state ∈ request'.agents ↔ state ∈ request.agents :=
    reordered.agents.symm.mem_iff
  refine ⟨contract.populated, ?_, ?_, fun agentId => ?_, ids.nodup_iff.mp contract.reportedOnce,
    fun state member => ?_, fun agentId => ?_, returned.nodup_iff.mp contract.assignedOnce,
    fun action member => ?_⟩
  · exact reordered.reply ▸ contract.accepted
  · exact reordered.batch ▸ contract.batch
  · rw [← ids.mem_iff]
    exact contract.reported agentId
  · rw [← reordered.frameId]
    exact contract.receipts state ((states state).mp member)
  · rw [← returned.mem_iff, contract.assigned agentId]
    simp only [states]
  · simp only [states]
    exact contract.actions action (reordered.actions.symm.mem_iff.mp member)

theorem settleReports_perm {states states' : List AgentState} (perm : states.Perm states')
    (distinct : (states.map AgentState.agentId).Nodup) (current : List AgentExecutionCursor) :
    settleReports states current = settleReports states' current := by
  have ids := perm.map AgentState.agentId
  obtain ⟨length, reported, kept⟩ := @settleReports_get states current distinct
  obtain ⟨length', reported', kept'⟩ :=
    @settleReports_get states' current (ids.nodup_iff.mp distinct)
  apply List.ext_getElem?
  intro index
  by_cases named : index ∈ states.map AgentState.agentId
  · obtain ⟨state, member, rfl⟩ := List.mem_map.mp named
    rw [reported state member, reported' state (perm.mem_iff.mp member)]
  · rw [kept index named, kept' index (ids.mem_iff.not.mp named)]

theorem Reordered.prepared (reordered : Reordered request request' response response')
    {candidate : List AgentExecutionCursor}
    (prepared : prepareAppliedAgentUpdate request response current = some candidate) :
    prepareAppliedAgentUpdate request' response' current = some candidate := by
  obtain ⟨checked, rfl⟩ := prepareAppliedAgentUpdate_iff.mp prepared
  have contract := reordered.contract checked.contract
  rw [settleReports_perm reordered.agents checked.reported.distinct]
  exact prepareAppliedAgentUpdate_iff.mpr ⟨contract.prepared, rfl⟩

theorem Reordered.prepare (reordered : Reordered request request' response response') :
    prepareAppliedAgentUpdate request response current =
      prepareAppliedAgentUpdate request' response' current := by
  apply Option.ext
  intro candidate
  exact ⟨reordered.prepared, reordered.symm.prepared⟩

end

namespace Adapter

def agentIndex (action : AgentAction) : Nat := (toInt32 action.agentId).toNat

structure Acted (adapter : Adapter) (action : AgentAction) (after : Adapter) : Prop where
  assigned : 0 ≤ toInt32 action.agentId ∧
    toInt32 action.agentId < adapter.environment.agents.length
  valid : 0 ≤ action.actionId ∧ action.actionId ≤ 8
  live : (adapter.agentAt (agentIndex action)).done = false
  free : (adapter.cursorAt (agentIndex action)).retired = false ∧
    (adapter.cursorAt (agentIndex action)).lastExecutedActionId = none
  after : after = { adapter with
    environment.agents := adapter.environment.agents.set (agentIndex action)
      (adapter.environment.stepAgent (adapter.agentAt (agentIndex action)) action.actionId)
    agentExecution := adapter.agentExecution.set (agentIndex action)
      { lastExecutedActionId := some action.actionId }
    lastActions := adapter.lastActions.set (agentIndex action) action.actionId }

inductive ActedAll : List AgentAction → Adapter → Adapter → Prop
  | nil (adapter : Adapter) : ActedAll [] adapter adapter
  | cons {action : AgentAction} {rest : List AgentAction} {adapter middle after : Adapter}
      (first : adapter.Acted action middle) (later : ActedAll rest middle after) :
      ActedAll (action :: rest) adapter after

variable {adapter middle after : Adapter} {action other : AgentAction}

theorem recordExecutedAction_iff {cursor recorded : AgentExecutionCursor} {actionId : Int} :
    recordExecutedAction cursor actionId = some recorded ↔
      (cursor.retired = false ∧ cursor.lastExecutedActionId = none) ∧
        isMazeActionId actionId = true ∧ recorded = { lastExecutedActionId := some actionId } := by
  obtain ⟨retired, last⟩ := cursor
  unfold recordExecutedAction
  cases retired <;> cases last <;> grind

theorem executeAssignedAction_iff {environment next : MazeEnv}
    {cursor recorded : AgentExecutionCursor} :
    executeAssignedAction environment cursor action = (none, next, recorded) ↔
      environment.step (toInt32 action.agentId) action.actionId = .ok next ∧
        recordExecutedAction cursor action.actionId = some recorded := by
  unfold executeAssignedAction
  cases environment.step (toInt32 action.agentId) action.actionId with
  | error message => simp
  | ok middle =>
      cases recordExecutedAction cursor action.actionId with
      | none => simp
      | some made => simp

theorem acted_iff : adapter.Acted action after ↔
    ∃ environment cursor, executeAssignedAction adapter.environment
        (adapter.cursorAt (agentIndex action)) action = (none, environment, cursor) ∧
      after = { adapter with
        environment
        agentExecution := adapter.agentExecution.set (agentIndex action) cursor
        lastActions := adapter.lastActions.set (agentIndex action) action.actionId } := by
  simp only [executeAssignedAction_iff, recordExecutedAction_iff]
  constructor
  · intro acted
    have index : toInt32 action.agentId = (agentIndex action : Int) :=
      (Int.toNat_of_nonneg acted.assigned.1).symm
    have within : agentIndex action < adapter.environment.agents.length := by
      have assigned := acted.assigned
      omega
    refine ⟨_, _, ⟨?_, acted.free, isMazeActionId_iff.mpr acted.valid, rfl⟩, acted.after⟩
    rw [index]
    exact MazeEnv.step_ok within acted.live acted.valid
  · rintro ⟨environment, cursor, ⟨ran, free, valid, rfl⟩, rfl⟩
    obtain ⟨assigned, valid, live, rfl⟩ := MazeEnv.step_stepped ran
    exact ⟨assigned, valid, live, free, rfl⟩

theorem executeActions_cons {rest : List AgentAction} :
    executeActions (action :: rest) adapter = (true, after) ↔
      ∃ middle, adapter.Acted action middle ∧ executeActions rest middle = (true, after) := by
  rw [executeActions]
  simp only [acted_iff, agentIndex]
  rcases executeAssignedAction adapter.environment
    (adapter.cursorAt (toInt32 action.agentId).toNat) action with ⟨error, environment, cursor⟩
  cases error with
  | some message => simp
  | none => simp

theorem executeActions_iff {actions : List AgentAction} :
    executeActions actions adapter = (true, after) ↔ ActedAll actions adapter after := by
  induction actions generalizing adapter with
  | nil =>
      constructor
      · intro ran
        cases ran
        exact .nil _
      · intro acted
        cases acted
        rfl
  | cons action rest ih =>
      rw [executeActions_cons]
      constructor
      · rintro ⟨middle, acted, later⟩
        exact .cons acted (ih.mp later)
      · intro all
        cases all with
        | cons acted later => exact ⟨_, acted, ih.mpr later⟩

theorem agentIndex_le (action : AgentAction) : agentIndex action ≤ action.agentId := by
  unfold agentIndex toInt32
  split <;> omega

theorem Acted.swap (first : adapter.Acted action middle) (second : middle.Acted other after)
    (held : agentIndex action < adapter.agentExecution.length) :
    ∃ between, adapter.Acted other between ∧ between.Acted action after := by
  obtain ⟨assigned, valid, live, free, rfl⟩ := first
  obtain ⟨assigned', valid', live', free', rfl⟩ := second
  have apart : agentIndex other ≠ agentIndex action := by
    intro same
    have last := free'.2
    simp [cursorAt, same, held] at last
  simp only [agentAt, cursorAt, getD_set, apart, false_and, if_false] at live' free'
  refine ⟨_, ⟨by simpa using assigned', valid', live', free', rfl⟩,
    ⟨by simpa using assigned, valid, ?_, ?_, ?_⟩⟩
  · simpa only [agentAt, getD_set, apart.symm, false_and, if_false] using live
  · simpa only [cursorAt, getD_set, apart.symm, false_and, if_false] using free
  · simp only [agentAt, getD_set, apart, apart.symm, false_and, if_false]
    rw [List.set_comm _ _ apart.symm, List.set_comm _ _ apart.symm, List.set_comm _ _ apart.symm]
    rfl

-- The induction is on the permutation, over adapters with a cursor for each action.
theorem ActedAll.perm {actions actions' : List AgentAction} (perm : actions.Perm actions')
    (held : ∀ action ∈ actions, agentIndex action < adapter.agentExecution.length)
    (all : ActedAll actions adapter after) : ActedAll actions' adapter after := by
  induction perm generalizing adapter with
  | nil => exact all
  | cons action perm ih =>
      cases all with
      | @cons _ _ _ middle _ first later =>
          refine .cons first (ih ?_ later)
          rw [first.after]
          simpa using fun other member => held other (List.mem_cons_of_mem _ member)
  | swap action other rest =>
      cases all with
      | cons first later =>
          cases later with
          | cons second later =>
              obtain ⟨between, second, first⟩ := first.swap second (held other List.mem_cons_self)
              exact .cons second (.cons first later)
  | trans first second ih ih' =>
      exact ih' (fun action member => held action (first.mem_iff.mpr member)) (ih held all)

theorem executeActions_perm {actions actions' : List AgentAction} (perm : actions.Perm actions')
    (held : ∀ action ∈ actions, agentIndex action < adapter.agentExecution.length) :
    executeActions actions adapter = (true, after) ↔
      executeActions actions' adapter = (true, after) := by
  rw [executeActions_iff, executeActions_iff]
  exact ⟨.perm perm held, .perm perm.symm fun action member =>
    held action (perm.mem_iff.mpr member)⟩

end Adapter

theorem UpdatePrepared.held {request : UpdateReq} {response : UpdateRsp}
    {current : List AgentExecutionCursor} (prepared : UpdatePrepared request response current)
    {action : AgentAction} (assigned : action ∈ response.actions) :
    Adapter.agentIndex action < (settleReports request.agents current).length := by
  obtain ⟨state, member, same, -⟩ := mem_expected.mp (prepared.actions action assigned).2.1
  obtain ⟨cursor, found, -⟩ := prepared.reported.live state member
  have within := (List.getElem?_eq_some_iff.mp found).1
  have least := Adapter.agentIndex_le action
  rw [(settleReports_get prepared.reported.distinct).1]
  omega

/-- The order of agents and actions decides nothing but how far a batch comes that cannot be
executed as a whole; and every batch that a run accepts can be. -/
theorem batch_any_order :
    (∀ (request request' : UpdateReq) (response response' : UpdateRsp)
      (current : List AgentExecutionCursor), Reordered request request' response response' →
      (∀ candidate, prepareAppliedAgentUpdateInto request' response' current candidate =
        prepareAppliedAgentUpdateInto request response current candidate) ∧
      ∀ adapter : Adapter,
        prepareAppliedAgentUpdate request response current = some adapter.agentExecution →
        let run := Adapter.executeActions response.actions adapter
        let run' := Adapter.executeActions response'.actions adapter
        run'.1 = run.1 ∧ (run.1 = true → run' = run)) ∧
    ∀ (outside : MazeOutside) (fuel : Nat) (options : ClientOptions) (connected : Bool)
      (config : ClientConfig) (environment : MazeEnv) (issue : Issue Adapter (.task .update))
      (earlier : List (Command Adapter)),
      ⟨.task .update, issue⟩ :: earlier <:+ (runSession fuel (mazeClientAdapter outside fuel)
        (World.start options connected (Adapter.start config environment))).2.commands →
      issue.outcome = some .applied →
      (Adapter.executeActions issue.response.actions (issue.task.accepted issue.response)).1 =
        true := by
  constructor
  · intro request request' response response' current reordered
    refine ⟨fun candidate => ?_, fun adapter accepted => ?_⟩
    · rw [prepareAppliedAgentUpdateInto, prepareAppliedAgentUpdateInto, reordered.prepare]
    obtain ⟨prepared, same⟩ := prepareAppliedAgentUpdate_iff.mp accepted
    intro run run'
    have executed (after : Adapter) : run = (true, after) ↔ run' = (true, after) :=
      Adapter.executeActions_perm reordered.actions fun action member => same ▸ prepared.held member
    have whole (after : Adapter) (ran : run = (true, after)) : run' = run :=
      ((executed after).mp ran).trans ran.symm
    cases first : run.1 with
    | true =>
        have same := whole run.2 (Prod.ext first rfl)
        exact ⟨(congrArg Prod.fst same).trans first, fun _ => same⟩
    | false =>
        refine ⟨Bool.eq_false_iff.mpr fun second => ?_, fun ran => absurd ran (by simp)⟩
        have ran := (executed run'.2).mpr (Prod.ext second rfl)
        simp [ran] at first
  · intro outside fuel options connected config environment issue earlier made applied
    have launched := ((mazeClientAdapter_left outside fuel options connected config
      environment).tracked.suffix made).newest.2
    obtain ⟨next, ran, -⟩ := launched.synced.apply (launched.prepared applied)
    exact Adapter.applyActions_executed (by rw [ran])

def pairAdapter (done : Bool) : Adapter :=
  { environment :=
      { map := { gridCols := 3, gridRows := 1, endGx := 2, blocked := [false, false, false] }
        agents := [{ id := 0 }, { id := 1, done }]
        maxSteps := 9 }
    lastActions := [0, 0]
    agentExecution := [{}, {}] }

def pairRequest : UpdateReq := { agents := [{ agentId := 0 }, { agentId := 1 }] }

def pairBatch (actions : List AgentAction) : UpdateRsp :=
  { reply := appliedReply .episodeRunning 1, control := .actionBatch actions }

theorem pairReordered : Reordered pairRequest
    { agents := [{ agentId := 1 }, { agentId := 0 }] }
    (pairBatch [{ agentId := 0, actionId := 3 }, { agentId := 1, actionId := 0 }])
    (pairBatch [{ agentId := 1, actionId := 0 }, { agentId := 0, actionId := 3 }]) :=
  ⟨rfl, .swap _ _ _, rfl, rfl, .swap _ _ _⟩

theorem batch_any_order_pair :
    (Adapter.executeActions [{ agentId := 1, actionId := 0 }, { agentId := 0, actionId := 3 }]
        (pairAdapter false)).2.environment.agents.map AgentInfo.gridX = [1, 0] ∧
      Adapter.executeActions [{ agentId := 1, actionId := 0 }, { agentId := 0, actionId := 3 }]
          (pairAdapter false) =
        Adapter.executeActions [{ agentId := 0, actionId := 3 }, { agentId := 1, actionId := 0 }]
          (pairAdapter false) ∧
      ∃ issue earlier, ⟨.task .update, issue⟩ :: earlier <:+ (idleRun 2).commands ∧
        issue.response.actions.length = 1 ∧
        (Adapter.executeActions issue.response.actions (issue.task.accepted issue.response)).1 =
          true := by
  have found : (lastUpdate (idleRun 2).commands).any (fun found =>
      found.1.outcome = some .applied ∧ found.1.response.actions.length = 1) = true := by
    decide +kernel
  obtain ⟨⟨issue, earlier⟩, last, same⟩ := Option.any_eq_true _ _ |>.mp found
  obtain ⟨applied, single⟩ := of_decide_eq_true same
  have reordered := batch_any_order.1 _ _ _ _ [{}, {}] pairReordered
  exact ⟨by decide +kernel, (reordered.2 (pairAdapter false) (by decide +kernel)).2
      (by decide +kernel), issue, earlier, lastUpdate_suffix last, single,
    batch_any_order.2 (idleServer 2) 4 {} true {} {} issue earlier (lastUpdate_suffix last) applied⟩

theorem failing_batch_ordered : ∃ request request' response response' adapter,
    Reordered request request' response response' ∧
      prepareAppliedAgentUpdate request response [{}, {}] = some adapter.agentExecution ∧
      (Adapter.executeActions response.actions adapter).2.environment.agents ≠
        (Adapter.executeActions response'.actions adapter).2.environment.agents :=
  ⟨_, _, _, _, pairAdapter true, pairReordered, by decide +kernel, by decide +kernel⟩

end MazeClient
