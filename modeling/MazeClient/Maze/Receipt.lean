import MazeClient.Maze.Environment
import MazeClient.Session.Cursor

set_option autoImplicit false

namespace MazeClient

open Wire

structure AgentExecutionCursor where
  retired : Bool := false
  lastExecutedActionId : Option Int := none
  deriving DecidableEq

def isMazeActionId (actionId : Int) : Bool := 0 ≤ actionId && actionId ≤ 8

def activeAgentCount (agents : List AgentExecutionCursor) : Nat :=
  agents.countP fun agent => !agent.retired

def attachExecutedActionReceipt (frameId : Nat) (cursor : AgentExecutionCursor)
    (state : AgentState) : Option AgentState :=
  if cursor.retired then none
  else if frameId = 0 then if cursor.lastExecutedActionId.isSome then none else some state
  else
    match cursor.lastExecutedActionId with
    | none => none
    | some actionId =>
        if isMazeActionId actionId then some { state with executedActionId := some actionId }
        else none

def recordExecutedAction (cursor : AgentExecutionCursor) (actionId : Int) :
    Option AgentExecutionCursor :=
  if cursor.retired ∨ cursor.lastExecutedActionId.isSome ∨ !isMazeActionId actionId then none
  else some { cursor with lastExecutedActionId := some actionId }

-- The error if it fails. A step already made is not taken back when the receipt is refused.
def executeAssignedAction (environment : MazeEnv) (cursor : AgentExecutionCursor)
    (action : AgentAction) : Option String × MazeEnv × AgentExecutionCursor :=
  match environment.step (toInt32 action.agentId) action.actionId with
  | .error error => (some error, environment, cursor)
  | .ok environment =>
      match recordExecutedAction cursor action.actionId with
      | none =>
          (some "executed action cannot be committed to the Agent receipt", environment, cursor)
      | some cursor => (none, environment, cursor)

def receiptMatches (frameId : Nat) (cursor : AgentExecutionCursor) (state : AgentState) : Bool :=
  if frameId = 0 then state.executedActionId.isNone && cursor.lastExecutedActionId.isNone
  else
    match state.executedActionId with
    | none => false
    | some actionId => isMazeActionId actionId && cursor.lastExecutedActionId = some actionId

def checkReports (frameId : Nat) (current : List AgentExecutionCursor) :
    List AgentState → List Nat → List Nat → Option (List Nat)
  | [], _, expected => some expected
  | state :: rest, reported, expected =>
      match current[state.agentId]? with
      | none => none
      | some cursor =>
          if cursor.retired ∨ state.agentId ∈ reported ∨ !receiptMatches frameId cursor state then
            none
          else
            checkReports frameId current rest (state.agentId :: reported)
              (if state.isDone then expected else state.agentId :: expected)

-- Only the first report of the agent with a mask counts.
def maskAdmits (agents : List AgentState) (action : AgentAction) : Bool :=
  match agents.find? fun state => state.agentId = action.agentId && !state.actionMask.isEmpty with
  | none => true
  | some state => state.actionMask.getD action.actionId.toNat false

def checkActions (agents : List AgentState) (expected : List Nat) :
    List AgentAction → List Nat → Bool
  | [], _ => true
  | action :: rest, returned =>
      if !isMazeActionId action.actionId ∨ action.agentId ∉ expected ∨ action.agentId ∈ returned ∨
          !maskAdmits agents action then false
      else checkActions agents expected rest (action.agentId :: returned)

def AgentExecutionCursor.reported (cursor : AgentExecutionCursor) (isDone : Bool) :
    AgentExecutionCursor :=
  { retired := cursor.retired || isDone, lastExecutedActionId := none }

def settleReports (states : List AgentState) (current : List AgentExecutionCursor) :
    List AgentExecutionCursor :=
  states.foldl (fun candidate state =>
    candidate.modify state.agentId fun cursor => cursor.reported state.isDone) current

def prepareAppliedAgentUpdate (request : UpdateReq) (response : UpdateRsp)
    (current : List AgentExecutionCursor) : Option (List AgentExecutionCursor) :=
  if current.isEmpty ∨ !response.hasActionBatch ∨ !commandAccepted response.reply ∨
      request.agents.length ≠ activeAgentCount current then none
  else
    match checkReports request.frameId current request.agents [] [] with
    | none => none
    | some expected =>
        if response.actions.length ≠ expected.length ∨
            !checkActions request.agents expected response.actions [] then none
        else some (settleReports request.agents current)

theorem checkReports_eq_some {frameId : Nat} {current : List AgentExecutionCursor}
    {states : List AgentState} {reported expected answer : List Nat} :
    checkReports frameId current states reported expected = some answer ↔
      (∀ state ∈ states, state.agentId ∉ reported ∧ ∃ cursor, current[state.agentId]? = some cursor ∧
        cursor.retired = false ∧ receiptMatches frameId cursor state = true) ∧
      (states.map AgentState.agentId).Nodup ∧
      answer = ((states.filter fun state => !state.isDone).map AgentState.agentId).reverse ++
        expected := by
  induction states generalizing reported expected with
  | nil => simp only [checkReports, Option.some.injEq]; grind
  | cons state rest ih =>
      rw [checkReports]
      cases found : current[state.agentId]? with
      | none => simp [found]
      | some cursor =>
          simp only
          split
          case isTrue refused =>
            simp only [false_iff, reduceCtorEq]
            rintro ⟨checked, -⟩
            obtain ⟨unreported, other, same, live, matched⟩ := checked state List.mem_cons_self
            obtain rfl : cursor = other := Option.some.inj (found.symm.trans same)
            simp [unreported, live, matched] at refused
          case isFalse taken =>
            have answers : ((state :: rest).filter fun state => !state.isDone).map
                AgentState.agentId = (if state.isDone then [] else [state.agentId]) ++
                  (rest.filter fun state => !state.isDone).map AgentState.agentId := by
              cases done : state.isDone <;> simp [done]
            rw [ih, answers, List.forall_mem_cons, List.map_cons, List.nodup_cons]
            have others : (∀ other ∈ rest, other.agentId ∉ state.agentId :: reported) ↔
                (∀ other ∈ rest, other.agentId ∉ reported) ∧
                  state.agentId ∉ rest.map AgentState.agentId := by
              simp only [List.mem_cons, List.mem_map]
              grind
            grind

theorem checkActions_iff {agents : List AgentState} {expected returned : List Nat}
    {actions : List AgentAction} : checkActions agents expected actions returned = true ↔
      (∀ action ∈ actions, isMazeActionId action.actionId = true ∧ action.agentId ∈ expected ∧
        action.agentId ∉ returned ∧ maskAdmits agents action = true) ∧
      (actions.map AgentAction.agentId).Nodup := by
  induction actions generalizing returned with
  | nil => simp [checkActions]
  | cons action rest ih =>
      rw [checkActions, List.forall_mem_cons, List.map_cons, List.nodup_cons]
      split
      case isTrue refused => grind
      case isFalse taken =>
        rw [ih]
        have others : (∀ other ∈ rest, other.agentId ∉ action.agentId :: returned) ↔
            (∀ other ∈ rest, other.agentId ∉ returned) ∧
              action.agentId ∉ rest.map AgentAction.agentId := by
          simp only [List.mem_cons, List.mem_map]
          grind
        grind

theorem settleReports_get {states : List AgentState} {current : List AgentExecutionCursor}
    (distinct : (states.map AgentState.agentId).Nodup) :
    (settleReports states current).length = current.length ∧
      (∀ state ∈ states, (settleReports states current)[state.agentId]? =
        current[state.agentId]?.map fun cursor => cursor.reported state.isDone) ∧
      ∀ index, index ∉ states.map AgentState.agentId →
        (settleReports states current)[index]? = current[index]? := by
  induction states generalizing current with
  | nil => simp [settleReports]
  | cons state rest ih =>
      obtain ⟨first, distinct⟩ := List.nodup_cons.mp distinct
      obtain ⟨length, reported, kept⟩ :=
        @ih (current.modify state.agentId fun cursor => cursor.reported state.isDone) distinct
      change (settleReports rest _).length = _ ∧
        (∀ other ∈ state :: rest, (settleReports rest _)[_]? = _) ∧
          ∀ index, _ → (settleReports rest _)[index]? = _
      refine ⟨by simpa using length, List.forall_mem_cons.mpr ⟨?_, ?_⟩, ?_⟩
      · rw [kept _ first, List.getElem?_modify]
        simp
      · intro other member
        have apart : state.agentId ≠ other.agentId :=
          fun same => first (same ▸ List.mem_map_of_mem member)
        rw [reported other member, List.getElem?_modify]
        simp [apart]
      · intro index outside
        simp only [List.map_cons, List.mem_cons, not_or] at outside
        rw [kept index outside.2, List.getElem?_modify]
        simp [Ne.symm outside.1]

def expectedActions (request : UpdateReq) : List Nat :=
  (request.agents.filter fun state => !state.isDone).map AgentState.agentId

structure Reported (request : UpdateReq) (current : List AgentExecutionCursor) : Prop where
  live : ∀ state ∈ request.agents, ∃ cursor, current[state.agentId]? = some cursor ∧
    cursor.retired = false ∧ receiptMatches request.frameId cursor state = true
  distinct : (request.agents.map AgentState.agentId).Nodup

theorem checkReports_iff {request : UpdateReq} {current : List AgentExecutionCursor}
    {expected : List Nat} :
    checkReports request.frameId current request.agents [] [] = some expected ↔
      Reported request current ∧ expected = (expectedActions request).reverse := by
  rw [checkReports_eq_some]
  simp only [List.not_mem_nil, not_false_eq_true, true_and, List.append_nil]
  exact ⟨fun ⟨live, distinct, same⟩ => ⟨⟨live, distinct⟩, same⟩,
    fun ⟨⟨live, distinct⟩, same⟩ => ⟨live, distinct, same⟩⟩

-- The checks of PrepareAppliedAgentUpdate that only look at the request.
def requestChecks (request : UpdateReq) (current : List AgentExecutionCursor) : Bool :=
  !current.isEmpty && request.agents.length = activeAgentCount current &&
    (checkReports request.frameId current request.agents [] []).isSome

structure UpdatePrepared (request : UpdateReq) (response : UpdateRsp)
    (current : List AgentExecutionCursor) : Prop where
  populated : current ≠ []
  batch : response.hasActionBatch = true
  accepted : commandAccepted response.reply = true
  count : request.agents.length = activeAgentCount current
  reported : Reported request current
  actions : ∀ action ∈ response.actions, isMazeActionId action.actionId = true ∧
    action.agentId ∈ expectedActions request ∧ maskAdmits request.agents action = true
  once : (response.actions.map AgentAction.agentId).Nodup
  complete : response.actions.length = (expectedActions request).length

theorem prepareAppliedAgentUpdate_iff {request : UpdateReq} {response : UpdateRsp}
    {current candidate : List AgentExecutionCursor} :
    prepareAppliedAgentUpdate request response current = some candidate ↔
      UpdatePrepared request response current ∧
        candidate = settleReports request.agents current := by
  unfold prepareAppliedAgentUpdate
  split
  case isTrue refused =>
    simp only [reduceCtorEq, false_iff]
    rintro ⟨prepared, -⟩
    simp [prepared.populated, prepared.batch, prepared.accepted, prepared.count] at refused
  case isFalse open_ =>
  simp only [List.isEmpty_iff, Bool.not_eq_true', not_or, ne_eq, Bool.not_eq_false,
    Decidable.not_not] at open_
  obtain ⟨populated, batch, accepted, count⟩ := open_
  cases checked : checkReports request.frameId current request.agents [] [] with
  | none =>
      simp only [reduceCtorEq, false_iff]
      rintro ⟨prepared, -⟩
      have answered := checkReports_iff.mpr ⟨prepared.reported, rfl⟩
      simp [checked] at answered
  | some expected =>
      obtain ⟨reported, rfl⟩ := checkReports_iff.mp checked
      have members := @checkActions_iff request.agents (expectedActions request).reverse []
        response.actions
      simp only [List.mem_reverse, List.not_mem_nil, not_false_eq_true, true_and] at members
      simp only [List.length_reverse]
      split
      case isTrue refused =>
        simp only [reduceCtorEq, false_iff]
        rintro ⟨prepared, -⟩
        have answered := members.mpr ⟨prepared.actions, prepared.once⟩
        simp [prepared.complete, answered] at refused
      case isFalse taken =>
        simp only [ne_eq, Bool.not_eq_true', not_or, Decidable.not_not, Bool.not_eq_false] at taken
        obtain ⟨actions, once⟩ := members.mp taken.2
        have prepared : UpdatePrepared request response current :=
          ⟨populated, batch, accepted, count, reported, actions, once, taken.1⟩
        simp [prepared, eq_comm]

-- As many distinct actions as agents expect one, all for such agents: nobody is left out.
theorem UpdatePrepared.covers {request : UpdateReq} {response : UpdateRsp}
    {current : List AgentExecutionCursor} (prepared : UpdatePrepared request response current)
    {agentId : Nat} (expected : agentId ∈ expectedActions request) :
    ∃ action ∈ response.actions, action.agentId = agentId := by
  have within : response.actions.map AgentAction.agentId ⊆ expectedActions request := by
    intro id member
    obtain ⟨action, returned, rfl⟩ := List.mem_map.mp member
    exact (prepared.actions action returned).2.1
  have same := (List.subperm_of_subset prepared.once within).perm_of_length_le
    (by rw [List.length_map, prepared.complete])
  exact List.mem_map.mp (same.mem_iff.mpr expected)

theorem attachExecutedActionReceipt_iff {frameId : Nat} {cursor : AgentExecutionCursor}
    {state attached : AgentState} :
    attachExecutedActionReceipt frameId cursor state = some attached ↔
      cursor.retired = false ∧
        if frameId = 0 then cursor.lastExecutedActionId = none ∧ attached = state
        else ∃ actionId, cursor.lastExecutedActionId = some actionId ∧
          isMazeActionId actionId = true ∧
            attached = { state with executedActionId := some actionId } := by
  obtain ⟨retired, last⟩ := cursor
  unfold attachExecutedActionReceipt
  cases retired <;> cases last <;> by_cases first : frameId = 0 <;> grind

theorem executeAssignedAction_eq {environment environment' : MazeEnv} {action : AgentAction}
    (stepped : environment.step (toInt32 action.agentId) action.actionId = .ok environment')
    (valid : isMazeActionId action.actionId = true) :
    executeAssignedAction environment {} action =
      (none, environment', { lastExecutedActionId := some action.actionId }) := by
  simp [executeAssignedAction, stepped, recordExecutedAction, valid]

end MazeClient
