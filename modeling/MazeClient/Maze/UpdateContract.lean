import MazeClient.Maze.Receipt

set_option autoImplicit false

namespace MazeClient

open Wire

def prepareAppliedAgentUpdateInto (request : UpdateReq) (response : UpdateRsp)
    (current candidate : List AgentExecutionCursor) : Bool × List AgentExecutionCursor :=
  match prepareAppliedAgentUpdate request response current with
  | some prepared => (true, prepared)
  | none => (false, candidate)

/-- What an Update and its reply owe each other. -/
structure AgentUpdateContract (request : UpdateReq) (response : UpdateRsp)
    (current : List AgentExecutionCursor) : Prop where
  populated : current ≠ []
  accepted : commandAccepted response.reply = true
  batch : response.hasActionBatch = true
  reported : ∀ agentId, agentId ∈ request.agents.map AgentState.agentId ↔
    ∃ cursor, current[agentId]? = some cursor ∧ cursor.retired = false
  reportedOnce : (request.agents.map AgentState.agentId).Nodup
  receipts : ∀ state ∈ request.agents, ∀ cursor, current[state.agentId]? = some cursor →
    if request.frameId = 0 then
      state.executedActionId = none ∧ cursor.lastExecutedActionId = none
    else ∃ actionId, state.executedActionId = some actionId ∧ (0 ≤ actionId ∧ actionId ≤ 8) ∧
      cursor.lastExecutedActionId = some actionId
  assigned : ∀ agentId, agentId ∈ response.actions.map AgentAction.agentId ↔
    ∃ state ∈ request.agents, state.agentId = agentId ∧ state.isDone = false
  assignedOnce : (response.actions.map AgentAction.agentId).Nodup
  actions : ∀ action ∈ response.actions, (0 ≤ action.actionId ∧ action.actionId ≤ 8) ∧
    ∀ state ∈ request.agents, state.agentId = action.agentId → state.actionMask ≠ [] →
      state.actionMask[action.actionId.toNat]? = some true

def liveIndices (current : List AgentExecutionCursor) : List Nat :=
  (List.range current.length).filter fun index => !(current.getD index {}).retired

theorem mem_liveIndices {current : List AgentExecutionCursor} {index : Nat} :
    index ∈ liveIndices current ↔
      ∃ cursor, current[index]? = some cursor ∧ cursor.retired = false := by
  rw [liveIndices, List.mem_filter, List.mem_range]
  constructor
  · rintro ⟨within, live⟩
    exact ⟨_, List.getElem?_eq_getElem within, by simpa [within] using live⟩
  · rintro ⟨cursor, held, live⟩
    obtain ⟨within, rfl⟩ := List.getElem?_eq_some_iff.mp held
    exact ⟨within, by simpa [within] using live⟩

theorem length_liveIndices (current : List AgentExecutionCursor) :
    (liveIndices current).length = activeAgentCount current := by
  have counted : activeAgentCount current =
      ((List.range current.length).map fun index => current.getD index {}).countP
        fun agent => !agent.retired := by
    rw [activeAgentCount]
    congr 1
    apply List.ext_getElem (by simp)
    intro index within _
    simp [within]
  rw [counted, List.countP_map, liveIndices, ← List.countP_eq_length_filter]
  rfl

theorem isMazeActionId_iff {actionId : Int} :
    isMazeActionId actionId = true ↔ 0 ≤ actionId ∧ actionId ≤ 8 := by
  simp [isMazeActionId]

theorem receiptMatches_iff {frameId : Nat} {cursor : AgentExecutionCursor} {state : AgentState} :
    receiptMatches frameId cursor state = true ↔
      if frameId = 0 then state.executedActionId = none ∧ cursor.lastExecutedActionId = none
      else ∃ actionId, state.executedActionId = some actionId ∧ (0 ≤ actionId ∧ actionId ≤ 8) ∧
        cursor.lastExecutedActionId = some actionId := by
  unfold receiptMatches
  split
  · simp
  · split <;> simp_all [isMazeActionId_iff]

-- Each agent has one report, so the first one with a mask is the agent's own.
theorem maskAdmits_iff {agents : List AgentState} {action : AgentAction}
    (distinct : (agents.map AgentState.agentId).Nodup) :
    maskAdmits agents action = true ↔ ∀ state ∈ agents, state.agentId = action.agentId →
      state.actionMask ≠ [] → state.actionMask[action.actionId.toNat]? = some true := by
  unfold maskAdmits
  split
  case h_1 missing =>
    simp only [true_iff]
    intro state member same masked
    have unmatched := List.find?_eq_none.mp missing state member
    simp [same, masked] at unmatched
  case h_2 state found =>
    have member := List.mem_of_find?_eq_some found
    have matched := List.find?_some found
    simp only [Bool.and_eq_true, decide_eq_true_eq, Bool.not_eq_true', List.isEmpty_eq_false_iff]
      at matched
    have admitted : state.actionMask.getD action.actionId.toNat false = true ↔
        state.actionMask[action.actionId.toNat]? = some true := by
      rw [List.getD_eq_getElem?_getD]
      cases state.actionMask[action.actionId.toNat]? <;> simp
    rw [admitted]
    constructor
    · intro held other known same _
      obtain rfl : other = state :=
        List.inj_on_of_nodup_map distinct known member (same.trans matched.1.symm)
      exact held
    · exact fun all => all state member matched.1 matched.2

theorem mem_expected {request : UpdateReq} {agentId : Nat} :
    agentId ∈ expectedActions request ↔
      ∃ state ∈ request.agents, state.agentId = agentId ∧ state.isDone = false := by
  simp only [expectedActions, List.mem_map, List.mem_filter, Bool.not_eq_true']
  grind

theorem expectedActions_nodup {request : UpdateReq}
    (distinct : (request.agents.map AgentState.agentId).Nodup) : (expectedActions request).Nodup :=
  distinct.sublist (List.filter_sublist.map _)

-- As many distinct reports as live cursors, all for such cursors: the two are the same.
theorem UpdatePrepared.contract {request : UpdateReq} {response : UpdateRsp}
    {current : List AgentExecutionCursor} (prepared : UpdatePrepared request response current) :
    AgentUpdateContract request response current where
  populated := prepared.populated
  accepted := prepared.accepted
  batch := prepared.batch
  reported agentId := by
    have within : request.agents.map AgentState.agentId ⊆ liveIndices current := by
      intro id member
      obtain ⟨state, reported, rfl⟩ := List.mem_map.mp member
      obtain ⟨cursor, held, live, -⟩ := prepared.reported.live state reported
      exact mem_liveIndices.mpr ⟨cursor, held, live⟩
    have same := (List.subperm_of_subset prepared.reported.distinct within).perm_of_length_le
      (by rw [List.length_map, prepared.count, length_liveIndices])
    exact same.mem_iff.trans mem_liveIndices
  reportedOnce := prepared.reported.distinct
  receipts state member cursor held := by
    obtain ⟨other, same, -, matched⟩ := prepared.reported.live state member
    obtain rfl : cursor = other := Option.some.inj (held.symm.trans same)
    exact receiptMatches_iff.mp matched
  assigned agentId := by
    rw [← mem_expected]
    constructor
    · intro returned
      obtain ⟨action, member, rfl⟩ := List.mem_map.mp returned
      exact (prepared.actions action member).2.1
    · intro expected
      obtain ⟨action, member, rfl⟩ := prepared.covers expected
      exact List.mem_map_of_mem member
  assignedOnce := prepared.once
  actions action member := by
    obtain ⟨valid, -, admitted⟩ := prepared.actions action member
    exact ⟨isMazeActionId_iff.mp valid, (maskAdmits_iff prepared.reported.distinct).mp admitted⟩

theorem AgentUpdateContract.prepared {request : UpdateReq} {response : UpdateRsp}
    {current : List AgentExecutionCursor} (contract : AgentUpdateContract request response current) :
    UpdatePrepared request response current where
  populated := contract.populated
  batch := contract.batch
  accepted := contract.accepted
  count := by
    have same : (request.agents.map AgentState.agentId).Perm (liveIndices current) :=
      (List.perm_ext_iff_of_nodup contract.reportedOnce (List.nodup_range.filter _)).mpr
        fun agentId => (contract.reported agentId).trans mem_liveIndices.symm
    rw [← length_liveIndices, ← same.length_eq, List.length_map]
  reported := by
    refine ⟨fun state member => ?_, contract.reportedOnce⟩
    obtain ⟨cursor, held, live⟩ := (contract.reported _).mp (List.mem_map_of_mem member)
    exact ⟨cursor, held, live, receiptMatches_iff.mpr (contract.receipts state member cursor held)⟩
  actions action member := by
    obtain ⟨valid, masked⟩ := contract.actions action member
    refine ⟨isMazeActionId_iff.mpr valid, ?_, (maskAdmits_iff contract.reportedOnce).mpr masked⟩
    exact mem_expected.mpr ((contract.assigned _).mp (List.mem_map_of_mem member))
  once := contract.assignedOnce
  complete := by
    have same : (response.actions.map AgentAction.agentId).Perm (expectedActions request) :=
      (List.perm_ext_iff_of_nodup contract.assignedOnce
        (expectedActions_nodup contract.reportedOnce)).mpr
        fun agentId => (contract.assigned agentId).trans mem_expected.symm
    rw [← same.length_eq, List.length_map]

structure Settled (request : UpdateReq) (current settled : List AgentExecutionCursor) : Prop where
  length : settled.length = current.length
  reported : ∀ state ∈ request.agents, ∀ cursor, current[state.agentId]? = some cursor →
    settled[state.agentId]? = some
      { retired := cursor.retired || state.isDone, lastExecutedActionId := none }
  others : ∀ index, index ∉ request.agents.map AgentState.agentId →
    settled[index]? = current[index]?

/-- PrepareAppliedAgentUpdate answers true exactly on the contract, and only then writes the
candidate. -/
theorem prepareAppliedAgentUpdate_contract (request : UpdateReq) (response : UpdateRsp)
    (current candidate : List AgentExecutionCursor) :
    let answer := prepareAppliedAgentUpdateInto request response current candidate
    (answer.1 = true ↔ AgentUpdateContract request response current) ∧
      (answer.1 = true → Settled request current answer.2) ∧
      (answer.1 = false → answer.2 = candidate) := by
  unfold prepareAppliedAgentUpdateInto
  cases answered : prepareAppliedAgentUpdate request response current with
  | none =>
      refine ⟨⟨nofun, fun contract => ?_⟩, nofun, fun _ => rfl⟩
      have some_ := prepareAppliedAgentUpdate_iff.mpr ⟨contract.prepared, rfl⟩
      simp [answered] at some_
  | some settled =>
      obtain ⟨prepared, rfl⟩ := prepareAppliedAgentUpdate_iff.mp answered
      obtain ⟨length, reported, others⟩ :=
        @settleReports_get request.agents current prepared.reported.distinct
      refine ⟨⟨fun _ => prepared.contract, fun _ => rfl⟩, fun _ => ⟨length, ?_, others⟩, nofun⟩
      intro state member cursor held
      simp [reported state member, held, AgentExecutionCursor.reported]

end MazeClient
