import MazeClient.Maze.StepLimit
import MazeClient.Maze.UpdateContract

set_option autoImplicit false

namespace MazeClient

open Wire

namespace MazeEnv

variable {environment later : MazeEnv} {agent : AgentInfo} {index : Nat} {actionId : Int}

theorem stepAll_apart {others : List AgentAction}
    (apart : ∀ action ∈ others, toInt32 action.agentId ≠ index)
    (ran : environment.stepAll others = .ok later) :
    later.agents[index]? = environment.agents[index]? := by
  induction others generalizing environment with
  | nil =>
      obtain rfl : environment = later := Except.ok.inj ran
      rfl
  | cons action others ih =>
      obtain ⟨first, rest⟩ := List.forall_mem_cons.mp apart
      rw [stepAll, List.foldlM_cons] at ran
      cases stepped : environment.step (toInt32 action.agentId) action.actionId with
      | error message =>
          rw [stepped] at ran
          cases ran
      | ok middle =>
          rw [stepped] at ran
          obtain ⟨assigned, -, -, rfl⟩ := step_stepped stepped
          rw [ih rest ran]
          exact List.getElem?_set_ne (by omega)

theorem getActionMask_get (held : environment.agents[index]? = some agent)
    (valid : 0 ≤ actionId ∧ actionId ≤ 8) :
    (environment.getActionMask index)[actionId.toNat]? =
      some (environment.map.isActionAvailable agent actionId) := by
  have actions : ([0, 1, 2, 3, 4, 5, 6, 7, 8] : List Int) =
      (List.range 9).map Int.ofNat := rfl
  have within : actionId.toNat < 9 := by omega
  have same : ((actionId.toNat : Nat) : Int) = actionId := Int.toNat_of_nonneg valid.1
  simp [getActionMask, held, actions, within, same]

theorem stepAgent_blocked (environment : MazeEnv) (agent : AgentInfo) (actionId : Int) :
    (environment.stepAgent agent actionId).lastMoveBlocked =
      (actionId ≠ 0 && !environment.map.isActionAvailable agent actionId) := by
  unfold stepAgent
  dsimp only
  repeat' split
  all_goals rfl

def Arrives (environment : MazeEnv) (index : Nat) (agent : AgentInfo) (actionId : Int) : Prop :=
  ∃ next after, environment.step index actionId = .ok next ∧ next.agents[index]? = some after ∧
    (after.gridX, after.gridY) =
      (agent.gridX + (actionDir actionId).1, agent.gridY + (actionDir actionId).2) ∧
    after.lastMoveBlocked = false

theorem isActionAvailable_zero (live : agent.done = false)
    (walkable : environment.map.isWalkable agent.gridX agent.gridY = true) :
    environment.map.isActionAvailable agent 0 = true := by
  have still : actionDir 0 = (0, 0) := rfl
  simp [GridMap.isActionAvailable, GridMap.isMoveAvailable, live, still, walkable]

theorem arrives_iff (held : environment.agents[index]? = some agent) (live : agent.done = false)
    (walkable : environment.map.isWalkable agent.gridX agent.gridY = true)
    (valid : 0 ≤ actionId ∧ actionId ≤ 8) :
    environment.Arrives index agent actionId ↔
      environment.map.isActionAvailable agent actionId = true := by
  obtain ⟨within, same⟩ := List.getElem?_eq_some_iff.mp held
  have present : environment.agents.getD index {} = agent := by
    rw [List.getD_eq_getElem _ _ within, same]
  have stepped := step_ok within (present ▸ live) valid
  rw [present] at stepped
  have put : (environment.agents.set index (environment.stepAgent agent actionId))[index]? =
      some (environment.stepAgent agent actionId) := List.getElem?_set_self within
  have blocked := stepAgent_blocked environment agent actionId
  have cell := @moveAgent_cell environment agent actionId live valid
  have available : environment.map.isActionAvailable agent actionId =
      environment.map.isMoveAvailable agent.gridX agent.gridY actionId := by
    rw [GridMap.isActionAvailable, if_neg]
    simp only [live, Bool.false_eq_true, false_or]
    omega
  rw [← (terminateAgent_cell environment _).1, ← (terminateAgent_cell environment _).2,
    ← stepAgent_eq, ← available] at cell
  constructor
  · rintro ⟨next, after, ran, reached, -, unblocked⟩
    obtain rfl := Except.ok.inj (stepped.symm.trans ran)
    obtain rfl : environment.stepAgent agent actionId = after :=
      Option.some.inj (put.symm.trans reached)
    by_cases stay : actionId = 0
    · rw [stay]
      exact isActionAvailable_zero live walkable
    · simpa [stay, unblocked] using blocked
  · intro open_
    refine ⟨_, _, stepped, put, ?_, ?_⟩
    · rw [cell, if_pos open_]
    · simp [blocked, open_]

/-- A mask against what the actions of its agent do, whatever the others do before. -/
structure MaskExact (environment : MazeEnv) (index : Nat) (agent : AgentInfo)
    (mask : List Bool) : Prop where
  bits : ∀ actionId : Int, 0 ≤ actionId ∧ actionId ≤ 8 → ∀ others later,
    (∀ action ∈ others, toInt32 action.agentId ≠ index) →
    environment.stepAll others = .ok later →
    (mask[actionId.toNat]? = some true ↔ later.Arrives index agent actionId)
  open_ : true ∈ mask

theorem Sound.maskExact (sound : environment.Sound)
    (held : environment.agents[index]? = some agent) (live : agent.done = false) :
    environment.MaskExact index agent (environment.getActionMask index) := by
  have walkable := (sound.agents agent (List.mem_of_getElem? held)).walkable
  refine ⟨fun actionId valid others later apart ran => ?_, ?_⟩
  · obtain ⟨agents, same⟩ := stepAll_same ran
    have map : later.map = environment.map := by rw [same]
    have kept := (stepAll_apart apart ran).trans held
    rw [getActionMask_get held valid, arrives_iff kept live (map ▸ walkable) valid, map,
      Option.some_inj]
  · have bit := getActionMask_get held (show 0 ≤ (0 : Int) ∧ (0 : Int) ≤ 8 by decide)
    rw [isActionAvailable_zero live walkable] at bit
    exact List.mem_of_getElem? bit

end MazeEnv

namespace Adapter

variable {adapter : Adapter} {actions : List AgentAction}

theorem observedState_mask {index : Nat} (live : (adapter.agentAt index).done = false)
    (required : adapter.openResponse.spec.actionMaskMode = .required) :
    (adapter.observedState index).actionMask = adapter.environment.getActionMask index := by
  simp [observedState, live, required]

theorem Synced.admitted (synced : adapter.Synced)
    (required : adapter.openResponse.spec.actionMaskMode = .required) {response : UpdateRsp}
    (prepared : UpdatePrepared adapter.observeUpdate.1 response adapter.agentExecution)
    {action : AgentAction} (assigned : action ∈ response.actions) :
    adapter.environment.map.isActionAvailable (adapter.agentAt action.agentId) action.actionId =
      true := by
  obtain ⟨valid, needed, masked⟩ := prepared.actions action assigned
  obtain ⟨within, live⟩ := (mem_expectedActions synced).mp needed
  have admits := (maskAdmits_iff prepared.reported.distinct).mp masked
  obtain ⟨state, member, named, -⟩ := mem_expected.mp needed
  rw [synced.observed] at member
  obtain ⟨index, listed, rfl⟩ := List.mem_map.mp member
  obtain rfl : index = action.agentId := (synced.named listed).symm.trans named
  have held : adapter.environment.agents[action.agentId]? = some (adapter.agentAt action.agentId) := by
    rw [agentAt, List.getD_eq_getElem _ _ within]
    exact List.getElem?_eq_getElem within
  have mask : (adapter.report action.agentId).actionMask =
      adapter.environment.getActionMask action.agentId := observedState_mask live required
  have bit := MazeEnv.getActionMask_get held (isMazeActionId_iff.mp valid)
  rw [← mask] at bit
  have some_ : (adapter.report action.agentId).actionMask ≠ [] := by
    intro none_
    simp [none_] at bit
  have open_ := admits _ (synced.observed ▸ member) (synced.named listed) some_
  exact Option.some.inj (bit.symm.trans open_)

def Unblocked (adapter : Adapter) : Prop :=
  ∀ index < adapter.environment.agents.length, (adapter.agentAt index).lastMoveBlocked = false

theorem Unblocked.next (unblocked : adapter.Unblocked) {after : Adapter}
    (frame : adapter.NextFrame actions after)
    (admitted : ∀ action ∈ actions, adapter.environment.map.isActionAvailable
      (adapter.agentAt action.agentId) action.actionId = true) : after.Unblocked := by
  intro index within
  have within : index < adapter.environment.agents.length := frame.agents ▸ within
  cases done : (adapter.agentAt index).done with
  | true =>
      rw [(frame.waited index within done).1]
      exact unblocked index within
  | false =>
      obtain ⟨action, member, rfl⟩ := List.mem_map.mp ((frame.covered index).mpr ⟨within, done⟩)
      rw [(frame.acted action member).1, MazeEnv.stepAgent_blocked, admitted action member]
      simp

end Adapter

theorem Issue.settled_openResponse (issue : Issue Adapter (.task .update)) :
    issue.settled.openResponse = issue.task.openResponse := by
  rw [Issue.settled]
  split
  · rw [Adapter.applyActions_openResponse]
    rfl
  · rfl

-- Under masks an episode goes on as it began: nobody is blocked.
theorem Tracked.unblocked {issue : Issue Adapter (.task .update)} {earlier : List (Command Adapter)}
    (tracked : Tracked (⟨.task .update, issue⟩ :: earlier))
    (required : issue.task.openResponse.spec.actionMaskMode = .required) :
    issue.task.Unblocked := by
  induction earlier generalizing issue with
  | nil => cases tracked.newest.2.positioned
  | cons command earlier ih =>
      have positioned := tracked.newest.2.positioned
      rw [List.head?_cons] at positioned
      unfold Positioned at positioned
      split at positioned
      case h_1 newest => exact fun index _ => positioned.fresh.unblocked index
      case h_2 before newest =>
        cases newest
        obtain ⟨applied, going, task⟩ := positioned
        obtain ⟨prior, launched⟩ := tracked.newest.1.newest
        rw [task, before.settled_openResponse] at required
        rw [task]
        exact (ih tracked.newest.1 required).next (launched.nextFrame applied going)
          fun action member =>
            launched.synced.admitted required (launched.prepared applied) member
      case h_3 => cases positioned

/-- A mask says of every action whether it can be executed when its turn comes, so where masks are
required no report of any run tells of a blocked move. -/
theorem action_masks_exact :
    (∀ (load : String → GridMap → Bool × GridMap) (config : ClientConfig) (environment : MazeEnv)
      (calls : List MazeEnv.EnvCall) (adapter : Adapter) (index : Nat),
      (environment.init load config).1 = true →
      adapter.environment = calls.foldl MazeEnv.call (environment.init load config).2 →
      adapter.openResponse.spec.actionMaskMode = .required →
      index < adapter.environment.agents.length → (adapter.agentAt index).done = false →
      adapter.environment.MaskExact index (adapter.agentAt index)
        (adapter.observedState index).actionMask) ∧
    ∀ (outside : MazeOutside) (fuel : Nat) (options : ClientOptions) (connected : Bool)
      (config : ClientConfig) (environment : MazeEnv) (issue : Issue Adapter (.task .update))
      (earlier : List (Command Adapter)),
      ⟨.task .update, issue⟩ :: earlier <:+ (runSession fuel (mazeClientAdapter outside fuel)
        (World.start options connected (Adapter.start config environment))).2.commands →
      issue.task.openResponse.spec.actionMaskMode = .required →
      ∀ state ∈ issue.request.agents, state.lastMoveBlocked = false := by
  constructor
  · intro load config environment calls adapter index initialised built required within live
    have sound : adapter.environment.Sound :=
      built ▸ (MazeEnv.init_sound initialised).run calls
    have held : adapter.environment.agents[index]? = some (adapter.agentAt index) := by
      rw [Adapter.agentAt, List.getD_eq_getElem _ _ within]
      exact List.getElem?_eq_getElem within
    rw [Adapter.observedState_mask live required]
    exact sound.maskExact held live
  · intro outside fuel options connected config environment issue earlier made required state member
    have tracked := (mazeClientAdapter_left outside fuel options connected config
      environment).tracked.suffix made
    have launched := tracked.newest.2
    have within := (Adapter.mem_liveAgents.mp (launched.state member).1).1
    rw [(launched.describes member).lastMoveBlocked]
    exact tracked.unblocked required _ within

def maskingServer : MazeOutside :=
  { idleServer 2 with
    attempt := fun tick rpc request =>
      match rpc, (idleServer 2).attempt tick rpc request with
      | .openSession, (context, response) =>
          (context, { response with environment := response.environment.map fun spec =>
            { spec with actionMaskMode := .required } })
      | .task _, answer => answer }

theorem action_masks_exact_pair :
    let load := maskingServer.loadMapFromFile 0
    let config : ClientConfig := { run.agentNum := 1, env.mapFile := "pair.json" }
    let adapter : Adapter :=
      { config, environment := (MazeEnv.init load config {}).2,
        openResponse.environment := some { actionMaskMode := .required } }
    adapter.environment.MaskExact 0 (adapter.agentAt 0)
        [true, false, false, true, false, false, false, false, false] ∧
      ∃ issue earlier, ⟨.task .update, issue⟩ :: earlier <:+ (runSession 4
          (mazeClientAdapter maskingServer 4)
          (World.start {} true (Adapter.start {} {}))).2.commands ∧
        issue.request.agents.length = 1 ∧
        ∀ state ∈ issue.request.agents, state.lastMoveBlocked = false := by
  intro load config adapter
  have mask : (adapter.observedState 0).actionMask =
      [true, false, false, true, false, false, false, false, false] := by decide +kernel
  have exact_ := action_masks_exact.1 load config {} [] adapter 0 (by decide +kernel) rfl rfl
    (by decide +kernel) (by decide +kernel)
  have found : (lastUpdate (runSession 4 (mazeClientAdapter maskingServer 4)
      (World.start {} true (Adapter.start {} {}))).2.commands).any (fun found =>
        found.1.request.agents.length = 1 ∧
          found.1.task.openResponse.spec.actionMaskMode = .required) = true := by decide +kernel
  obtain ⟨⟨issue, earlier⟩, last, same⟩ := Option.any_eq_true _ _ |>.mp found
  obtain ⟨single, required⟩ := of_decide_eq_true same
  exact ⟨mask ▸ exact_, issue, earlier, lastUpdate_suffix last, single,
    action_masks_exact.2 maskingServer 4 {} true {} {} issue earlier (lastUpdate_suffix last)
      required⟩

end MazeClient
