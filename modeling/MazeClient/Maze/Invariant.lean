import MazeClient.Maze.Moves

set_option autoImplicit false

namespace MazeClient

namespace MazeEnv

inductive EnvCall where
  | step (agentId actionId : Int)
  | advanceFrame
  | reset
  | setMaxSteps (maxSteps : Int)
  deriving DecidableEq

-- A Step that fails has changed nothing.
def call (environment : MazeEnv) : EnvCall → MazeEnv
  | .step agentId actionId =>
      match environment.step agentId actionId with
      | .ok next => next
      | .error _ => environment
  | .advanceFrame => environment.advanceFrame
  | .reset => environment.reset
  | .setMaxSteps maxSteps => environment.setMaxSteps maxSteps

def OnGoal (map : GridMap) (agent : AgentInfo) : Prop :=
  agent.gridX = map.endGx ∧ agent.gridY = map.endGy

structure AgentSound (map : GridMap) (agent : AgentInfo) : Prop where
  inRange : (0 ≤ agent.gridX ∧ agent.gridX < map.gridCols) ∧
    0 ≤ agent.gridY ∧ agent.gridY < map.gridRows
  walkable : map.isWalkable agent.gridX agent.gridY = true
  active : agent.done = false ↔ agent.terminationReason = .active
  goal : OnGoal map agent → agent.done = true ∧ agent.terminationReason = .goalReached
  timeLimit : agent.done = true → agent.terminationReason = .timeLimit → ¬ OnGoal map agent

/-- The invariant of the environment. -/
structure Sound (environment : MazeEnv) : Prop where
  start : environment.map.isWalkable environment.map.startGx environment.map.startGy = true
  apart : ¬ (environment.map.startGx = environment.map.endGx ∧
    environment.map.startGy = environment.map.endGy)
  agents : ∀ agent ∈ environment.agents, AgentSound environment.map agent

theorem Sound.placed {environment : MazeEnv} (sound : environment.Sound) (id : Nat) :
    AgentSound environment.map
      { id, gridX := environment.map.startGx, gridY := environment.map.startGy } where
  inRange := @GridMap.inside_of_walkable _ (_, _) sound.start
  walkable := sound.start
  active := by simp
  goal reached := absurd reached sound.apart
  timeLimit := nofun

def moveAgent (environment : MazeEnv) (agent : AgentInfo) (actionId : Int) : AgentInfo :=
  let (dx, dy) := actionDir actionId
  let canMove := environment.map.isActionAvailable agent actionId
  let moved :=
    if canMove then { agent with gridX := agent.gridX + dx, gridY := agent.gridY + dy } else agent
  { moved with lastMoveBlocked := actionId ≠ 0 && !canMove }

def terminateAgent (environment : MazeEnv) (moved : AgentInfo) : AgentInfo :=
  if environment.checkGoalReached moved then
    { moved with done := true, terminationReason := .goalReached }
  else if environment.checkTimeout then
    { moved with done := true, terminationReason := .timeLimit }
  else moved

theorem stepAgent_eq (environment : MazeEnv) (agent : AgentInfo) (actionId : Int) :
    environment.stepAgent agent actionId =
      environment.terminateAgent (environment.moveAgent agent actionId) := rfl

theorem moveAgent_flags (environment : MazeEnv) (agent : AgentInfo) (actionId : Int) :
    (environment.moveAgent agent actionId).done = agent.done ∧
      (environment.moveAgent agent actionId).terminationReason = agent.terminationReason := by
  unfold moveAgent
  dsimp only
  split <;> exact ⟨rfl, rfl⟩

theorem moveAgent_cell {environment : MazeEnv} {agent : AgentInfo} {actionId : Int}
    (live : agent.done = false) (valid : 0 ≤ actionId ∧ actionId ≤ 8) :
    ((environment.moveAgent agent actionId).gridX, (environment.moveAgent agent actionId).gridY) =
      if environment.map.isMoveAvailable agent.gridX agent.gridY actionId then
        (agent.gridX + (actionDir actionId).1, agent.gridY + (actionDir actionId).2)
      else (agent.gridX, agent.gridY) := by
  have available : environment.map.isActionAvailable agent actionId =
      environment.map.isMoveAvailable agent.gridX agent.gridY actionId := by
    rw [GridMap.isActionAvailable, if_neg]
    simp only [live, Bool.false_eq_true, false_or]
    omega
  unfold moveAgent
  rw [available]
  dsimp only
  split <;> rfl

theorem terminateAgent_cell (environment : MazeEnv) (moved : AgentInfo) :
    (environment.terminateAgent moved).gridX = moved.gridX ∧
      (environment.terminateAgent moved).gridY = moved.gridY := by
  unfold terminateAgent
  repeat' split
  all_goals exact ⟨rfl, rfl⟩

inductive Ending (environment : MazeEnv) (before after : AgentInfo) : Prop
  | goal (reached : OnGoal environment.map after) (done : after.done = true)
      (reason : after.terminationReason = .goalReached)
  | timeLimit (away : ¬ OnGoal environment.map after) (expired : environment.checkTimeout = true)
      (done : after.done = true) (reason : after.terminationReason = .timeLimit)
  | onward (away : ¬ OnGoal environment.map after) (time : environment.checkTimeout = false)
      (done : after.done = before.done)
      (reason : after.terminationReason = before.terminationReason)

theorem stepAgent_ending (environment : MazeEnv) (agent : AgentInfo) (actionId : Int) :
    Ending environment agent (environment.stepAgent agent actionId) := by
  obtain ⟨done, reason⟩ := moveAgent_flags environment agent actionId
  rw [stepAgent_eq]
  generalize environment.moveAgent agent actionId = moved at done reason
  unfold terminateAgent
  split
  case isTrue reached =>
    have reached : OnGoal environment.map moved := by
      simpa [checkGoalReached, OnGoal] using reached
    exact .goal reached rfl rfl
  case isFalse away =>
    have away : ¬ OnGoal environment.map moved := by
      simpa [checkGoalReached, OnGoal] using away
    split
    case isTrue expired => exact .timeLimit away expired rfl rfl
    case isFalse time => exact .onward away (by simpa using time) done reason

structure Moved (map : GridMap) (before after : AgentInfo) : Prop where
  offset : (after.gridX - before.gridX, after.gridY - before.gridY) ∈
    ((0 : Int), (0 : Int)) :: Grid.directions
  corners : after.gridX ≠ before.gridX → after.gridY ≠ before.gridY →
    map.isWalkable after.gridX before.gridY = true ∧
      map.isWalkable before.gridX after.gridY = true

theorem stepAgent_cell {environment : MazeEnv} {agent : AgentInfo} {actionId : Int}
    (live : agent.done = false) (valid : 0 ≤ actionId ∧ actionId ≤ 8) :
    ((environment.stepAgent agent actionId).gridX = agent.gridX ∧
        (environment.stepAgent agent actionId).gridY = agent.gridY) ∨
      Grid.Move environment.map.isWalkable (agent.gridX, agent.gridY)
        ((environment.stepAgent agent actionId).gridX,
          (environment.stepAgent agent actionId).gridY) := by
  have cell := @moveAgent_cell environment agent actionId live valid
  rw [stepAgent_eq, (terminateAgent_cell _ _).1, (terminateAgent_cell _ _).2]
  split at cell
  case isFalse => exact .inl (Prod.mk.inj cell)
  case isTrue available =>
    by_cases stay : actionId = 0
    · subst stay
      have still : actionDir 0 = (0, 0) := rfl
      rw [still] at cell
      exact .inl (by simpa using Prod.mk.inj cell)
    · rw [cell]
      exact .inr ((GridMap.isMoveAvailable_iff (by omega)).mp available)

theorem stepAgent_moved {environment : MazeEnv} {agent : AgentInfo} {actionId : Int}
    (live : agent.done = false) (valid : 0 ≤ actionId ∧ actionId ≤ 8) :
    Moved environment.map agent (environment.stepAgent agent actionId) := by
  rcases @stepAgent_cell environment agent actionId live valid with ⟨column, row⟩ | move
  · exact ⟨by simp [column, row], by simp [column]⟩
  · exact ⟨List.mem_cons_of_mem _ move.direction, move.corners⟩

theorem stepAgent_sound {environment : MazeEnv} {agent : AgentInfo} {actionId : Int}
    (sound : AgentSound environment.map agent) (live : agent.done = false)
    (valid : 0 ≤ actionId ∧ actionId ≤ 8) :
    AgentSound environment.map (environment.stepAgent agent actionId) := by
  have walkable : environment.map.isWalkable (environment.stepAgent agent actionId).gridX
      (environment.stepAgent agent actionId).gridY = true := by
    rcases @stepAgent_cell environment agent actionId live valid with ⟨column, row⟩ | move
    · rw [column, row]
      exact sound.walkable
    · exact move.target
  have inRange := @GridMap.inside_of_walkable _ (_, _) walkable
  have active := sound.active.mp live
  cases stepAgent_ending environment agent actionId with
  | goal reached done reason =>
      exact ⟨inRange, walkable, by simp [done, reason], fun _ => ⟨done, reason⟩,
        by simp [reason]⟩
  | timeLimit away expired done reason =>
      exact ⟨inRange, walkable, by simp [done, reason], fun reached => absurd reached away,
        fun _ _ => away⟩
  | onward away time done reason =>
      exact ⟨inRange, walkable, by simp [done, reason, live, active],
        fun reached => absurd reached away, fun _ _ => away⟩

/-- What a Step that succeeds has done. -/
structure Stepped (environment : MazeEnv) (agentId actionId : Int) (next : MazeEnv) : Prop where
  assigned : 0 ≤ agentId ∧ agentId < environment.agents.length
  valid : 0 ≤ actionId ∧ actionId ≤ 8
  live : (environment.agents.getD agentId.toNat {}).done = false
  next : next = { environment with
    agents := environment.agents.set agentId.toNat
      (environment.stepAgent (environment.agents.getD agentId.toNat {}) actionId) }

theorem step_stepped {environment next : MazeEnv} {agentId actionId : Int}
    (stepped : environment.step agentId actionId = .ok next) :
    Stepped environment agentId actionId next := by
  unfold step at stepped
  split at stepped
  · cases stepped
  case isFalse outside =>
  dsimp only at stepped
  split at stepped
  · cases stepped
  case isFalse live =>
  split at stepped
  · cases stepped
  case isFalse invalid =>
    exact ⟨by omega, by omega, by simpa using live, (Except.ok.inj stepped).symm⟩

theorem Sound.call {environment : MazeEnv} (sound : environment.Sound) (made : EnvCall) :
    (environment.call made).Sound := by
  cases made with
  | advanceFrame => exact ⟨sound.start, sound.apart, sound.agents⟩
  | reset =>
      refine ⟨sound.start, sound.apart, fun agent member => ?_⟩
      obtain ⟨before, -, rfl⟩ := List.mem_map.mp member
      exact sound.placed before.id
  | setMaxSteps maxSteps =>
      change (environment.setMaxSteps maxSteps).Sound
      unfold setMaxSteps
      split
      · exact ⟨sound.start, sound.apart, sound.agents⟩
      · exact sound
  | step agentId actionId =>
      unfold MazeEnv.call
      cases ran : environment.step agentId actionId with
      | error _ => simpa [ran] using sound
      | ok next =>
          obtain ⟨assigned, valid, live, rfl⟩ := step_stepped ran
          simp only [ran]
          refine ⟨sound.start, sound.apart, fun agent member => ?_⟩
          rcases List.mem_or_eq_of_mem_set member with old | rfl
          · exact sound.agents agent old
          · refine stepAgent_sound (sound.agents _ ?_) live valid
            rw [List.getD_eq_getElem _ _ (by omega)]
            exact List.getElem_mem _

theorem Sound.run {environment : MazeEnv} (sound : environment.Sound) (calls : List EnvCall) :
    (calls.foldl MazeEnv.call environment).Sound := by
  induction calls generalizing environment with
  | nil => exact sound
  | cons made calls ih => exact ih (sound.call made)

theorem call_done {environment : MazeEnv} {made : EnvCall} (kept : made ≠ .reset) {index : Nat}
    {agent : AgentInfo} (held : environment.agents[index]? = some agent)
    (done : agent.done = true) : (environment.call made).agents[index]? = some agent := by
  cases made with
  | reset => exact absurd rfl kept
  | advanceFrame => exact held
  | setMaxSteps maxSteps =>
      change (environment.setMaxSteps maxSteps).agents[index]? = some agent
      unfold setMaxSteps
      split <;> exact held
  | step agentId actionId =>
      unfold MazeEnv.call
      cases ran : environment.step agentId actionId with
      | error _ => simpa [ran] using held
      | ok next =>
          obtain ⟨assigned, valid, live, rfl⟩ := step_stepped ran
          simp only [ran]
          have apart : agentId.toNat ≠ index := by
            rintro rfl
            simp [List.getD_eq_getElem?_getD, held, done] at live
          rw [List.getElem?_set_ne apart]
          exact held

theorem run_done {environment : MazeEnv} {calls : List EnvCall} (kept : .reset ∉ calls)
    {index : Nat} {agent : AgentInfo} (held : environment.agents[index]? = some agent)
    (done : agent.done = true) :
    (calls.foldl MazeEnv.call environment).agents[index]? = some agent := by
  induction calls generalizing environment with
  | nil => exact held
  | cons made calls ih =>
      obtain ⟨first, rest⟩ := not_or.mp (List.mem_cons.not.mp kept)
      exact ih rest (call_done (Ne.symm first) held done)

theorem init_sound {load : String → GridMap → Bool × GridMap} {config : ClientConfig}
    {environment : MazeEnv} (initialised : (environment.init load config).1 = true) :
    (environment.init load config).2.Sound := by
  generalize ran : environment.init load config = result at initialised ⊢
  unfold init at ran
  dsimp only at ran
  split at ran
  · cases ran
    cases initialised
  split at ran
  · cases ran
    cases initialised
  split at ran
  · cases ran
    cases initialised
  case h_2 map located =>
  split at ran
  · cases ran
    cases initialised
  case isFalse open_ =>
  split at ran
  · cases ran
    cases initialised
  case isFalse reachable =>
  cases ran
  simp only [Bool.not_eq_true', not_or, Bool.not_eq_false] at open_
  obtain ⟨start, goal⟩ := open_
  have apart : ¬ (map.startGx = map.endGx ∧ map.startGy = map.endGy) := by
    rintro ⟨column, row⟩
    obtain ⟨answer, found, same⟩ := GridMap.computeShortestActionSteps_eq start goal
    rw [same] at reachable
    cases answer with
    | none => simp at reachable
    | some steps =>
        have least := found.2 0 (by rw [← column, ← row]; exact .here)
        simp [Nat.le_zero.mp least] at reachable
  refine ⟨start, apart, fun agent member => ?_⟩
  obtain ⟨id, -, rfl⟩ := List.mem_map.mp member
  exact @Sound.placed { map, agents := [] } ⟨start, apart, by simp⟩ id

def StepLaw (environment : MazeEnv) (agentId actionId : Int) : Prop :=
  match environment.step agentId actionId with
  | .error _ => environment.call (.step agentId actionId) = environment
  | .ok next => ∃ before after, environment.agents[agentId.toNat]? = some before ∧
      before.done = false ∧ Moved environment.map before after ∧
      next = { environment with agents := environment.agents.set agentId.toNat after }

theorem step_law (environment : MazeEnv) (agentId actionId : Int) :
    environment.StepLaw agentId actionId := by
  unfold StepLaw
  cases ran : environment.step agentId actionId with
  | error _ => simp [MazeEnv.call, ran]
  | ok next =>
      obtain ⟨assigned, valid, live, rfl⟩ := step_stepped ran
      have within : agentId.toNat < environment.agents.length := by omega
      rw [List.getD_eq_getElem _ _ within] at live ⊢
      exact ⟨_, _, List.getElem?_eq_getElem within, live, stepAgent_moved live valid, rfl⟩

/-- The environment invariant, over every sequence of calls after a successful Init. -/
theorem calls_sound {load : String → GridMap → Bool × GridMap} {config : ClientConfig}
    {environment : MazeEnv} (initialised : (environment.init load config).1 = true)
    (calls : List EnvCall) :
    let reached := calls.foldl call (environment.init load config).2
    reached.Sound ∧ (∀ agentId actionId, reached.StepLaw agentId actionId) ∧
      ∀ (later : List EnvCall) (index : Nat) (agent : AgentInfo), EnvCall.reset ∉ later →
        reached.agents[index]? = some agent → agent.done = true →
        (later.foldl call reached).agents[index]? = some agent := by
  intro reached
  exact ⟨(init_sound initialised).run calls, reached.step_law,
    fun later index agent kept held done => run_done kept held done⟩

theorem calls_sound_pair :
    let load : String → GridMap → Bool × GridMap := fun _ preset =>
      (true, { preset with
        gridSize := 10, gridCols := 2, gridRows := 1, endGx := 1, blocked := [false, false]
        startX := 5, startY := 5, endX := 15, endY := 5, hasAuthoritativeGrid := true })
    let config : ClientConfig := { run.agentNum := 1, env.mapFile := "pair.json" }
    (MazeEnv.init load config {}).1 = true ∧
      ([.setMaxSteps 5, .step 0 3].foldl call (MazeEnv.init load config {}).2).Sound := by
  intro load config
  have initialised : (MazeEnv.init load config {}).1 = true := by decide +kernel
  exact ⟨initialised, (calls_sound initialised _).1⟩

end MazeEnv

end MazeClient
