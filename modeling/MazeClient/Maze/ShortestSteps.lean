import MazeClient.Generator.BlockedGrid
import MazeClient.Maze.Invariant

set_option autoImplicit false

namespace MazeClient

structure SameGrid (map : GridMap) {cols rows : Nat} (blocked : BlockedGrid cols rows) : Prop where
  cols : map.gridCols = cols
  rows : map.gridRows = rows
  cells : map.blocked = blocked.cells

section

variable {map : GridMap} {cols rows : Nat} {blocked : BlockedGrid cols rows}

theorem SameGrid.walkable (same : SameGrid map blocked) : map.isWalkable = blocked.walkable := by
  funext gx gy
  unfold GridMap.isWalkable BlockedGrid.walkable
  rw [same.cols, same.rows, same.cells]
  by_cases inside : BlockedGrid.Within cols rows gx gy
  · have read := @BlockedGrid.getElem_cells cols rows blocked gx gy inside
    have reach : ¬ (gx < 0 ∨ (cols : Int) ≤ gx ∨ gy < 0 ∨ (rows : Int) ≤ gy) := by
      unfold BlockedGrid.Within at inside
      omega
    simp [reach, inside, List.getD_eq_getElem?_getD, read]
  · have out : gx < 0 ∨ (cols : Int) ≤ gx ∨ gy < 0 ∨ (rows : Int) ≤ gy := by
      unfold BlockedGrid.Within at inside
      omega
    simp [out, inside]

theorem SameGrid.shortest (same : SameGrid map blocked)
    (start : map.isWalkable map.startGx map.startGy = true)
    (goal : map.isWalkable map.endGx map.endGy = true) :
    map.computeShortestActionSteps =
      shortestActionSteps blocked map.startGx map.startGy map.endGx map.endGy := by
  obtain ⟨answer, found, value⟩ := GridMap.computeShortestActionSteps_eq start goal
  rw [same.walkable] at start goal found
  obtain ⟨other, sought, result⟩ := @shortestActionSteps_eq _ _ blocked (_, _) (_, _) start goal
  rw [value, result, found.unique sought]

end

structure SearchInside (cells : Nat) (next : Int → List Int) (start goal : Int) : Prop where
  ends : ∀ (turns : Nat) frontier,
    Search.Walk (Search.Turn next goal) (Search.Frontier.initial start) turns frontier →
      turns ≤ cells
  inside : ∀ (turns : Nat) frontier,
    Search.Walk (Search.Turn next goal) (Search.Frontier.initial start) turns frontier →
      ∀ current ∈ frontier.queue, (0 ≤ current ∧ current < cells) ∧
        ∀ number ∈ next current, 0 ≤ number ∧ number < cells

theorem searchInside {cols rows : Nat} {walkable : Int → Int → Bool} {next : Int → List Int}
    {start : Int × Int} (numbered : Grid.Numbered cols rows walkable next)
    (within : Grid.Inside cols rows start) (goal : Int) :
    SearchInside (cols * rows) next (Grid.index cols start) goal := by
  have positive : (0 : Int) < cols := by have := within.1; omega
  have closed := numbered.closed positive
  have origin := Grid.index_mem within
  have size : (Grid.indices cols rows).card = cols * rows := by
    rw [Grid.card_indices, ← Int.natCast_mul, Int.toNat_natCast]
  constructor
  · intro turns frontier taken
    have bound := (Search.turns_within closed origin taken).2
    omega
  · intro turns frontier taken current waiting
    have here := (Search.turns_within closed origin taken).1 current waiting
    have around := closed current here
    simp only [Grid.mem_indices, ← Int.natCast_mul] at here around
    exact ⟨here, around⟩

def AgentInfo.cell (agent : AgentInfo) : Int × Int := (agent.gridX, agent.gridY)

namespace MazeEnv

def stepMany (environment : MazeEnv) (agentId : Int) (actions : List Int) :
    Except String MazeEnv :=
  actions.foldlM (fun environment actionId => environment.step agentId actionId) environment

def Reaches (environment : MazeEnv) (agentId : Nat) (actions : List Int) : Prop :=
  ∃ next agent, environment.stepMany agentId actions = .ok next ∧
    next.agents[agentId]? = some agent ∧ OnGoal environment.map agent

section

variable {environment next : MazeEnv} {agentId : Nat} {agent : AgentInfo}

theorem stepMany_walk {actions : List Int} {start : Int × Int} {steps : Nat}
    (ran : environment.stepMany agentId actions = .ok next)
    (held : environment.agents[agentId]? = some agent)
    (walk : Search.Walk (Grid.Move environment.map.isWalkable) start steps agent.cell) :
    ∃ after others, next.agents[agentId]? = some after ∧ others ≤ steps + actions.length ∧
      Search.Walk (Grid.Move environment.map.isWalkable) start others after.cell := by
  induction actions generalizing environment agent steps with
  | nil =>
      obtain rfl : environment = next := Except.ok.inj ran
      exact ⟨agent, steps, held, le_rfl, walk⟩
  | cons actionId actions ih =>
      rw [stepMany, List.foldlM_cons] at ran
      cases first : environment.step agentId actionId with
      | error message =>
          rw [first] at ran
          cases ran
      | ok middle =>
          rw [first] at ran
          obtain ⟨assigned, valid, live, rfl⟩ := step_stepped first
          have within : agentId < environment.agents.length := by omega
          have same : environment.agents.getD agentId {} = agent := by
            rw [List.getD_eq_getElem?_getD, held, Option.getD_some]
          rw [Int.toNat_natCast, same] at live ran
          have placed : (environment.agents.set agentId
              (environment.stepAgent agent actionId))[agentId]? =
                some (environment.stepAgent agent actionId) := by
            rw [List.getElem?_set_self within]
          rcases @stepAgent_cell environment agent actionId live valid with ⟨column, row⟩ | move
          · have still : (environment.stepAgent agent actionId).cell = agent.cell :=
              Prod.ext column row
            obtain ⟨after, others, found, bound, whole⟩ := ih ran placed (still ▸ walk)
            exact ⟨after, others, found, by rw [List.length_cons]; omega, whole⟩
          · obtain ⟨after, others, found, bound, whole⟩ := ih ran placed (walk.step move)
            exact ⟨after, others, found, by rw [List.length_cons]; omega, whole⟩

theorem stepMany_append (environment : MazeEnv) (agentId actionId : Int) (actions : List Int) :
    environment.stepMany agentId (actions ++ [actionId]) =
      (environment.stepMany agentId actions).bind fun next => next.step agentId actionId := by
  rw [stepMany, List.foldlM_append]
  simp only [List.foldlM_cons, List.foldlM_nil, bind_pure]
  rfl

structure Arrived (environment next : MazeEnv) (agentId : Nat) (cell : Int × Int) : Prop where
  map : next.map = environment.map
  time : next.checkTimeout = false
  agent : ∃ agent, next.agents[agentId]? = some agent ∧ agent.cell = cell ∧
    (¬ OnGoal environment.map agent → agent.done = false)

theorem Arrived.step {cell target : Int × Int} (arrived : Arrived environment next agentId cell)
    (away : cell ≠ (environment.map.endGx, environment.map.endGy))
    (move : Grid.Move environment.map.isWalkable cell target) :
    ∃ actionId after, next.step agentId actionId = .ok after ∧
      Arrived environment after agentId target := by
  obtain ⟨map, time, agent, held, rfl, live⟩ := arrived
  have live : agent.done = false := live fun reached => away (Prod.ext reached.1 reached.2)
  obtain ⟨actionId, moving, rfl⟩ := GridMap.exists_action move
  have within : agentId < next.agents.length := (List.getElem?_eq_some_iff.mp held).1
  have same : next.agents.getD agentId {} = agent := by
    rw [List.getD_eq_getElem?_getD, held, Option.getD_some]
  have valid : 0 ≤ actionId ∧ actionId ≤ 8 := by omega
  have ran := @step_ok next agentId actionId within (same ▸ live) valid
  rw [same] at ran
  refine ⟨actionId, _, ran, map, time, _, List.getElem?_set_self within, ?_, fun away => ?_⟩
  · have available : next.map.isMoveAvailable agent.gridX agent.gridY actionId = true :=
      (GridMap.isMoveAvailable_iff moving).mpr (map ▸ move)
    have cell := @moveAgent_cell next agent actionId live valid
    rw [if_pos available] at cell
    rw [AgentInfo.cell, stepAgent_eq, (terminateAgent_cell _ _).1, (terminateAgent_cell _ _).2]
    exact cell
  · cases stepAgent_ending next agent actionId with
    | goal reached done reason => exact absurd (map ▸ reached) away
    | timeLimit _ expired done reason =>
        rw [time] at expired
        cases expired
    | onward _ _ done reason => exact done.trans live

-- A walk that meets the goal only at its end can be acted out.
theorem walk_stepMany {start cell : Int × Int} {steps : Nat}
    (arrived : Arrived environment environment agentId start)
    (walk : Search.Walk (Grid.Move environment.map.isWalkable) start steps cell)
    (first : ∀ fewer < steps, ¬ Search.Walk (Grid.Move environment.map.isWalkable) start fewer
      (environment.map.endGx, environment.map.endGy)) :
    ∃ actions next, actions.length = steps ∧ environment.stepMany agentId actions = .ok next ∧
      Arrived environment next agentId cell := by
  induction walk with
  | here => exact ⟨[], environment, rfl, rfl, arrived⟩
  | @step steps a b walk move ih =>
      obtain ⟨actions, next, length, ran, there⟩ :=
        ih fun fewer below => first fewer (by omega)
      have away : a ≠ (environment.map.endGx, environment.map.endGy) := by
        rintro rfl
        exact first steps (Nat.lt_succ_self _) walk
      obtain ⟨actionId, after, made, arrived⟩ := there.step away move
      refine ⟨actions ++ [actionId], after, by simp [length], ?_, arrived⟩
      rw [stepMany_append, ran]
      exact made

def LeastActions (environment : MazeEnv) (agentId : Nat) : Option Nat → Prop
  | some steps => (∃ actions, actions.length = steps ∧ environment.Reaches agentId actions) ∧
      ∀ actions, environment.Reaches agentId actions → steps ≤ actions.length
  | none => ∀ actions, ¬ environment.Reaches agentId actions

theorem Reaches.walk {actions : List Int} (reaches : environment.Reaches agentId actions)
    (held : environment.agents[agentId]? = some agent) :
    ∃ steps ≤ actions.length, Search.Walk (Grid.Move environment.map.isWalkable) agent.cell steps
      (environment.map.endGx, environment.map.endGy) := by
  obtain ⟨next, last, ran, found, column, row⟩ := reaches
  obtain ⟨after, steps, same, bound, walk⟩ := stepMany_walk ran held .here
  obtain rfl : last = after := Option.some.inj (found.symm.trans same)
  have cell : last.cell = (environment.map.endGx, environment.map.endGy) := Prod.ext column row
  exact ⟨steps, by simpa using bound, cell ▸ walk⟩

theorem leastActions (held : environment.agents[agentId]? = some agent)
    (live : agent.done = false) (time : environment.checkTimeout = false) {answer : Option Nat}
    (found : Search.Shortest (Grid.Move environment.map.isWalkable) agent.cell
      (environment.map.endGx, environment.map.endGy) answer) :
    environment.LeastActions agentId answer := by
  cases answer with
  | none =>
      intro actions reaches
      obtain ⟨steps, -, walk⟩ := reaches.walk held
      exact found steps walk
  | some steps =>
      obtain ⟨walk, least⟩ := found
      have arrived : Arrived environment environment agentId agent.cell :=
        ⟨rfl, time, agent, held, rfl, fun _ => live⟩
      obtain ⟨actions, next, length, ran, there⟩ := walk_stepMany arrived walk
        fun fewer below shorter => absurd (least fewer shorter) (by omega)
      obtain ⟨last, reached, cell, -⟩ := there.agent
      constructor
      · exact ⟨actions, length, next, last, ran, reached, Prod.mk.inj cell⟩
      · intro others reaches
        obtain ⟨fewer, bound, walk⟩ := reaches.walk held
        exact (least fewer walk).trans bound

end

theorem LeastActions.value {environment : MazeEnv} {agentId : Nat} {answer : Option Nat}
    (least : environment.LeastActions agentId answer) :
    (answer.elim (-1) (fun steps => (steps : Int)) = -1 ↔
      ∀ actions, ¬ environment.Reaches agentId actions) ∧
    ∀ steps : Nat, answer.elim (-1) (fun steps => (steps : Int)) = steps ↔
      (∃ actions, actions.length = steps ∧ environment.Reaches agentId actions) ∧
        ∀ actions, environment.Reaches agentId actions → steps ≤ actions.length := by
  cases answer with
  | none =>
      refine ⟨⟨fun _ => least, fun _ => rfl⟩, fun steps => ⟨fun same => ?_, ?_⟩⟩
      · simp only [Option.elim_none] at same
        omega
      · rintro ⟨⟨actions, -, reaches⟩, -⟩
        exact absurd reaches (least actions)
  | some answer =>
      obtain ⟨⟨actions, length, reaches⟩, shortest⟩ := least
      simp only [Option.elim_some]
      refine ⟨⟨fun same => ?_, fun none_ => absurd reaches (none_ actions)⟩,
        fun steps => ⟨fun same => ?_, ?_⟩⟩
      · omega
      · obtain rfl : answer = steps := by omega
        exact ⟨⟨actions, length, reaches⟩, shortest⟩
      · rintro ⟨⟨others, rfl, reach⟩, least⟩
        have below := shortest others reach
        have above := least actions reaches
        omega

/-- Both searches give the number of Steps an agent without a time limit needs. -/
theorem shortestSteps_least {cols rows : Nat} {blocked : BlockedGrid cols rows}
    {environment : MazeEnv} {agentId : Nat} {agent : AgentInfo}
    (same : SameGrid environment.map blocked)
    (start : environment.map.isWalkable environment.map.startGx environment.map.startGy = true)
    (goal : environment.map.isWalkable environment.map.endGx environment.map.endGy = true)
    (held : environment.agents[agentId]? = some agent) (live : agent.done = false)
    (placed : agent.cell = (environment.map.startGx, environment.map.startGy))
    (time : environment.checkTimeout = false) :
    let map := environment.map
    let value := map.computeShortestActionSteps
    let from_ := map.startGy * map.gridCols + map.startGx
    let to_ := map.endGy * map.gridCols + map.endGx
    value = MazeClient.shortestActionSteps blocked map.startGx map.startGy map.endGx map.endGy ∧
      (value = -1 ↔ ∀ actions, ¬ environment.Reaches agentId actions) ∧
      (∀ steps : Nat, value = steps ↔
        (∃ actions, actions.length = steps ∧ environment.Reaches agentId actions) ∧
          ∀ actions, environment.Reaches agentId actions → steps ≤ actions.length) ∧
      SearchInside (cols * rows) map.cellNeighbours from_ to_ ∧
      SearchInside (cols * rows) blocked.neighbours from_ to_ ∧
      ∀ gx gy, Grid.Inside map.gridCols map.gridRows (gx, gy) →
        (gy * map.gridCols + gx).toNat < map.blocked.length := by
  intro map value from_ to_
  obtain ⟨answer, found, result⟩ := GridMap.computeShortestActionSteps_eq start goal
  obtain ⟨unreachable, shortest⟩ := (leastActions held live time (placed ▸ found)).value
  have within : Grid.Inside cols rows (map.startGx, map.startGy) := by
    rw [← same.cols, ← same.rows]
    exact @GridMap.inside_of_walkable map (_, _) start
  have origin : from_ = Grid.index cols (map.startGx, map.startGy) := by
    rw [Grid.index, ← same.cols]
  have client : Grid.Numbered cols rows map.isWalkable map.cellNeighbours := by
    have numbered := map.numbered
    rwa [same.cols, same.rows] at numbered
  rw [origin]
  refine ⟨same.shortest start goal, ?_, fun steps => ?_, searchInside client within to_,
    searchInside blocked.numbered within to_, fun gx gy inside => ?_⟩
  · rw [show value = _ from result]
    exact unreachable
  · rw [show value = _ from result]
    exact shortest steps
  · rw [same.cols, same.rows] at inside
    rw [same.cols, same.cells]
    exact (List.getElem?_eq_some_iff.mp (BlockedGrid.getElem_cells inside)).1

theorem shortestSteps_least_detour :
    let blocked : BlockedGrid 3 2 := #v[#v[false, true, false], #v[false, false, false]]
    let map : GridMap := { gridCols := 3, gridRows := 2, endGx := 2, blocked := blocked.cells }
    let environment : MazeEnv := { map, agents := [{}], maxSteps := 2 }
    MazeClient.shortestActionSteps blocked 0 0 2 0 = 4 ∧
      ∀ actions, environment.Reaches 0 actions → 4 ≤ actions.length := by
  intro blocked map environment
  have same : SameGrid environment.map blocked := ⟨rfl, rfl, rfl⟩
  obtain ⟨agree, -, least, -⟩ := @shortestSteps_least 3 2 blocked environment 0 {} same
    (by decide +kernel) (by decide +kernel) rfl rfl rfl (by decide +kernel)
  have value : environment.map.computeShortestActionSteps = (4 : Nat) := by decide +kernel
  exact ⟨agree.symm.trans value, ((least 4).mp value).2⟩

end MazeEnv

end MazeClient
