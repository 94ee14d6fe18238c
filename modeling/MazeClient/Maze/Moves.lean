import MazeClient.Maze.Environment
import MazeClient.Shared.Grid
import Mathlib.Data.List.GetD

set_option autoImplicit false

namespace MazeClient

namespace GridMap

variable {map : GridMap}

theorem inside_of_walkable {cell : Int × Int} (walkable : map.isWalkable cell.1 cell.2 = true) :
    Grid.Inside map.gridCols map.gridRows cell := by
  unfold isWalkable at walkable
  split at walkable
  · cases walkable
  case isFalse inside =>
    unfold Grid.Inside
    omega

theorem actionDir_succ (n : Nat) :
    actionDir ((n : Int) + 1) = Grid.directions.getD n (0, 0) := by
  have number : ((n : Int) + 1).toNat = n + 1 := by omega
  rw [actionDir, number]
  rfl

theorem actionDir_mem {actionId : Int} (moving : 1 ≤ actionId ∧ actionId ≤ 8) :
    actionDir actionId ∈ Grid.directions := by
  obtain ⟨n, rfl⟩ : ∃ n : Nat, actionId = n + 1 := ⟨(actionId - 1).toNat, by omega⟩
  have within : n < Grid.directions.length := by
    change n < 8
    omega
  rw [actionDir_succ, List.getD_eq_getElem _ _ within]
  exact List.getElem_mem within

theorem isMoveAvailable_iff {gx gy actionId : Int} (moving : 1 ≤ actionId ∧ actionId ≤ 8) :
    map.isMoveAvailable gx gy actionId = true ↔ Grid.Move map.isWalkable (gx, gy)
      (gx + (actionDir actionId).1, gy + (actionDir actionId).2) := by
  have listed := actionDir_mem moving
  unfold isMoveAvailable
  generalize actionDir actionId = offset at listed ⊢
  obtain ⟨dx, dy⟩ := offset
  simp only [Bool.and_eq_true, Bool.or_eq_true, decide_eq_true_eq]
  constructor
  · rintro ⟨target, corners⟩
    refine ⟨by simpa using listed, target, fun across along => ?_⟩
    simp only [ne_eq, add_eq_left] at across along
    exact (corners.resolve_left (by simp [across, along]))
  · rintro ⟨-, target, corners⟩
    refine ⟨target, ?_⟩
    by_cases straight : dx = 0 ∨ dy = 0
    · exact .inl straight
    · obtain ⟨across, along⟩ := not_or.mp straight
      exact .inr (corners (by simpa using across) (by simpa using along))

theorem exists_action {a b : Int × Int} (move : Grid.Move map.isWalkable a b) :
    ∃ actionId : Int, (1 ≤ actionId ∧ actionId ≤ 8) ∧
      b = (a.1 + (actionDir actionId).1, a.2 + (actionDir actionId).2) := by
  have listed := move.direction
  have shape : b = (a.1 + (b.1 - a.1, b.2 - a.2).1, a.2 + (b.1 - a.1, b.2 - a.2).2) := by
    simp
  generalize (b.1 - a.1, b.2 - a.2) = offset at listed shape
  obtain ⟨n, within, rfl⟩ := List.getElem_of_mem listed
  have short : n < 8 := within
  refine ⟨n + 1, by omega, ?_⟩
  rw [actionDir_succ, List.getD_eq_getElem _ _ within]
  exact shape

theorem numbered (map : GridMap) :
    Grid.Numbered map.gridCols map.gridRows map.isWalkable map.cellNeighbours where
  bounded cell := inside_of_walkable
  moves a inside number := by
    unfold cellNeighbours
    rw [Grid.index_mod inside, Grid.index_div inside, List.mem_filterMap]
    constructor
    · rintro ⟨actionId, listed, made⟩
      have moving : 1 ≤ actionId ∧ actionId ≤ 8 := by
        simp only [List.mem_cons, List.not_mem_nil, or_false] at listed
        omega
      split at made
      case isTrue available =>
        exact ⟨_, (isMoveAvailable_iff moving).mp available, (Option.some.inj made).symm⟩
      case isFalse => cases made
    · rintro ⟨b, move, rfl⟩
      obtain ⟨actionId, moving, rfl⟩ := exists_action move
      refine ⟨actionId, ?_, ?_⟩
      · simp only [List.mem_cons, List.not_mem_nil, or_false]
        omega
      · rw [if_pos ((isMoveAvailable_iff moving).mpr move)]
        rfl

theorem computeShortestActionSteps_eq
    (start : map.isWalkable map.startGx map.startGy = true)
    (goal : map.isWalkable map.endGx map.endGy = true) :
    ∃ answer, Search.Shortest (Grid.Move map.isWalkable) (map.startGx, map.startGy)
        (map.endGx, map.endGy) answer ∧
      map.computeShortestActionSteps = answer.elim (-1) fun steps => (steps : Int) := by
  have from_ := @inside_of_walkable map (map.startGx, map.startGy) start
  have to_ := @inside_of_walkable map (map.endGx, map.endGy) goal
  have found : Search.Shortest (Grid.Move map.isWalkable) (map.startGx, map.startGy)
      (map.endGx, map.endGy) (Search.bfs map.cellNeighbours
        (Grid.index map.gridCols (map.endGx, map.endGy))
        ((map.gridCols * map.gridRows).toNat + 1)
        (Grid.index map.gridCols (map.startGx, map.startGy))) :=
    map.numbered.shortest from_ to_ (Nat.lt_succ_self _)
  refine ⟨_, found, ?_⟩
  have some_ : ¬ (map.gridCols ≤ 0 ∨ map.gridRows ≤ 0) := by
    unfold Grid.Inside at from_
    omega
  rw [computeShortestActionSteps, if_neg some_]
  dsimp only [Grid.index]
  split <;> simp_all

end GridMap

end MazeClient
