import MazeClient.Maze.LoadGenerated

set_option autoImplicit false

namespace MazeClient

open MapFile

/-- What a file of a generated map leaves in the members. -/
structure Loaded {n : Nat} (data : MapData) (blocked : BlockedGrid n n) (map : GridMap) : Prop where
  authoritative : map.hasAuthoritativeGrid = true
  grid : SameGrid map blocked
  gridSize : map.gridSize = data.gridSize
  start : map.startX = data.startPos.x ∧ map.startY = data.startPos.y
  goal : map.endX = data.endPos.x ∧ map.endY = data.endPos.y
  startGrid : (map.startGx, map.startGy) = data.startGrid
  goalGrid : (map.endGx, map.endGy) = data.goalGrid

section Load

variable {n : Nat} {data : MapData} {blocked : BlockedGrid n n} {files : String → Option Text}
  {path : String}

theorem microunits_hundredths {gridSize : ℚ} (two : Hundredths gridSize) :
    ∃ hundredths : Nat, microunits gridSize = (hundredths * 10000 : Nat) ∧
      gridSize * 1000000 = (hundredths * 10000 : Nat) := by
  obtain ⟨hundredths, equal⟩ := two
  have scaled : gridSize * 1000000 = ((hundredths * 10000 : Nat) : ℚ) := by
    push_cast
    linarith
  refine ⟨hundredths, ?_, scaled⟩
  unfold microunits
  rw [scaled, Int.floor_eq_iff]
  constructor <;> push_cast <;> linarith

theorem isGridSize_iff {gridSize : ℚ} (two : Hundredths gridSize) :
    isGridSize gridSize = true ↔ 0 < gridSize ∧ gridSize * 1000000 ≤ 4294967295 := by
  obtain ⟨hundredths, whole, scaled⟩ := microunits_hundredths two
  have cast : (0 : ℚ) < hundredths ↔ 0 < hundredths := Nat.cast_pos
  have positive : 0 < gridSize ↔ 0 < hundredths := by
    rw [← cast]
    push_cast at scaled
    constructor <;> intro <;> linarith
  have bound : ((hundredths * 10000 : Nat) : ℚ) ≤ 4294967295 ↔ hundredths * 10000 ≤ 4294967295 := by
    exact_mod_cast Iff.rfl
  simp only [isGridSize, Bool.and_eq_true, decide_eq_true_eq, whole, scaled, positive, bound]
  omega

theorem load_json (sound : data.Sound blocked) (found : files path = some data.json)
    (sized : isGridSize data.gridSize = true) (small : n * n ≤ 2147483647) (map : GridMap) :
    ∃ loaded, loadMapFromFile files path map = (true, loaded) ∧ Loaded data blocked loaded := by
  unfold loadMapFromFile
  have dim := few_columns small
  simp only [found, findString_encoding sound, findDouble_gridSize sound sized, sized, header,
    startPos_json sound sized dim, endPos_json sound sized dim]
  rw [if_neg (by simp), if_pos trivial, loadGrid_json sound sized small, mapId_eq]
  exact ⟨_, rfl, rfl, ⟨rfl, rfl, rfl⟩, rfl, ⟨rfl, rfl⟩, ⟨rfl, rfl⟩, rfl, rfl⟩

theorem load_refused (sound : data.Sound blocked) (found : files path = some data.json)
    (large : ¬ (isGridSize data.gridSize = true ∧ n * n ≤ 2147483647)) (map : GridMap) :
    (loadMapFromFile files path map).1 = false := by
  unfold loadMapFromFile
  simp only [found, findString_encoding sound, isGridSize_json sound]
  rw [if_neg (by simp)]
  split
  case isTrue sized => exact loadGrid_refused sound (fun small => large ⟨sized, small⟩) _
  case isFalse => rfl

end Load

structure GridMap.Agrees (map : GridMap) : Prop where
  startGx : map.startGx = map.toGridX map.startX
  startGy : map.startGy = map.toGridY map.startY
  endGx : map.endGx = map.toGridX map.endX
  endGy : map.endGy = map.toGridY map.endY

structure GridMap.Playable (map : GridMap) : Prop where
  start : map.isWalkable map.startGx map.startGy = true
  goal : map.isWalkable map.endGx map.endGy = true
  reachable : 0 < map.computeShortestActionSteps

theorem GridMap.located_authoritative {map : GridMap} (authoritative : map.hasAuthoritativeGrid = true) :
    (map.Agrees ∧ map.located = some map) ∨ (¬ map.Agrees ∧ map.located = none) := by
  unfold located
  simp only [authoritative, if_true]
  split
  case isTrue apart =>
    refine .inr ⟨fun agrees => ?_, rfl⟩
    rcases apart with apart | apart | apart | apart
    · exact apart agrees.startGx
    · exact apart agrees.startGy
    · exact apart agrees.endGx
    · exact apart agrees.endGy
  case isFalse same =>
    simp only [not_or, not_not] at same
    exact .inl ⟨⟨same.1, same.2.1, same.2.2.1, same.2.2.2⟩, rfl⟩

section Init

variable {load : String → GridMap → Bool × GridMap} {config : ClientConfig} {environment : MazeEnv}

theorem init_refused (refused : ∀ map, (load config.env.mapFile map).1 = false) :
    (environment.init load config).1 = false := by
  unfold MazeEnv.init
  dsimp only
  split
  · rfl
  · rw [if_pos (by simp [refused])]

theorem init_loaded {P : GridMap → Prop} (named : config.env.mapFile ≠ "")
    (crew : 1 ≤ config.run.agentNum)
    (answers : ∀ map, ∃ loaded, load config.env.mapFile map = (true, loaded) ∧ P loaded)
    (authoritative : ∀ map, P map → map.hasAuthoritativeGrid = true) :
    ∃ loaded, P loaded ∧
      ((environment.init load config).1 = true ↔ loaded.Agrees ∧ loaded.Playable) ∧
      ((environment.init load config).1 = true → (environment.init load config).2.map = loaded) := by
  have assigned : ¬ (config.env.mapFile = "" ∨ config.run.agentNum ≤ 0) := by
    rintro (empty | none_)
    · exact named empty
    · omega
  unfold MazeEnv.init
  dsimp only
  rw [if_neg assigned]
  generalize (GridMap.mk _ _ _ _ _ _ _ _ _ _ _ _ _ _ _ _ _) = preset
  obtain ⟨loaded, answer, holds⟩ := answers preset
  refine ⟨loaded, holds, ?_⟩
  simp only [answer]
  rcases GridMap.located_authoritative (authoritative loaded holds) with
    ⟨agrees, located⟩ | ⟨apart, located⟩
  · simp only [located]
    rw [if_neg (by decide)]
    by_cases shut : (!loaded.isWalkable loaded.startGx loaded.startGy) = true ∨
      (!loaded.isWalkable loaded.endGx loaded.endGy) = true
    · rw [if_pos shut]
      refine ⟨⟨nofun, fun ⟨_, playable⟩ => ?_⟩, nofun⟩
      simp [playable.start, playable.goal] at shut
    rw [if_neg shut]
    by_cases stuck : loaded.computeShortestActionSteps ≤ 0
    · rw [if_pos stuck]
      exact ⟨⟨nofun, fun ⟨_, playable⟩ => absurd playable.reachable (by omega)⟩, nofun⟩
    rw [if_neg stuck]
    simp only [not_or, Bool.not_eq_true', Bool.not_eq_false] at shut
    exact ⟨⟨fun _ => ⟨agrees, shut.1, shut.2, by omega⟩, fun _ => rfl⟩, fun _ => rfl⟩
  · simp only [located]
    rw [if_neg (by decide)]
    exact ⟨⟨nofun, fun ⟨agrees, _⟩ => (apart agrees).elim⟩, nofun⟩

end Init

def Loads {n : Nat} (data : MapData) (blocked : BlockedGrid n n) (pathLength : Int) : Prop :=
  ∀ (files : String → Option Text) (config : ClientConfig) (environment : MazeEnv) (difficulty : Int),
    files config.env.mapFile = some { data with difficulty }.json → config.env.mapFile ≠ "" →
    1 ≤ config.run.agentNum →
      let result := environment.init (loadMapFromFile files) config
      result.1 = true ∧ SameGrid result.2.map blocked ∧
        (result.2.map.startGx, result.2.map.startGy) = data.startGrid ∧
        (result.2.map.endGx, result.2.map.endGy) = data.goalGrid ∧
        result.2.map.computeShortestActionSteps = pathLength

section Generated

variable {n : Nat} {data : MapData} {blocked : BlockedGrid n n}

-- A cell off the border keeps its number through the clamp exactly when it is the floor.
theorem clamp_eq {count at_ value : Int} (low : 0 < at_) (high : at_ < count - 1) :
    at_ = max 0 (min (count - 1) value) ↔ value = at_ := by
  omega

theorem MapData.Sound.withDifficulty (sound : data.Sound blocked) (difficulty : Int) :
    MapData.Sound { data with difficulty } blocked :=
  ⟨sound.mapId, sound.plainId, sound.cols, sound.rows, sound.gridSize, sound.startPos, sound.endPos,
    sound.startGrid, sound.goalGrid, sound.bitmap, sound.walls, sound.drawn, sound.reach⟩

def Interior (n : Nat) (cell : Int × Int) : Prop :=
  (0 < cell.1 ∧ cell.1 < (n : Int) - 1) ∧ 0 < cell.2 ∧ cell.2 < (n : Int) - 1

theorem Loaded.cells {map : GridMap} (loaded : Loaded data blocked map) :
    (map.startGx = data.startGrid.1 ∧ map.startGy = data.startGrid.2) ∧
      map.endGx = data.goalGrid.1 ∧ map.endGy = data.goalGrid.2 :=
  ⟨Prod.ext_iff.mp loaded.startGrid, Prod.ext_iff.mp loaded.goalGrid⟩

theorem Loaded.agrees_iff {map : GridMap} (loaded : Loaded data blocked map)
    (start : Interior n data.startGrid) (goal : Interior n data.goalGrid) :
    map.Agrees ↔
      (⌊data.startPos.x / data.gridSize⌋ = data.startGrid.1 ∧
        ⌊data.startPos.y / data.gridSize⌋ = data.startGrid.2) ∧
      ⌊data.endPos.x / data.gridSize⌋ = data.goalGrid.1 ∧
        ⌊data.endPos.y / data.gridSize⌋ = data.goalGrid.2 := by
  obtain ⟨⟨startGx, startGy⟩, endGx, endGy⟩ := loaded.cells
  have agrees : map.Agrees ↔ (map.startGx = map.toGridX map.startX ∧
      map.startGy = map.toGridY map.startY) ∧ map.endGx = map.toGridX map.endX ∧
      map.endGy = map.toGridY map.endY :=
    ⟨fun agrees => ⟨⟨agrees.1, agrees.2⟩, agrees.3, agrees.4⟩,
      fun ⟨⟨first, second⟩, third, fourth⟩ => ⟨first, second, third, fourth⟩⟩
  rw [agrees, startGx, startGy, endGx, endGy, loaded.start.1, loaded.start.2, loaded.goal.1,
    loaded.goal.2]
  unfold GridMap.toGridX GridMap.toGridY
  rw [loaded.grid.cols, loaded.grid.rows, loaded.gridSize, clamp_eq start.1.1 start.1.2,
    clamp_eq start.2.1 start.2.2, clamp_eq goal.1.1 goal.1.2, clamp_eq goal.2.1 goal.2.2]

theorem shortestActionSteps_walkable {start goal : Int × Int}
    (reachable : 0 < shortestActionSteps blocked start.1 start.2 goal.1 goal.2) :
    blocked.walkable start.1 start.2 = true ∧ blocked.walkable goal.1 goal.2 = true := by
  by_contra shut
  have none_ : shortestActionSteps blocked start.1 start.2 goal.1 goal.2 = -1 := by
    unfold shortestActionSteps
    rw [if_pos]
    simp only [Bool.or_eq_true, Bool.not_eq_true']
    by_contra both
    simp only [not_or, Bool.not_eq_false] at both
    exact shut both
  omega

theorem Loaded.playable {map : GridMap} (loaded : Loaded data blocked map)
    (reachable : 0 < shortestActionSteps blocked data.startGrid.1 data.startGrid.2 data.goalGrid.1
      data.goalGrid.2) :
    map.Playable ∧ map.computeShortestActionSteps = shortestActionSteps blocked data.startGrid.1
      data.startGrid.2 data.goalGrid.1 data.goalGrid.2 := by
  obtain ⟨⟨startGx, startGy⟩, endGx, endGy⟩ := loaded.cells
  obtain ⟨open_, open'⟩ := shortestActionSteps_walkable reachable
  have start : map.isWalkable map.startGx map.startGy = true := by
    rw [loaded.grid.walkable, startGx, startGy]
    exact open_
  have goal : map.isWalkable map.endGx map.endGy = true := by
    rw [loaded.grid.walkable, endGx, endGy]
    exact open'
  have steps := loaded.grid.shortest start goal
  rw [startGx, startGy, endGx, endGy] at steps
  exact ⟨⟨start, goal, steps ▸ reachable⟩, steps⟩

variable {pathLength : Int}

theorem loads_iff (sound : data.Sound blocked) (start : Interior n data.startGrid)
    (goal : Interior n data.goalGrid)
    (path : shortestActionSteps blocked data.startGrid.1 data.startGrid.2 data.goalGrid.1
      data.goalGrid.2 = pathLength) (reachable : 0 < pathLength) :
    Loads data blocked pathLength ↔
      (isGridSize data.gridSize = true ∧ n * n ≤ 2147483647) ∧
      (⌊data.startPos.x / data.gridSize⌋ = data.startGrid.1 ∧
        ⌊data.startPos.y / data.gridSize⌋ = data.startGrid.2) ∧
      ⌊data.endPos.x / data.gridSize⌋ = data.goalGrid.1 ∧
        ⌊data.endPos.y / data.gridSize⌋ = data.goalGrid.2 := by
  subst path
  constructor
  · intro loads
    let config : ClientConfig := { run := { agentNum := 1 }, env := { mapFile := "map" } }
    have taken := loads (fun _ => some data.json) config {} data.difficulty rfl (by decide) (by decide)
    have fits : isGridSize data.gridSize = true ∧ n * n ≤ 2147483647 := by
      by_contra large
      have refused : (MazeEnv.init (loadMapFromFile fun _ => some data.json) config {}).1 = false :=
        init_refused fun map => load_refused sound rfl large map
      exact absurd taken.1 (by rw [refused]; decide)
    obtain ⟨map, loaded, answer, -⟩ := @init_loaded (loadMapFromFile fun _ => some data.json) config {}
      (Loaded data blocked) (by decide) (by decide)
      (fun map => load_json sound rfl fits.1 fits.2 map) fun map loaded => loaded.authoritative
    exact ⟨fits, (loaded.agrees_iff start goal).mp (answer.mp taken.1).1⟩
  · rintro ⟨fits, centred⟩ files config environment difficulty found named crew
    have sound' := sound.withDifficulty difficulty
    obtain ⟨map, loaded, answer, held⟩ := @init_loaded (loadMapFromFile files) config environment
      (Loaded { data with difficulty } blocked) named crew
      (fun map => load_json sound' found fits.1 fits.2 map) fun map loaded => loaded.authoritative
    have same : Loaded data blocked map := ⟨loaded.1, loaded.2, loaded.3, loaded.4, loaded.5, loaded.6,
      loaded.7⟩
    have initialised := answer.mpr ⟨(same.agrees_iff start goal).mpr centred, (same.playable reachable).1⟩
    intro result
    have members : result.2.map = map := held initialised
    rw [members]
    exact ⟨initialised, same.grid, same.startGrid, same.goalGrid, (same.playable reachable).2⟩

end Generated

end MazeClient
