import MazeClient.Generator.RoomGraph

set_option autoImplicit false

namespace MazeClient

namespace MapParams

variable {params : MapParams} {edgeSet : WallEdgeSet} {start goal room : Room} {rng : Rng}

theorem roomDim_pos : 2 ≤ params.roomDim := by
  unfold roomDim
  split <;> omega

theorem within_map (sized : 1 ≤ params.roomSize) (inside : room.Inside params.roomDim)
    {dx dy : Int} (right : 0 ≤ dx ∧ dx < params.stride) (up : 0 ≤ dy ∧ dy < params.stride) :
    BlockedGrid.Within (outDim params.roomDim params.roomSize)
      (outDim params.roomDim params.roomSize) (room.1 * params.stride + 1 + dx)
      (room.2 * params.stride + 1 + dy) :=
  MazeClient.within_map sized inside right up

def Solvable (params : MapParams) : Prop :=
  3 ≤ params.roomSize ∨ params.roomSize = 1 ∨ params.roomObstacleDensity ≤ 0

theorem furnish_keeps (solvable : params.Solvable) {gx gy dx dy : Int}
    (column : gx = room.1 * params.stride + 1 + dx) (row : gy = room.2 * params.stride + 1 + dy)
    (right : 0 ≤ dx ∧ dx < params.stride) (up : 0 ≤ dy ∧ dy < params.stride)
    (spared : dx = 0 ∨ dy = 0 ∨ room = start ∨ room = goal)
    (opened : (edgesToBlockedGrid edgeSet params.roomDim params.roomSize).cell gx gy = false) :
    (params.furnish edgeSet start goal rng).walkable gx gy = true := by
  rw [BlockedGrid.walkable_iff]
  apply clearBlockedSafeZone_keeps
  apply clearBlockedSafeZone_keeps
  split
  case isFalse => exact opened
  case isTrue furnished =>
    apply addRoomObstacles_keeps opened
    intro other ox oy away away' cell
    have large : 3 ≤ params.roomSize := by
      rcases solvable with large | small | sparse
      · exact large
      · omega
      · exact absurd furnished.1 (not_lt.mpr sparse)
    refine ⟨large, ?_⟩
    rintro ⟨⟨low, high⟩, low', high'⟩
    have across := cell.column
    have along := cell.row
    change gx = other.1 * params.stride + 1 + ox at across
    change gy = other.2 * params.stride + 1 + oy at along
    have wide : params.stride = params.roomSize + 1 := rfl
    obtain ⟨sameX, rfl⟩ := offset_unique right.1 right.2 (by omega) (by omega)
      (show room.1 * params.stride + dx = other.1 * params.stride + ox by omega)
    obtain ⟨sameY, rfl⟩ := offset_unique up.1 up.2 (by omega) (by omega)
      (show room.2 * params.stride + dy = other.2 * params.stride + oy by omega)
    have same : room = other := Prod.ext sameX sameY
    have near : Room.Near 1 other other := by simp [Room.Near]
    rcases spared with corner | corner | rfl | rfl
    · omega
    · omega
    · exact away (same ▸ near)
    · exact away' (same ▸ near)

def anchor (params : MapParams) (room : Room) : Int × Int :=
  (room.1 * params.stride + 1, room.2 * params.stride + 1)

theorem furnish_edgesOpen (solvable : params.Solvable) :
    EdgesOpen edgeSet params.roomDim params.roomSize
      (params.furnish edgeSet start goal rng).walkable := by
  intro room inside dx dy right up edge opened
  exact furnish_keeps solvable rfl rfl right up (or_assoc.mp (.inl edge)) opened

theorem joined_connected (solvable : params.Solvable) (sized : 1 ≤ params.roomSize)
    {a b : Room} (joined : Joined edgeSet a b) (dim : edgeSet.gridDim = params.roomDim) :
    Grid.Connected (params.furnish edgeSet start goal rng).walkable (params.anchor a)
      (params.anchor b) :=
  (furnish_edgesOpen solvable).joined sized joined dim

-- The whole room of the start and of the goal is clear.
theorem centre_connected (solvable : params.Solvable) (sized : 1 ≤ params.roomSize)
    (inside : room.Inside params.roomDim) (spared : room = start ∨ room = goal) :
    Grid.Connected (params.furnish edgeSet start goal rng).walkable (params.anchor room)
        (params.centre room) ∧
      (params.furnish edgeSet start goal rng).walkable (params.centre room).1
        (params.centre room).2 = true := by
  apply MazeClient.centre_connected sized
  intro dx dy right up
  have wide : params.stride = params.roomSize + 1 := rfl
  exact furnish_keeps solvable rfl rfl (by omega) (by omega) (.inr (.inr spared))
    (room_open sized inside right up)

theorem furnish_solvable (solvable : params.Solvable) (sized : 1 ≤ params.roomSize)
    (from_ : start.Inside params.roomDim) (to_ : goal.Inside params.roomDim) (apart : start ≠ goal)
    (joined : Joined edgeSet start goal) (dim : edgeSet.gridDim = params.roomDim) :
    0 < shortestActionSteps (params.furnish edgeSet start goal rng) (params.centre start).1
      (params.centre start).2 (params.centre goal).1 (params.centre goal).2 := by
  obtain ⟨leave, startOpen⟩ := @centre_connected params edgeSet start goal start rng solvable sized
    from_ (.inl rfl)
  obtain ⟨enter, goalOpen⟩ := @centre_connected params edgeSet start goal goal rng solvable sized
    to_ (.inr rfl)
  obtain ⟨steps, walk⟩ := Grid.Connected.walk
    ((leave.symm.trans (joined_connected solvable sized joined dim)).trans enter)
  obtain ⟨answer, found, same⟩ := shortestActionSteps_eq startOpen goalOpen
  rw [same]
  cases answer with
  | none => exact absurd walk (found steps)
  | some least =>
      obtain ⟨walk, -⟩ := found
      cases least with
      | zero =>
          generalize goes : params.centre goal = there at walk
          cases walk
          exact absurd (roomCentre_injective sized goes).symm apart
      | succ least => simp

theorem roomOf_inside (position : Point) : (params.roomOf position).Inside params.roomDim := by
  have positive := @roomDim_pos params
  unfold roomOf
  exact ⟨by simp, by simp; omega, by simp, by simp; omega⟩

theorem generateRandomStartEnd_inside {gridDim minDistance : Int} (some_ : 0 < gridDim)
    {tries : Nat} {rng rng' : Rng} {start goal : Room}
    (selected : generateRandomStartEnd gridDim minDistance tries rng =
      (some (start, goal), rng')) : start.Inside gridDim ∧ goal.Inside gridDim := by
  have drawn (rng : Rng) : 0 ≤ (rng.randint 0 (gridDim - 1)).1 ∧
      (rng.randint 0 (gridDim - 1)).1 < gridDim := by
    have bounds := @Rng.randint_bounds rng 0 (gridDim - 1) (by omega)
    omega
  induction tries generalizing rng with
  | zero => simp [generateRandomStartEnd] at selected
  | succ tries ih =>
      rw [generateRandomStartEnd] at selected
      dsimp only at selected
      split at selected
      · cases selected
        exact ⟨⟨(drawn _).1, (drawn _).2, (drawn _).1, (drawn _).2⟩,
          ⟨(drawn _).1, (drawn _).2, (drawn _).1, (drawn _).2⟩⟩
      · exact ih selected

theorem selectRooms_inside {rng' : Rng}
    (selected : params.selectRooms rng = .ok (some (start, goal), rng')) :
    start.Inside params.roomDim ∧ goal.Inside params.roomDim := by
  have positive := @roomDim_pos params
  unfold selectRooms at selected
  split at selected
  case h_1 =>
    split at selected
    · cases selected
    · cases selected
      exact ⟨roomOf_inside _, roomOf_inside _⟩
  case h_2 => exact generateRandomStartEnd_inside (by omega) (Except.ok.inj selected)
  case h_3 =>
    cases selected
    exact ⟨⟨by simp, by simp; omega, by simp, by simp; omega⟩,
      ⟨by simp; omega, by simp, by simp; omega, by simp⟩⟩

theorem carve_joined {seeded : Rng} (from_ : room.Inside params.roomDim) {other : Room}
    (to_ : other.Inside params.roomDim) :
    (params.openSafeZones (params.carve seeded).1 start goal).gridDim = params.roomDim ∧
      Joined (params.openSafeZones (params.carve seeded).1 start goal) room other := by
  have positive := @roomDim_pos params
  obtain ⟨dim, joined⟩ := generateMazeEdges_joined (by omega) seeded from_ to_
  have opened := (extraOpenWalls_opened (generateMazeEdges params.roomDim seeded).1
      params.extraOpenRatio (generateMazeEdges params.roomDim seeded).2).trans
    ((clearSafeZone_opened _ params.roomDim start.1 start.2 1).trans
      (clearSafeZone_opened _ params.roomDim goal.1 goal.2 1))
  exact ⟨opened.gridDim.trans dim, opened.joined joined⟩

end MapParams

theorem generateMap_solvable {random : Int → Rng} {params : MapParams} {seed : Int}
    {start goal : Room} {rng : Rng} (solvable : params.Solvable) (sized : 1 ≤ params.roomSize)
    (selected : params.selectRooms (params.carve (random seed)).2 = .ok (some (start, goal), rng))
    (apart : start ≠ goal) :
    ∃ map, generateMap random seed params = .ok map ∧ map.mapData.isSome = true ∧
      map.reachable = true ∧ 0 < map.pathLength := by
  obtain ⟨from_, to_⟩ := MapParams.selectRooms_inside selected
  obtain ⟨dim, joined⟩ := @MapParams.carve_joined params start goal start (random seed) from_ goal to_
  have solved := @MapParams.furnish_solvable params _ start goal rng solvable sized from_ to_ apart
    joined dim
  unfold generateMap
  simp only [selected, Except.bind, bind]
  exact ⟨_, rfl, rfl, by simpa using solved, solved⟩

theorem retryMap_reachable {random : Int → Rng} {params : MapParams} {seed : Int} {remaining : Nat}
    {map : GeneratedMap}
    (made : generateMap random (seed + ((MAX_RETRY - (remaining + 1) : Nat) : Int)) params = .ok map)
    (reachable : map.reachable = true) :
    retryMap random seed params (remaining + 1) = .ok {
      mapData := map.mapData
      edgeSet := some map.edgeSet
      pathLength := map.pathLength
      finalSeed := seed + ((MAX_RETRY - (remaining + 1) : Nat) : Int)
      retryCount := MAX_RETRY - (remaining + 1)
      grid := map.grid } := by
  unfold retryMap
  simp only [made, reachable, bind, Except.bind, pure, Except.pure, if_pos]

theorem selectRooms_default {params : MapParams} (default_ : params.startEndMode = .default)
    (rng : Rng) :
    params.selectRooms rng = .ok (some ((0, 0), (params.roomDim - 1, params.roomDim - 1)), rng) := by
  simp [MapParams.selectRooms, default_]

theorem generateReachableMap_default {random : Int → Rng} {params : MapParams}
    (solvable : params.Solvable) (sized : 1 ≤ params.roomSize)
    (default_ : params.startEndMode = .default) (now : Int) (seed : Option Int) :
    ∃ map, generateMap random (seed.getD (now % 10 ^ 9)) params = .ok map ∧
      map.mapData.isSome = true ∧ 0 < map.pathLength ∧
      generateReachableMap random now seed params = .ok {
        mapData := map.mapData
        edgeSet := some map.edgeSet
        pathLength := map.pathLength
        finalSeed := seed.getD (now % 10 ^ 9)
        retryCount := 0
        grid := map.grid } := by
  have wide := @MapParams.roomDim_pos params
  obtain ⟨map, made, data, reachable, steps⟩ := generateMap_solvable solvable sized
    (selectRooms_default default_ (params.carve (random (seed.getD (now % 10 ^ 9)))).2)
    (by simp; omega)
  have first : seed.getD (now % 10 ^ 9) + ((MAX_RETRY - (99 + 1) : Nat) : Int) =
      seed.getD (now % 10 ^ 9) := Int.add_zero _
  have returned := @retryMap_reachable random params (seed.getD (now % 10 ^ 9)) 99 map
    (first.symm ▸ made) reachable
  rw [first] at returned
  exact ⟨map, made, data, steps, returned⟩

/-- Generated maps are always solvable; in default mode the first attempt succeeds. -/
theorem generated_maps_solvable (random : Int → Rng) (params : MapParams)
    (solvable : params.Solvable) (sized : 1 ≤ params.roomSize) :
    (∀ seed start goal rng,
      params.selectRooms (params.carve (random seed)).2 = .ok (some (start, goal), rng) →
        start ≠ goal → ∃ map, generateMap random seed params = .ok map ∧
          map.mapData.isSome = true ∧ map.reachable = true ∧ 0 < map.pathLength) ∧
      (params.startEndMode = .default → ∀ now seed, ∃ map,
        generateReachableMap random now seed params = .ok map ∧ map.mapData.isSome = true ∧
          map.retryCount = 0 ∧ 0 < map.pathLength) := by
  refine ⟨fun seed start goal rng selected apart =>
    generateMap_solvable solvable sized selected apart, fun default_ now seed => ?_⟩
  obtain ⟨map, -, data, steps, returned⟩ :=
    @generateReachableMap_default random params solvable sized default_ now seed
  exact ⟨_, returned, data, rfl, steps⟩

theorem generated_maps_solvable_dense :
    ∃ map, generateReachableMap (fun _ => ⟨fun _ => 0, 0⟩) 0 (some 7)
      { gridDim := 12, gridSize := 500, wallThickness := 10, extraOpenRatio := 1 / 100,
        startEndMode := .default, fixedStart := ⟨0, 0⟩, fixedEnd := ⟨0, 0⟩, minDistance := 5,
        roomSize := 3, roomObstacleDensity := 1 } = .ok map ∧ map.mapData.isSome = true ∧
        map.retryCount = 0 ∧ 0 < map.pathLength :=
  (generated_maps_solvable _ _ (.inl (by decide)) (by decide)).2 rfl 0 (some 7)

end MazeClient
