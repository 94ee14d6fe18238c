import MazeClient.Generator.RoomGraph

set_option autoImplicit false

namespace MazeClient

def roomNeighbours (edgeSet : WallEdgeSet) (gridDim : Int) (current : Room) : List Room :=
  (DIRECTIONS.map fun (dx, dy) => (current.1 + dx, current.2 + dy)).filter fun (nx, ny) =>
    0 ≤ nx && nx < gridDim && 0 ≤ ny && ny < gridDim &&
      !edgeSet.hasWall current.1 current.2 nx ny

def bfsReachable (edgeSet : WallEdgeSet) (gridDim sx sy ex ey : Int) : Bool × Int :=
  match Search.bfs (roomNeighbours edgeSet gridDim) (ex, ey)
      (gridDim.toNat * gridDim.toNat + 1) (sx, sy) with
  | some dist => (true, dist)
  | none => (false, -1)

def WallEdgeSet.sized (edgeSet : WallEdgeSet) (gridDim : Int) : WallEdgeSet :=
  { edgeSet with gridDim }

section

variable {edgeSet : WallEdgeSet} {gridDim roomSize : Int} {a b : Room}

theorem mem_roomNeighbours (from_ : a.Inside gridDim) :
    b ∈ roomNeighbours edgeSet gridDim a ↔ Passage (edgeSet.sized gridDim) a b := by
  obtain ⟨nx, ny⟩ := b
  simp only [roomNeighbours, List.mem_filter, List.mem_map, Bool.and_eq_true, decide_eq_true_eq,
    Bool.not_eq_true']
  constructor
  · rintro ⟨⟨⟨dx, dy⟩, direction, same⟩, ⟨⟨⟨left, right⟩, bottom⟩, top⟩, clear⟩
    cases same
    exact ⟨from_, ⟨left, right, bottom, top⟩, by simpa [Room.Adjacent] using direction, clear⟩
  · rintro ⟨-, ⟨left, right, bottom, top⟩, adjacent, clear⟩
    exact ⟨⟨_, adjacent, by simp⟩, ⟨⟨⟨left, right⟩, bottom⟩, top⟩, clear⟩

theorem walk_joined (from_ : a.Inside gridDim) {steps : Nat}
    (walk : Search.Walk (fun a b => b ∈ roomNeighbours edgeSet gridDim a) a steps b) :
    b.Inside gridDim ∧ Joined (edgeSet.sized gridDim) a b := by
  induction walk with
  | here => exact ⟨from_, .refl⟩
  | step _ next ih =>
      have passage := (mem_roomNeighbours ih.1).mp next
      exact ⟨passage.toInside, ih.2.tail passage⟩

theorem joined_walk (joined : Joined (edgeSet.sized gridDim) a b) :
    ∃ steps, Search.Walk (fun a b => b ∈ roomNeighbours edgeSet gridDim a) a steps b :=
  Search.Walk.of_reflTransGen (Relation.ReflTransGen.mono
    (fun _ _ passage => (mem_roomNeighbours passage.fromInside).mpr passage) _ _ joined)

theorem bfsReachable_iff (from_ : a.Inside gridDim) :
    (bfsReachable edgeSet gridDim a.1 a.2 b.1 b.2).1 = true ↔
      Joined (edgeSet.sized gridDim) a b := by
  have closed : ∀ room ∈ Carving.rooms gridDim, ∀ next ∈ roomNeighbours edgeSet gridDim room,
      next ∈ Carving.rooms gridDim := by
    intro room member next edge
    have passage := (mem_roomNeighbours (Carving.mem_rooms.mp member)).mp edge
    exact Carving.mem_rooms.mpr passage.toInside
  have found := @Search.bfs_shortest _ _ (roomNeighbours edgeSet gridDim) a b _ closed
    (Carving.mem_rooms.mpr from_) (gridDim.toNat * gridDim.toNat + 1)
    (by rw [Carving.card_rooms]; exact Nat.lt_succ_self _)
  unfold bfsReachable
  cases answer : Search.bfs (roomNeighbours edgeSet gridDim) b
      (gridDim.toNat * gridDim.toNat + 1) a with
  | some steps =>
      rw [answer] at found
      exact ⟨fun _ => (walk_joined from_ found.1).2, fun _ => rfl⟩
  | none =>
      rw [answer] at found
      refine ⟨fun reached => absurd reached (by simp), fun joined => ?_⟩
      obtain ⟨steps, walk⟩ := joined_walk joined
      exact absurd walk (found steps)

/-- An open cell, of a room or of a corridor that leads out of it. -/
structure OpenCell (edgeSet : WallEdgeSet) (gridDim roomSize : Int) (room : Room) (dx dy : Int)
    (cell : Int × Int) : Prop where
  column : cell.1 = room.1 * (roomSize + 1) + 1 + dx
  row : cell.2 = room.2 * (roomSize + 1) + 1 + dy
  across : 0 ≤ dx ∧ dx ≤ roomSize
  along : 0 ≤ dy ∧ dy ≤ roomSize
  right : dx = roomSize → Passage (edgeSet.sized gridDim) room (room.1 + 1, room.2)
  up : dy = roomSize → Passage (edgeSet.sized gridDim) room (room.1, room.2 + 1)

theorem exists_openCell {cell : Int × Int}
    (walkable : (edgesToBlockedGrid edgeSet gridDim roomSize).walkable cell.1 cell.2 = true) :
    ∃ room dx dy, OpenCell edgeSet gridDim roomSize room dx dy cell := by
  obtain ⟨room, inside, -, ⟨dx, dy, cell⟩ | ⟨dx, corridor⟩ | ⟨dy, corridor⟩⟩ :=
    (edgesToBlockedGrid_open edgeSet gridDim roomSize _ _).mp (BlockedGrid.walkable_iff.mp walkable)
  · obtain ⟨column, row, right, up⟩ := cell
    exact ⟨room, dx, dy, column, row, by omega, by omega, by omega, by omega⟩
  · obtain ⟨next, clear, column, row, right⟩ := corridor
    have above : Room.Inside gridDim (room.1, room.2 + 1) :=
      ⟨inside.left, inside.right, by have := inside.bottom; dsimp only; omega, next⟩
    refine ⟨room, dx, roomSize, column, ?_, by omega, by omega, by omega, fun _ => ?_⟩
    · rw [row]
      ring
    · exact ⟨inside, above, by simp [Room.Adjacent, DIRECTIONS], clear⟩
  · obtain ⟨next, clear, column, row, up⟩ := corridor
    have beside : Room.Inside gridDim (room.1 + 1, room.2) :=
      ⟨by have := inside.left; dsimp only; omega, next, inside.bottom, inside.top⟩
    refine ⟨room, roomSize, dy, ?_, row, by omega, by omega, fun _ => ?_, by omega⟩
    · rw [column]
      ring
    · exact ⟨inside, beside, by simp [Room.Adjacent, DIRECTIONS], clear⟩

variable {cell cell' : Int × Int} {room room' : Room} {dx dy dx' dy' : Int}

theorem OpenCell.same_column (here : OpenCell edgeSet gridDim roomSize room dx dy cell)
    (there : OpenCell edgeSet gridDim roomSize room' dx' dy' cell') (column : cell'.1 = cell.1) :
    room.1 = room'.1 := by
  obtain ⟨first, -, inside, -⟩ := here
  obtain ⟨second, -, inside', -⟩ := there
  exact (@offset_unique (roomSize + 1) room.1 room'.1 dx dx' inside.1 (by omega) inside'.1
    (by omega) (by omega)).1

theorem OpenCell.same_row (here : OpenCell edgeSet gridDim roomSize room dx dy cell)
    (there : OpenCell edgeSet gridDim roomSize room' dx' dy' cell') (row : cell'.2 = cell.2) :
    room.2 = room'.2 := by
  obtain ⟨-, first, -, inside, -⟩ := here
  obtain ⟨-, second, -, inside', -⟩ := there
  exact (@offset_unique (roomSize + 1) room.2 room'.2 dy dy' inside.1 (by omega) inside'.1
    (by omega) (by omega)).1

theorem OpenCell.unique (here : OpenCell edgeSet gridDim roomSize room dx dy cell)
    (there : OpenCell edgeSet gridDim roomSize room' dx' dy' cell) : room = room' :=
  Prod.ext (here.same_column there rfl) (here.same_row there rfl)

theorem OpenCell.joined_right (here : OpenCell edgeSet gridDim roomSize room dx dy cell)
    (there : OpenCell edgeSet gridDim roomSize room' dx' dy' cell')
    (column : cell'.1 = cell.1 + 1) (row : cell'.2 = cell.2) :
    Joined (edgeSet.sized gridDim) room room' := by
  have level := here.same_row there row
  obtain ⟨first, -, inside, -, right, -⟩ := here
  obtain ⟨second, -, inside', -⟩ := there
  by_cases last : dx = roomSize
  · have next : (room.1 + 1) * (roomSize + 1) = room.1 * (roomSize + 1) + (roomSize + 1) := by ring
    obtain ⟨beside, -⟩ := @offset_unique (roomSize + 1) (room.1 + 1) room'.1 0 dx' le_rfl
      (by omega) inside'.1 (by omega) (by omega)
    have same : room' = (room.1 + 1, room.2) := Prod.ext beside.symm level.symm
    exact same ▸ .single (right last)
  · obtain ⟨within, -⟩ := @offset_unique (roomSize + 1) room.1 room'.1 (dx + 1) dx' (by omega)
      (by omega) inside'.1 (by omega) (by omega)
    have same : room = room' := Prod.ext within level
    exact same ▸ .refl

theorem OpenCell.joined_up (here : OpenCell edgeSet gridDim roomSize room dx dy cell)
    (there : OpenCell edgeSet gridDim roomSize room' dx' dy' cell')
    (column : cell'.1 = cell.1) (row : cell'.2 = cell.2 + 1) :
    Joined (edgeSet.sized gridDim) room room' := by
  have level := here.same_column there column
  obtain ⟨-, first, -, inside, -, up⟩ := here
  obtain ⟨-, second, -, inside', -⟩ := there
  by_cases last : dy = roomSize
  · have next : (room.2 + 1) * (roomSize + 1) = room.2 * (roomSize + 1) + (roomSize + 1) := by ring
    obtain ⟨above, -⟩ := @offset_unique (roomSize + 1) (room.2 + 1) room'.2 0 dy' le_rfl
      (by omega) inside'.1 (by omega) (by omega)
    have same : room' = (room.1, room.2 + 1) := Prod.ext level.symm above.symm
    exact same ▸ .single (up last)
  · obtain ⟨within, -⟩ := @offset_unique (roomSize + 1) room.2 room'.2 (dy + 1) dy' (by omega)
      (by omega) inside'.1 (by omega) (by omega)
    have same : room = room' := Prod.ext level within
    exact same ▸ .refl

theorem beside_joined (here : OpenCell edgeSet gridDim roomSize room dx dy cell)
    (there : OpenCell edgeSet gridDim roomSize room' dx' dy' cell')
    (beside : (cell'.1 - cell.1, cell'.2 - cell.2) ∈ DIRECTIONS) :
    Joined (edgeSet.sized gridDim) room room' := by
  simp only [DIRECTIONS, List.mem_cons, Prod.mk.injEq, List.not_mem_nil, or_false] at beside
  rcases beside with right | up | left | down
  · exact here.joined_right there (by omega) (by omega)
  · exact here.joined_up there (by omega) (by omega)
  · exact (there.joined_right here (by omega) (by omega)).symm
  · exact (there.joined_up here (by omega) (by omega)).symm

-- No wall leaks: a diagonal move has an open cell beside both of its ends.
theorem move_joined (here : OpenCell edgeSet gridDim roomSize room dx dy cell)
    (there : OpenCell edgeSet gridDim roomSize room' dx' dy' cell')
    (move : Grid.Move (edgesToBlockedGrid edgeSet gridDim roomSize).walkable cell cell') :
    Joined (edgeSet.sized gridDim) room room' := by
  have direction := move.direction
  simp only [Grid.directions, List.mem_cons, Prod.mk.injEq, List.not_mem_nil, or_false]
    at direction
  by_cases straight : cell'.1 = cell.1 ∨ cell'.2 = cell.2
  · apply beside_joined here there
    simp only [DIRECTIONS, List.mem_cons, Prod.mk.injEq, List.not_mem_nil, or_false]
    omega
  · obtain ⟨across, along⟩ := not_or.mp straight
    obtain ⟨between, ox, oy, corner⟩ :=
      @exists_openCell edgeSet gridDim roomSize (cell'.1, cell.2) (move.corners across along).1
    refine (beside_joined here corner ?_).trans (beside_joined corner there ?_) <;>
      simp only [DIRECTIONS, List.mem_cons, Prod.mk.injEq, List.not_mem_nil, or_false] <;> omega

theorem walk_rooms_joined (here : OpenCell edgeSet gridDim roomSize room dx dy cell) {steps : Nat}
    (walk : Search.Walk (Grid.Move (edgesToBlockedGrid edgeSet gridDim roomSize).walkable) cell
      steps cell') :
    ∃ room' dx' dy', OpenCell edgeSet gridDim roomSize room' dx' dy' cell' ∧
      Joined (edgeSet.sized gridDim) room room' := by
  induction walk with
  | here => exact ⟨room, dx, dy, here, .refl⟩
  | step _ move ih =>
      obtain ⟨between, ox, oy, corner, joined⟩ := ih
      obtain ⟨room', dx', dy', there⟩ := exists_openCell move.target
      exact ⟨room', dx', dy', there, joined.trans (move_joined corner there move)⟩

theorem centre_openCell (sized : 1 ≤ roomSize) (room : Room) :
    OpenCell edgeSet gridDim roomSize room (roomSize / 2) (roomSize / 2)
      (roomCentre roomSize room) :=
  ⟨rfl, rfl, by omega, by omega, by omega, by omega⟩

end

/-- The cells refine the rooms: a way from centre to centre is a way from room to room. -/
theorem bfsReachable_iff_cells (edgeSet : WallEdgeSet) {gridDim roomSize : Int} {a b : Room}
    (sized : 1 ≤ roomSize) (from_ : a.Inside gridDim) (to_ : b.Inside gridDim) :
    (bfsReachable edgeSet gridDim a.1 a.2 b.1 b.2).1 = true ↔
      shortestActionSteps (edgesToBlockedGrid edgeSet gridDim roomSize)
        (roomCentre roomSize a).1 (roomCentre roomSize a).2
        (roomCentre roomSize b).1 (roomCentre roomSize b).2 ≠ -1 := by
  have edges : EdgesOpen (edgeSet.sized gridDim) gridDim roomSize
      (edgesToBlockedGrid edgeSet gridDim roomSize).walkable :=
    fun room inside dx dy right up edge opened => BlockedGrid.walkable_iff.mpr opened
  have clear {room : Room} (inside : room.Inside gridDim) (dx dy : Int)
      (right : 0 ≤ dx ∧ dx < roomSize) (up : 0 ≤ dy ∧ dy < roomSize) :=
    BlockedGrid.walkable_iff.mpr (@room_open edgeSet _ _ _ sized inside _ _ right up)
  obtain ⟨leave, startOpen⟩ := centre_connected sized (clear from_)
  obtain ⟨enter, goalOpen⟩ := centre_connected sized (clear to_)
  obtain ⟨answer, found, steps⟩ := shortestActionSteps_eq startOpen goalOpen
  rw [bfsReachable_iff from_, steps]
  constructor
  · intro joined
    obtain ⟨count, walk⟩ := Grid.Connected.walk
      ((leave.symm.trans (edges.joined sized joined rfl)).trans enter)
    cases answer with
    | none => exact absurd walk (found count)
    | some least => simp
  · intro reached
    cases answer with
    | none => exact absurd rfl reached
    | some least =>
        obtain ⟨room, dx, dy, there, joined⟩ :=
          walk_rooms_joined (centre_openCell sized a) found.1
        exact ((centre_openCell sized b).unique there) ▸ joined

theorem bfsReachable_iff_cells_pair :
    let walled : WallEdgeSet := .init 2
    let opened := walled.removeWall 0 0 1 0
    shortestActionSteps (edgesToBlockedGrid opened 2 3) 2 2 6 2 ≠ -1 ∧
      shortestActionSteps (edgesToBlockedGrid walled 2 3) 2 2 6 2 = -1 := by
  intro walled opened
  have here : Room.Inside 2 (0, 0) := ⟨by decide, by decide, by decide, by decide⟩
  have there : Room.Inside 2 (1, 0) := ⟨by decide, by decide, by decide, by decide⟩
  have reached := @bfsReachable_iff_cells opened 2 3 _ _ (by decide) here there
  have apart := @bfsReachable_iff_cells walled 2 3 _ _ (by decide) here there
  exact ⟨reached.mp (by decide +kernel), Decidable.not_not.mp (apart.not.mp (by decide +kernel))⟩

end MazeClient
