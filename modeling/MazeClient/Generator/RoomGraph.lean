import MazeClient.Generator.Corridors

set_option autoImplicit false

namespace MazeClient

def roomAnchor (roomSize : Int) (room : Room) : Int × Int :=
  (room.1 * (roomSize + 1) + 1, room.2 * (roomSize + 1) + 1)

def roomCentre (roomSize : Int) (room : Room) : Int × Int :=
  (room.1 * (roomSize + 1) + 1 + roomSize / 2, room.2 * (roomSize + 1) + 1 + roomSize / 2)

section

variable {edgeSet : WallEdgeSet} {gridDim roomSize : Int} {room : Room}

-- The cells from a room's lower left corner to the walls beyond it lie on the map.
theorem within_map (sized : 1 ≤ roomSize) (inside : room.Inside gridDim) {dx dy : Int}
    (right : 0 ≤ dx ∧ dx < roomSize + 1) (up : 0 ≤ dy ∧ dy < roomSize + 1) :
    BlockedGrid.Within (outDim gridDim roomSize) (outDim gridDim roomSize)
      ((roomAnchor roomSize room).1 + dx) ((roomAnchor roomSize room).2 + dy) := by
  have bound (at_ : Int) (low : 0 ≤ at_) (high : at_ < gridDim) :
      0 ≤ at_ * (roomSize + 1) ∧
        at_ * (roomSize + 1) + (roomSize + 1) ≤ gridDim * (roomSize + 1) := by
    have positive : 0 ≤ roomSize + 1 := by omega
    have next : (at_ + 1) * (roomSize + 1) ≤ gridDim * (roomSize + 1) :=
      Int.mul_le_mul_of_nonneg_right high positive
    rw [Int.add_mul at_, Int.one_mul] at next
    exact ⟨Int.mul_nonneg low positive, next⟩
  have column := bound room.1 inside.left inside.right
  have row := bound room.2 inside.bottom inside.top
  have size : ((outDim gridDim roomSize : Nat) : Int) = gridDim * (roomSize + 1) + 1 := by
    rw [outDim, Int.toNat_of_nonneg]
    omega
  unfold BlockedGrid.Within roomAnchor
  rw [size]
  dsimp only
  omega

theorem room_open (sized : 1 ≤ roomSize) (inside : room.Inside gridDim) {dx dy : Int}
    (right : 0 ≤ dx ∧ dx < roomSize) (up : 0 ≤ dy ∧ dy < roomSize) :
    (edgesToBlockedGrid edgeSet gridDim roomSize).cell ((roomAnchor roomSize room).1 + dx)
      ((roomAnchor roomSize room).2 + dy) = false := by
  rw [edgesToBlockedGrid_open]
  exact ⟨room, inside, within_map sized inside (by omega) (by omega),
    .inl ⟨dx, dy, rfl, rfl, right, up⟩⟩

/-- What keeps the rooms joined: their left and lower edges stay open, and the corridors from
them. -/
def EdgesOpen (edgeSet : WallEdgeSet) (gridDim roomSize : Int) (walkable : Int → Int → Bool) :
    Prop :=
  ∀ room : Room, room.Inside gridDim → ∀ dx dy : Int, 0 ≤ dx ∧ dx < roomSize + 1 →
    0 ≤ dy ∧ dy < roomSize + 1 → dx = 0 ∨ dy = 0 →
    (edgesToBlockedGrid edgeSet gridDim roomSize).cell ((roomAnchor roomSize room).1 + dx)
      ((roomAnchor roomSize room).2 + dy) = false →
    walkable ((roomAnchor roomSize room).1 + dx) ((roomAnchor roomSize room).2 + dy) = true

variable {walkable : Int → Int → Bool}

theorem EdgesOpen.anchor (edges : EdgesOpen edgeSet gridDim roomSize walkable)
    (sized : 1 ≤ roomSize) (inside : room.Inside gridDim) :
    walkable (roomAnchor roomSize room).1 (roomAnchor roomSize room).2 = true := by
  have corner := edges room inside 0 0 (by omega) (by omega) (.inl rfl)
    (room_open sized inside (by omega) (by omega))
  simpa using corner

theorem EdgesOpen.right (edges : EdgesOpen edgeSet gridDim roomSize walkable)
    (sized : 1 ≤ roomSize) (passage : Passage edgeSet room (room.1 + 1, room.2))
    (dim : edgeSet.gridDim = gridDim) :
    Grid.Connected walkable (roomAnchor roomSize room)
      (roomAnchor roomSize (room.1 + 1, room.2)) := by
  have here := dim ▸ passage.fromInside
  have there := dim ▸ passage.toInside
  have length : (((roomSize + 1).toNat : Nat) : Int) = roomSize + 1 := by omega
  have next : roomAnchor roomSize (room.1 + 1, room.2) =
      ((roomAnchor roomSize room).1 + (roomSize + 1).toNat, (roomAnchor roomSize room).2) := by
    simp only [roomAnchor, length, Prod.mk.injEq, and_true]
    ring
  rw [next]
  apply Grid.connected_row
  intro i low high
  rw [← Int.add_zero (room.2 * (roomSize + 1) + 1)]
  rcases Int.lt_trichotomy i roomSize with inRoom | corridor | beyond
  · exact edges room here i 0 (by omega) (by omega) (.inr rfl)
      (room_open sized here ⟨low, inRoom⟩ (by omega))
  · subst corridor
    apply edges room here i 0 (by omega) (by omega) (.inr rfl)
    rw [edgesToBlockedGrid_open]
    refine ⟨room, here, within_map sized here (by omega) (by omega), .inr (.inr ⟨0, ?_⟩)⟩
    refine ⟨there.right, passage.clear, ?_, rfl, by omega⟩
    simp only [roomAnchor]
    ring
  · obtain rfl : i = roomSize + 1 := by omega
    have start_ := edges.anchor sized there
    rw [next, length] at start_
    simpa [roomAnchor] using start_

theorem EdgesOpen.up (edges : EdgesOpen edgeSet gridDim roomSize walkable)
    (sized : 1 ≤ roomSize) (passage : Passage edgeSet room (room.1, room.2 + 1))
    (dim : edgeSet.gridDim = gridDim) :
    Grid.Connected walkable (roomAnchor roomSize room)
      (roomAnchor roomSize (room.1, room.2 + 1)) := by
  have here := dim ▸ passage.fromInside
  have there := dim ▸ passage.toInside
  have length : (((roomSize + 1).toNat : Nat) : Int) = roomSize + 1 := by omega
  have next : roomAnchor roomSize (room.1, room.2 + 1) =
      ((roomAnchor roomSize room).1, (roomAnchor roomSize room).2 + (roomSize + 1).toNat) := by
    simp only [roomAnchor, length, Prod.mk.injEq, true_and]
    ring
  rw [next]
  apply Grid.connected_column
  intro i low high
  rw [← Int.add_zero (room.1 * (roomSize + 1) + 1)]
  rcases Int.lt_trichotomy i roomSize with inRoom | corridor | beyond
  · exact edges room here 0 i (by omega) (by omega) (.inl rfl)
      (room_open sized here (by omega) ⟨low, inRoom⟩)
  · subst corridor
    apply edges room here 0 i (by omega) (by omega) (.inl rfl)
    rw [edgesToBlockedGrid_open]
    refine ⟨room, here, within_map sized here (by omega) (by omega), .inr (.inl ⟨0, ?_⟩)⟩
    refine ⟨there.top, passage.clear, rfl, ?_, by omega⟩
    simp only [roomAnchor]
    ring
  · obtain rfl : i = roomSize + 1 := by omega
    have start_ := edges.anchor sized there
    rw [next, length] at start_
    simpa [roomAnchor] using start_

theorem EdgesOpen.passage (edges : EdgesOpen edgeSet gridDim roomSize walkable)
    (sized : 1 ≤ roomSize) {a b : Room} (passage : Passage edgeSet a b)
    (dim : edgeSet.gridDim = gridDim) :
    Grid.Connected walkable (roomAnchor roomSize a) (roomAnchor roomSize b) := by
  obtain ⟨x, y⟩ := a
  obtain ⟨x', y'⟩ := b
  have adjacent := passage.adjacent
  simp only [Room.Adjacent, DIRECTIONS, List.mem_cons, Prod.mk.injEq, List.not_mem_nil,
    or_false] at adjacent
  rcases adjacent with right | up | left | down
  · obtain ⟨rfl, rfl⟩ : x' = x + 1 ∧ y' = y := by omega
    exact edges.right sized passage dim
  · obtain ⟨rfl, rfl⟩ : x' = x ∧ y' = y + 1 := by omega
    exact edges.up sized passage dim
  · obtain ⟨rfl, rfl⟩ : x = x' + 1 ∧ y = y' := by omega
    exact (edges.right sized passage.symm dim).symm
  · obtain ⟨rfl, rfl⟩ : x = x' ∧ y = y' + 1 := by omega
    exact (edges.up sized passage.symm dim).symm

theorem EdgesOpen.joined (edges : EdgesOpen edgeSet gridDim roomSize walkable)
    (sized : 1 ≤ roomSize) {a b : Room} (joined : Joined edgeSet a b)
    (dim : edgeSet.gridDim = gridDim) :
    Grid.Connected walkable (roomAnchor roomSize a) (roomAnchor roomSize b) := by
  induction joined with
  | refl => exact .refl
  | tail _ passage ih => exact ih.trans (edges.passage sized passage dim)

theorem centre_connected (sized : 1 ≤ roomSize)
    (clear : ∀ dx dy : Int, 0 ≤ dx ∧ dx < roomSize → 0 ≤ dy ∧ dy < roomSize →
      walkable ((roomAnchor roomSize room).1 + dx) ((roomAnchor roomSize room).2 + dy) = true) :
    Grid.Connected walkable (roomAnchor roomSize room) (roomCentre roomSize room) ∧
      walkable (roomCentre roomSize room).1 (roomCentre roomSize room).2 = true := by
  have half : ((roomSize / 2).toNat : Int) = roomSize / 2 := by omega
  have centre : roomCentre roomSize room = ((roomAnchor roomSize room).1 + roomSize / 2,
      (roomAnchor roomSize room).2 + roomSize / 2) := rfl
  refine ⟨?_, centre ▸ clear _ _ (by omega) (by omega)⟩
  have row := @Grid.connected_row walkable (roomAnchor roomSize room).1
    (roomAnchor roomSize room).2 (roomSize / 2).toNat
    fun i low high => by simpa using clear i 0 (by omega) (by omega)
  have column := @Grid.connected_column walkable ((roomAnchor roomSize room).1 + roomSize / 2)
    (roomAnchor roomSize room).2 (roomSize / 2).toNat
    fun i low high => clear _ i (by omega) (by omega)
  rw [half] at row column
  exact row.trans column

theorem roomCentre_injective (sized : 1 ≤ roomSize) {a b : Room}
    (same : roomCentre roomSize a = roomCentre roomSize b) : a = b := by
  have positive : roomSize + 1 ≠ 0 := by omega
  obtain ⟨across, along⟩ := Prod.mk.injEq _ _ _ _ ▸ same
  exact Prod.ext (Int.eq_of_mul_eq_mul_right positive (by omega))
    (Int.eq_of_mul_eq_mul_right positive (by omega))

end

end MazeClient
