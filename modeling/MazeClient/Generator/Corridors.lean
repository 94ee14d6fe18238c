import MazeClient.Generator.Carving
import MazeClient.Generator.GenerateMap
import Mathlib.Tactic.Ring

set_option autoImplicit false

namespace MazeClient

theorem offset_unique {stride a b i j : Int} (low : 0 ≤ i) (high : i < stride) (low' : 0 ≤ j)
    (high' : j < stride) (same : a * stride + i = b * stride + j) : a = b ∧ i = j := by
  have positive : 0 < stride := by omega
  have first := congrArg (· / stride) same
  have second := congrArg (· % stride) same
  simp only [Int.add_comm (a * stride), Int.add_comm (b * stride),
    Int.add_mul_ediv_right _ _ positive.ne', Int.add_mul_emod_self_right,
    Int.ediv_eq_zero_of_lt, Int.emod_eq_of_lt, low, high, low', high'] at first second
  exact ⟨by omega, second⟩

theorem BlockedGrid.put_open {n : Nat} (blocked : BlockedGrid n n) (x y gx gy : Int) :
    (blocked.put x y false).cell gx gy = false ↔
      (Within n n gx gy ∧ gx = x ∧ gy = y) ∨ blocked.cell gx gy = false := by
  rw [cell_put]
  split
  case isTrue target => exact ⟨fun _ => .inl target, fun _ => rfl⟩
  case isFalse apart => exact ⟨.inr, fun opened => opened.resolve_left apart⟩

theorem BlockedGrid.strip_open {n : Nat} (blocked : BlockedGrid n n) (strip : List Int)
    (x y : Int → Int) (gx gy : Int) :
    (strip.foldl (fun blocked i => blocked.put (x i) (y i) false) blocked).cell gx gy = false ↔
      (∃ i ∈ strip, Within n n gx gy ∧ gx = x i ∧ gy = y i) ∨ blocked.cell gx gy = false :=
  foldl_iff (fun blocked => blocked.cell gx gy = false) (fun i => Within n n gx gy ∧ gx = x i ∧ gy = y i)
    (fun i _ blocked => blocked.put_open (x i) (y i) gx gy) blocked

section

variable (edgeSet : WallEdgeSet) (gridDim roomSize : Int)

structure RoomCell (room : Room) (dx dy gx gy : Int) : Prop where
  column : gx = room.1 * (roomSize + 1) + 1 + dx
  row : gy = room.2 * (roomSize + 1) + 1 + dy
  right : 0 ≤ dx ∧ dx < roomSize
  up : 0 ≤ dy ∧ dy < roomSize

structure RightCorridor (room : Room) (dy gx gy : Int) : Prop where
  next : room.1 + 1 < gridDim
  clear : edgeSet.hasWall room.1 room.2 (room.1 + 1) room.2 = false
  column : gx = (room.1 + 1) * (roomSize + 1)
  row : gy = room.2 * (roomSize + 1) + 1 + dy
  up : 0 ≤ dy ∧ dy < roomSize

structure UpCorridor (room : Room) (dx gx gy : Int) : Prop where
  next : room.2 + 1 < gridDim
  clear : edgeSet.hasWall room.1 room.2 room.1 (room.2 + 1) = false
  column : gx = room.1 * (roomSize + 1) + 1 + dx
  row : gy = (room.2 + 1) * (roomSize + 1)
  right : 0 ≤ dx ∧ dx < roomSize

theorem eachRoom_iff {σ : Type} (P : σ → Prop) (T : Room → Prop) {step : Int → Int → σ → σ}
    (steps : ∀ rx ry state, P (step rx ry state) ↔ T (rx, ry) ∨ P state) (state : σ) :
    P (eachCell (Int.range 0 gridDim) (Int.range 0 gridDim) step state) ↔
      (∃ room : Room, room.Inside gridDim ∧ T room) ∨ P state := by
  refine (eachCell_iff P (fun rx ry => T (rx, ry)) (fun rx _ ry _ => steps rx ry) state).trans
    (or_congr_left ?_)
  constructor
  · rintro ⟨ry, row, rx, column, holds⟩
    obtain ⟨bottom, top⟩ := Int.mem_range_iff.mp row
    obtain ⟨left, right⟩ := Int.mem_range_iff.mp column
    exact ⟨_, ⟨left, right, bottom, top⟩, holds⟩
  · rintro ⟨⟨rx, ry⟩, ⟨left, right, bottom, top⟩, holds⟩
    exact ⟨ry, Int.mem_range_iff.mpr ⟨bottom, top⟩, rx, Int.mem_range_iff.mpr ⟨left, right⟩, holds⟩

theorem openRooms_open {n : Nat} (blocked : BlockedGrid n n) (gx gy : Int) :
    (openRooms gridDim roomSize blocked).cell gx gy = false ↔
      (∃ room : Room, room.Inside gridDim ∧ BlockedGrid.Within n n gx gy ∧
        ∃ dx dy, RoomCell roomSize room dx dy gx gy) ∨ blocked.cell gx gy = false := by
  refine eachRoom_iff gridDim (fun blocked => blocked.cell gx gy = false)
    (fun room => BlockedGrid.Within n n gx gy ∧ ∃ dx dy, RoomCell roomSize room dx dy gx gy)
    (fun rx ry blocked => ?_) blocked
  refine (eachCell_iff (fun blocked => blocked.cell gx gy = false)
    (fun dx dy => BlockedGrid.Within n n gx gy ∧ gx = rx * (roomSize + 1) + 1 + dx ∧
      gy = ry * (roomSize + 1) + 1 + dy)
    (fun dx _ dy _ blocked => blocked.put_open _ _ gx gy) blocked).trans (or_congr_left ?_)
  constructor
  · rintro ⟨dy, up, dx, right, within, column, row⟩
    exact ⟨within, dx, dy, column, row, Int.mem_range_iff.mp right, Int.mem_range_iff.mp up⟩
  · rintro ⟨within, dx, dy, column, row, right, up⟩
    exact ⟨dy, Int.mem_range_iff.mpr up, dx, Int.mem_range_iff.mpr right, within, column, row⟩

theorem openCorridors_open {n : Nat} (blocked : BlockedGrid n n) (gx gy : Int) :
    (openCorridors edgeSet gridDim roomSize blocked).cell gx gy = false ↔
      (∃ room : Room, room.Inside gridDim ∧ BlockedGrid.Within n n gx gy ∧
        ((∃ dx, UpCorridor edgeSet gridDim roomSize room dx gx gy) ∨
          ∃ dy, RightCorridor edgeSet gridDim roomSize room dy gx gy)) ∨
        blocked.cell gx gy = false := by
  refine eachRoom_iff gridDim (fun blocked => blocked.cell gx gy = false)
    (fun room => BlockedGrid.Within n n gx gy ∧
      ((∃ dx, UpCorridor edgeSet gridDim roomSize room dx gx gy) ∨
        ∃ dy, RightCorridor edgeSet gridDim roomSize room dy gx gy))
    (fun rx ry blocked => ?_) blocked
  have strip (clear : Prop) [Decidable clear] (x y : Int → Int) (blocked : BlockedGrid n n) :
      (if clear then (Int.range 0 roomSize).foldl
          (fun blocked i => blocked.put (x i) (y i) false) blocked
        else blocked).cell gx gy = false ↔
        (clear ∧ ∃ i, (0 ≤ i ∧ i < roomSize) ∧ BlockedGrid.Within n n gx gy ∧ gx = x i ∧ gy = y i) ∨
          blocked.cell gx gy = false := by
    split
    case isTrue clear => simp [BlockedGrid.strip_open, Int.mem_range_iff, clear]
    case isFalse wall => simp [wall]
  dsimp only
  rw [strip, strip, ← or_assoc]
  refine or_congr_left ?_
  rw [and_or_left]
  apply or_congr
  · constructor
    · rintro ⟨⟨next, clear⟩, dx, right, within, column, row⟩
      exact ⟨within, dx, next, by simpa using clear, column, row, right⟩
    · rintro ⟨within, dx, next, clear, column, row, right⟩
      exact ⟨⟨next, by simpa using clear⟩, dx, right, within, column, row⟩
  · constructor
    · rintro ⟨⟨next, clear⟩, dy, up, within, column, row⟩
      exact ⟨within, dy, next, by simpa using clear, column, row, up⟩
    · rintro ⟨within, dy, next, clear, column, row, up⟩
      exact ⟨⟨next, by simpa using clear⟩, dy, up, within, column, row⟩

theorem edgesToBlockedGrid_open (gx gy : Int) :
    (edgesToBlockedGrid edgeSet gridDim roomSize).cell gx gy = false ↔
      ∃ room : Room, room.Inside gridDim ∧
        BlockedGrid.Within (outDim gridDim roomSize) (outDim gridDim roomSize) gx gy ∧
        ((∃ dx dy, RoomCell roomSize room dx dy gx gy) ∨
          (∃ dx, UpCorridor edgeSet gridDim roomSize room dx gx gy) ∨
            ∃ dy, RightCorridor edgeSet gridDim roomSize room dy gx gy) := by
  rw [edgesToBlockedGrid, openCorridors_open, openRooms_open, BlockedGrid.cell_full]
  simp only [Bool.true_eq_false, or_false, ← exists_or, ← and_or_left]
  grind

end

def Room.Near (radius : Int) (a b : Room) : Prop := |a.1 - b.1| ≤ radius ∧ |a.2 - b.2| ≤ radius

theorem addRoomObstacles_keeps {n : Nat} {blocked : BlockedGrid n n} {gridDim roomSize : Int}
    {density : ℚ} {rng : Rng} {start goal : Room} {radius gx gy : Int}
    (opened : blocked.cell gx gy = false)
    (spared : ∀ room dx dy, ¬ Room.Near radius room start → ¬ Room.Near radius room goal →
      RoomCell roomSize room dx dy gx gy → 3 ≤ roomSize ∧
        ¬ ((1 ≤ dx ∧ dx < roomSize - 1) ∧ 1 ≤ dy ∧ dy < roomSize - 1)) :
    (addRoomObstacles blocked gridDim roomSize density rng start goal radius).1.cell gx gy =
      false := by
  unfold addRoomObstacles
  split
  · exact opened
  refine @eachCell_keeps _ (fun state : BlockedGrid n n × Rng => state.1.cell gx gy = false) _ _ _
    (fun rx _ ry _ state kept => ?_) _ opened
  dsimp only
  split
  · exact kept
  case isFalse start =>
  split
  · exact kept
  case isFalse goal =>
  refine @eachCell_keeps _ (fun state : BlockedGrid n n × Rng => state.1.cell gx gy = false) _ _ _
    (fun dx right dy up state kept => ?_) _ kept
  dsimp only
  split
  case isFalse => exact kept
  rw [BlockedGrid.cell_put, if_neg]
  · exact kept
  rintro ⟨-, column, row⟩
  have inner (offset : Int) (member : offset ∈ if 3 ≤ roomSize then Int.range 1 (roomSize - 1)
      else Int.range 0 roomSize) : (0 ≤ offset ∧ offset < roomSize) ∧
        (3 ≤ roomSize → 1 ≤ offset ∧ offset < roomSize - 1) := by
    split at member <;> rw [Int.mem_range_iff] at member <;> omega
  obtain ⟨large, edge⟩ := spared (rx, ry) dx dy start goal
    ⟨column, row, (inner dx right).1, (inner dy up).1⟩
  exact edge ⟨(inner dx right).2 large, (inner dy up).2 large⟩

theorem clearBlockedSafeZone_keeps {n : Nat} {blocked : BlockedGrid n n} {cx cy radius gx gy : Int}
    (opened : blocked.cell gx gy = false) :
    (clearBlockedSafeZone blocked cx cy radius).cell gx gy = false := by
  refine @eachCell_keeps _ (fun blocked : BlockedGrid n n => blocked.cell gx gy = false) _ _ _
    (fun dx _ dy _ blocked kept => ?_) _ opened
  split
  · exact (blocked.put_open _ _ gx gy).mpr (.inr kept)
  · exact kept

end MazeClient
