import MazeClient.Generator.WallEdgeSet
import MazeClient.Shared.Grid
import Mathlib.Algebra.Order.Group.Unbundled.Int

set_option autoImplicit false

namespace MazeClient

abbrev BlockedGrid (cols rows : Nat) := Vector (Vector Bool cols) rows

namespace BlockedGrid

variable {cols rows : Nat}

def full (cols rows : Nat) : BlockedGrid cols rows := Vector.replicate rows (Vector.replicate cols true)

def Within (cols rows : Nat) (gx gy : Int) : Prop := (0 ≤ gx ∧ gx < cols) ∧ 0 ≤ gy ∧ gy < rows

instance {cols rows : Nat} {gx gy : Int} : Decidable (Within cols rows gx gy) :=
  inferInstanceAs (Decidable ((0 ≤ gx ∧ gx < cols) ∧ 0 ≤ gy ∧ gy < rows))

def cell (blocked : BlockedGrid cols rows) (gx gy : Int) : Bool :=
  if inside : (0 ≤ gx ∧ gx < cols) ∧ 0 ≤ gy ∧ gy < rows then blocked[gy.toNat][gx.toNat] else true

def put (blocked : BlockedGrid cols rows) (gx gy : Int) (value : Bool) : BlockedGrid cols rows :=
  if inside : (0 ≤ gx ∧ gx < cols) ∧ 0 ≤ gy ∧ gy < rows then
    blocked.set gy.toNat (blocked[gy.toNat].set gx.toNat value)
  else blocked

theorem cell_full (gx gy : Int) : (full cols rows).cell gx gy = true := by
  unfold cell full
  split <;> simp

theorem cell_put (blocked : BlockedGrid cols rows) (x y gx gy : Int) (value : Bool) :
    (blocked.put x y value).cell gx gy =
      if Within cols rows gx gy ∧ gx = x ∧ gy = y then value else blocked.cell gx gy := by
  unfold put
  split
  case isFalse outside =>
    rw [if_neg]
    rintro ⟨inside, rfl, rfl⟩
    exact outside inside
  case isTrue target =>
    unfold cell
    by_cases inside : (0 ≤ gx ∧ gx < cols) ∧ 0 ≤ gy ∧ gy < rows
    · have row : y.toNat = gy.toNat ↔ gy = y := by omega
      have col : x.toNat = gx.toNat ↔ gx = x := by omega
      simp only [dif_pos inside, Vector.getElem_set, row]
      split
      case isTrue same =>
        subst same
        simp only [Vector.getElem_set, col]
        simp [Within, inside]
      case isFalse apart => simp [apart]
    · simp [Within, inside]

def cells (blocked : BlockedGrid cols rows) : List Bool := blocked.flatten.toList

theorem length_cells (blocked : BlockedGrid cols rows) : blocked.cells.length = rows * cols := by
  simp [cells]

theorem getElem_cells {blocked : BlockedGrid cols rows} {gx gy : Int}
    (inside : Grid.Inside cols rows (gx, gy)) :
    blocked.cells[(gy * cols + gx).toNat]? = some (blocked.cell gx gy) := by
  obtain ⟨⟨left, right⟩, bottom, top⟩ := inside
  dsimp only at left right bottom top
  obtain ⟨x, rfl⟩ := Int.eq_ofNat_of_zero_le left
  obtain ⟨y, rfl⟩ := Int.eq_ofNat_of_zero_le bottom
  have column : x < cols := by omega
  have row : y < rows := by omega
  have number : ((y : Int) * cols + x).toNat = y * cols + x := by omega
  have short : y * cols + x < rows * cols := by
    have rest := Nat.mul_le_mul_right cols (show y + 1 ≤ rows from row)
    rw [Nat.add_mul, Nat.one_mul] at rest
    omega
  have quotient : (y * cols + x) / cols = y := by
    rw [Nat.mul_comm, Nat.mul_add_div (by omega), Nat.div_eq_of_lt column, Nat.add_zero]
  have remainder : (y * cols + x) % cols = x := by
    rw [Nat.mul_comm, Nat.mul_add_mod, Nat.mod_eq_of_lt column]
  rw [number, cells, List.getElem?_eq_getElem (by simpa using short), Vector.getElem_toList,
    Vector.getElem_flatten, cell, dif_pos ⟨⟨left, right⟩, bottom, top⟩]
  simp only [quotient, remainder, Int.toNat_natCast]

def walkable (blocked : BlockedGrid cols rows) (gx gy : Int) : Bool :=
  decide (Within cols rows gx gy) && !blocked.cell gx gy

theorem walkable_iff {blocked : BlockedGrid cols rows} {gx gy : Int} :
    blocked.walkable gx gy = true ↔ blocked.cell gx gy = false := by
  unfold walkable cell Within
  split <;> simp_all

end BlockedGrid

def eachCell {σ : Type} (rows cols : List Int) (step : Int → Int → σ → σ) (state : σ) : σ :=
  rows.foldl (fun state y => cols.foldl (fun state x => step x y state) state) state

theorem foldl_iff {σ α : Type} (P : σ → Prop) (T : α → Prop) {step : σ → α → σ} {items : List α}
    (steps : ∀ item ∈ items, ∀ state, P (step state item) ↔ T item ∨ P state) (state : σ) :
    P (items.foldl step state) ↔ (∃ item ∈ items, T item) ∨ P state := by
  induction items generalizing state with
  | nil => simp
  | cons item items ih =>
      obtain ⟨first, rest⟩ := List.forall_mem_cons.mp steps
      rw [List.foldl_cons, ih rest, first, List.exists_mem_cons_iff, ← or_assoc]
      exact or_congr_left or_comm

theorem eachCell_iff {σ : Type} (P : σ → Prop) (T : Int → Int → Prop) {rows cols : List Int}
    {step : Int → Int → σ → σ}
    (steps : ∀ x ∈ cols, ∀ y ∈ rows, ∀ state, P (step x y state) ↔ T x y ∨ P state) (state : σ) :
    P (eachCell rows cols step state) ↔ (∃ y ∈ rows, ∃ x ∈ cols, T x y) ∨ P state :=
  foldl_iff P (fun y => ∃ x ∈ cols, T x y)
    (fun y row => foldl_iff P (fun x => T x y) fun x col => steps x col y row) state

theorem eachCell_keeps {σ : Type} {P : σ → Prop} {rows cols : List Int} {step : Int → Int → σ → σ}
    (keeps : ∀ x ∈ cols, ∀ y ∈ rows, ∀ state, P state → P (step x y state)) {state : σ}
    (holds : P state) : P (eachCell rows cols step state) := by
  refine List.foldlRecOn rows _ holds fun state holds y row => ?_
  exact List.foldlRecOn cols _ holds fun state holds x col => keeps x col y row state holds

def outDim (gridDim roomSize : Int) : Nat := (gridDim * (roomSize + 1) + 1).toNat

def openRooms {n : Nat} (gridDim roomSize : Int) (blocked : BlockedGrid n n) : BlockedGrid n n :=
  let stride := roomSize + 1
  let rooms := Int.range 0 gridDim
  let size := Int.range 0 roomSize
  eachCell rooms rooms (fun rx ry => eachCell size size fun dx dy blocked =>
    blocked.put (rx * stride + 1 + dx) (ry * stride + 1 + dy) false) blocked

-- The wall between two rooms is as wide as a room where it is open.
def openCorridors {n : Nat} (edgeSet : WallEdgeSet) (gridDim roomSize : Int)
    (blocked : BlockedGrid n n) : BlockedGrid n n :=
  let stride := roomSize + 1
  let rooms := Int.range 0 gridDim
  let size := Int.range 0 roomSize
  eachCell rooms rooms (fun rx ry blocked =>
    let blocked :=
      if rx + 1 < gridDim ∧ !edgeSet.hasWall rx ry (rx + 1) ry then
        size.foldl (fun blocked dy => blocked.put ((rx + 1) * stride) (ry * stride + 1 + dy) false)
          blocked
      else blocked
    if ry + 1 < gridDim ∧ !edgeSet.hasWall rx ry rx (ry + 1) then
      size.foldl (fun blocked dx => blocked.put (rx * stride + 1 + dx) ((ry + 1) * stride) false)
        blocked
    else blocked) blocked

def edgesToBlockedGrid (edgeSet : WallEdgeSet) (gridDim roomSize : Int) :
    BlockedGrid (outDim gridDim roomSize) (outDim gridDim roomSize) :=
  openCorridors edgeSet gridDim roomSize (openRooms gridDim roomSize (BlockedGrid.full _ _))

def addRoomObstacles {n : Nat} (blocked : BlockedGrid n n) (gridDim roomSize : Int) (density : ℚ)
    (rng : Rng) (start goal : Room) (safeRadius : Int) : BlockedGrid n n × Rng :=
  if density ≤ 0 then (blocked, rng)
  else
    let stride := roomSize + 1
    let rooms := Int.range 0 gridDim
    eachCell rooms rooms (fun rx ry state =>
      if |rx - start.1| ≤ safeRadius ∧ |ry - start.2| ≤ safeRadius then state
      else if |rx - goal.1| ≤ safeRadius ∧ |ry - goal.2| ≤ safeRadius then state
      else
        -- Rooms of three cells and more keep their edges clear.
        let inner := if 3 ≤ roomSize then Int.range 1 (roomSize - 1) else Int.range 0 roomSize
        eachCell inner inner (fun dx dy (blocked, rng) =>
          let (drawn, rng) := rng.random
          (if drawn < density then
              blocked.put (rx * stride + 1 + dx) (ry * stride + 1 + dy) true
            else blocked, rng)) state) (blocked, rng)

def clearBlockedSafeZone {n : Nat} (blocked : BlockedGrid n n) (gx gy radius : Int) :
    BlockedGrid n n :=
  let offsets := Int.range (-radius) (radius + 1)
  eachCell offsets offsets (fun dx dy blocked =>
    if BlockedGrid.Within n n (gx + dx) (gy + dy) then blocked.put (gx + dx) (gy + dy) false
    else blocked) blocked

def ACTION_DIRECTIONS : List (Int × Int) :=
  [(0, 1), (1, 1), (1, 0), (1, -1), (0, -1), (-1, -1), (-1, 0), (-1, 1)]

namespace BlockedGrid

variable {cols rows : Nat}

def neighbours (blocked : BlockedGrid cols rows) (current : Int) : List Int :=
  let gx := current % cols
  let gy := current / cols
  ACTION_DIRECTIONS.filterMap fun (dx, dy) =>
    let (nx, ny) := (gx + dx, gy + dy)
    if !blocked.walkable nx ny then none
    else if dx ≠ 0 && dy ≠ 0 && (!blocked.walkable (gx + dx) gy || !blocked.walkable gx (gy + dy)) then
      none
    else some (ny * cols + nx)

theorem inside_of_walkable {blocked : BlockedGrid cols rows} {cell : Int × Int}
    (walkable : blocked.walkable cell.1 cell.2 = true) : Grid.Inside cols rows cell := by
  simp only [BlockedGrid.walkable, Bool.and_eq_true, decide_eq_true_eq] at walkable
  exact walkable.1

theorem numbered (blocked : BlockedGrid cols rows) :
    Grid.Numbered cols rows blocked.walkable blocked.neighbours where
  bounded cell := inside_of_walkable
  moves a inside number := by
    unfold neighbours
    rw [Grid.index_mod inside, Grid.index_div inside, List.mem_filterMap]
    constructor
    · rintro ⟨⟨dx, dy⟩, direction, made⟩
      dsimp only at made
      split at made
      · cases made
      case isFalse open_ =>
        split at made
        · cases made
        case isFalse corners =>
          have listed : (dx, dy) ∈ Grid.directions := direction
          refine ⟨(a.1 + dx, a.2 + dy), ⟨by simpa using listed, by simpa using open_, ?_⟩, ?_⟩
          · intro across along
            simpa [show dx ≠ 0 by simpa using across, show dy ≠ 0 by simpa using along] using corners
          · exact (Option.some.inj made).symm
    · rintro ⟨b, ⟨direction, target, corners⟩, rfl⟩
      refine ⟨(b.1 - a.1, b.2 - a.2), direction, ?_⟩
      have column : a.1 + (b.1 - a.1) = b.1 := by omega
      have row : a.2 + (b.2 - a.2) = b.2 := by omega
      dsimp only
      rw [column, row, target, if_neg (by simp), if_neg]
      · rfl
      · intro bad
        simp only [Bool.and_eq_true, Bool.or_eq_true, decide_eq_true_eq, ne_eq, sub_eq_zero] at bad
        obtain ⟨⟨across, along⟩, blocked⟩ := bad
        simp [corners across along] at blocked

end BlockedGrid

def shortestActionSteps {cols rows : Nat} (blocked : BlockedGrid cols rows)
    (startGx startGy goalGx goalGy : Int) : Int :=
  if !blocked.walkable startGx startGy || !blocked.walkable goalGx goalGy then -1
  else
    match Search.bfs blocked.neighbours (goalGy * cols + goalGx) (cols * rows + 1)
        (startGy * cols + startGx) with
    | some steps => steps
    | none => -1

theorem shortestActionSteps_eq {cols rows : Nat} {blocked : BlockedGrid cols rows}
    {start goal : Int × Int} (from_ : blocked.walkable start.1 start.2 = true)
    (to_ : blocked.walkable goal.1 goal.2 = true) :
    ∃ answer, Search.Shortest (Grid.Move blocked.walkable) start goal answer ∧
      shortestActionSteps blocked start.1 start.2 goal.1 goal.2 =
        (answer.elim (-1) fun steps => (steps : Int)) := by
  have found : Search.Shortest (Grid.Move blocked.walkable) start goal
      (Search.bfs blocked.neighbours (Grid.index cols goal) (cols * rows + 1)
        (Grid.index cols start)) :=
    blocked.numbered.shortest (BlockedGrid.inside_of_walkable from_)
      (BlockedGrid.inside_of_walkable to_)
      (by rw [← Int.natCast_mul, Int.toNat_natCast]; omega)
  refine ⟨_, found, ?_⟩
  rw [shortestActionSteps, from_, to_, if_neg (by simp)]
  unfold Grid.index
  split <;> simp_all

def blockedBitmapBytes {cols rows : Nat} (blocked : BlockedGrid cols rows) : List UInt8 :=
  (Int.range 0 rows).flatMap fun gy => (Int.range 0 cols).map fun gx =>
    if blocked.cell gx gy then 1 else 0

end MazeClient
