import MazeClient.Generator.WallDrawing
import MazeClient.Shared.Trail
import Mathlib.Data.Finset.Prod

set_option autoImplicit false

namespace MazeClient

open Search

namespace Preview

def dirs : List (Int × Int) := [(0, 1), (1, 0), (0, -1), (-1, 0)]

-- `(cx << 16) | cy`, as an Int32Array holds it.
def encode (cell : Int × Int) : BitVec 32 :=
  (BitVec.ofInt 32 cell.1 <<< 16) ||| BitVec.ofInt 32 cell.2

def decode (encoded : BitVec 32) : Int × Int :=
  ((encoded.sshiftRight 16).toInt, (encoded &&& 0xFFFF#32).toInt)

-- The open cells beside one.
def streets {n : Nat} (blocked : BlockedGrid n n) (cell : Int × Int) : List (Int × Int) :=
  dirs.filterMap fun (dx, dy) =>
    let (nx, ny) := (cell.1 + dx, cell.2 + dy)
    if ((0 ≤ nx ∧ nx < n) ∧ 0 ≤ ny ∧ ny < n) ∧ blocked.cell nx ny = false then some (nx, ny)
    else none

-- A cell beside the columns is `undefined`, which is not shut.
def shut {n : Nat} (blocked : BlockedGrid n n) (cell : Int × Int) : Bool :=
  decide (BlockedGrid.Within n n cell.1 cell.2) && blocked.cell cell.1 cell.2

def bfsFind {n : Nat} (blocked : BlockedGrid n n) (start goal : Int × Int) :
    Option (Option (List (Int × Int))) :=
  if shut blocked start || shut blocked goal then some none
  else Trail.search encode decode (streets blocked) start goal (n * n + 2) (n * n + 2)
    (Trail.initial (-1) start)

theorem decode_encode {cell : Int × Int} (column : 0 ≤ cell.1 ∧ cell.1 < 32768)
    (row : 0 ≤ cell.2 ∧ cell.2 < 32768) : decode (encode cell) = cell := by
  obtain ⟨x, y⟩ := cell
  obtain ⟨x, rfl⟩ := Int.eq_ofNat_of_zero_le column.1
  obtain ⟨y, rfl⟩ := Int.eq_ofNat_of_zero_le row.1
  have wide : x < 32768 := by omega
  have high : y < 32768 := by omega
  have packed : (encode (x, y)).toNat = x * 65536 + y := by
    have shifted : x <<< 16 % 2 ^ 32 = x <<< 16 := Nat.mod_eq_of_lt (by rw [Nat.shiftLeft_eq]; omega)
    rw [encode, BitVec.toNat_or, BitVec.toNat_shiftLeft, BitVec.ofInt_natCast, BitVec.ofInt_natCast,
      BitVec.toNat_ofNat, BitVec.toNat_ofNat, Nat.mod_eq_of_lt (by omega : x < 2 ^ 32),
      Nat.mod_eq_of_lt (by omega : y < 2 ^ 32), shifted,
      ← Nat.shiftLeft_add_eq_or_of_lt (by omega : y < 2 ^ 16), Nat.shiftLeft_eq]
  have signed : (encode (x, y)).toInt = ((x * 65536 + y : Nat) : Int) := by
    rw [BitVec.toInt_eq_toNat_of_lt (by omega), packed]
  have low : (encode (x, y) &&& 0xFFFF#32).toNat = y := by
    rw [BitVec.toNat_and, packed]
    change (x * 65536 + y) &&& (2 ^ 16 - 1) = y
    rw [Nat.and_two_pow_sub_one_eq_mod]
    omega
  rw [decode, BitVec.toInt_sshiftRight, signed, BitVec.toInt_eq_toNat_of_lt (by omega), low]
  refine Prod.ext ?_ rfl
  simp only [Int.shiftRight_eq_div_pow]
  omega

section

variable {n : Nat} {blocked : BlockedGrid n n}

theorem mem_streets {a b : Int × Int} : b ∈ streets blocked a ↔
    (b.1 - a.1, b.2 - a.2) ∈ dirs ∧ blocked.walkable b.1 b.2 = true := by
  have open_ : blocked.walkable b.1 b.2 = true ↔
      ((0 ≤ b.1 ∧ b.1 < n) ∧ 0 ≤ b.2 ∧ b.2 < n) ∧ blocked.cell b.1 b.2 = false := by
    simp only [BlockedGrid.walkable, Bool.and_eq_true, decide_eq_true_eq, Bool.not_eq_true']
    exact Iff.rfl
  rw [streets, List.mem_filterMap, open_]
  constructor
  · rintro ⟨⟨dx, dy⟩, direction, made⟩
    dsimp only at made
    split at made
    case isTrue free =>
      obtain rfl := Option.some.inj made
      exact ⟨by simpa using direction, free⟩
    case isFalse => cases made
  · rintro ⟨direction, free⟩
    refine ⟨_, direction, ?_⟩
    have column : a.1 + (b.1 - a.1) = b.1 := by omega
    have row : a.2 + (b.2 - a.2) = b.2 := by omega
    dsimp only
    rw [column, row, if_pos free]

theorem streets_beside {a b : Int × Int} (open_ : blocked.walkable a.1 a.2 = true) :
    b ∈ streets blocked a ↔ Grid.Beside blocked.walkable a b := by
  rw [mem_streets]
  have same (offset : Int × Int) : offset ∈ dirs ↔
      offset ∈ [((1 : Int), (0 : Int)), (0, 1), (-1, 0), (0, -1)] := by
    simp only [dirs, List.mem_cons, List.not_mem_nil, or_false]
    tauto
  rw [same]
  exact ⟨fun ⟨direction, target⟩ => ⟨open_, target, direction⟩,
    fun beside => ⟨beside.direction, beside.target⟩⟩

theorem route_streets {start goal : Int × Int} (open_ : blocked.walkable start.1 start.2 = true)
    {path : List (Int × Int)} :
    Route (fun a b => b ∈ streets blocked a) start goal path ↔
      Route (Grid.Beside blocked.walkable) start goal path := by
  let free (cell : Int × Int) : Prop := blocked.walkable cell.1 cell.2 = true
  constructor
  · refine fun route => (route.along free open_ fun a b held next => ?_).1
    have beside := (streets_beside held).mp next
    exact ⟨beside, beside.target⟩
  · refine fun route => (route.along free open_ fun a b held beside => ?_).1
    exact ⟨(streets_beside held).mpr beside, beside.target⟩

def nodes (n : Nat) : Finset (Int × Int) :=
  (Finset.range n ×ˢ Finset.range n).image fun cell => ((cell.1 : Int), (cell.2 : Int))

theorem mem_nodes {cell : Int × Int} : cell ∈ nodes n ↔ BlockedGrid.Within n n cell.1 cell.2 := by
  simp only [nodes, Finset.mem_image, Finset.mem_product, Finset.mem_range, BlockedGrid.Within]
  constructor
  · rintro ⟨⟨x, y⟩, ⟨column, row⟩, rfl⟩
    dsimp only at column row ⊢
    omega
  · rintro ⟨column, row⟩
    exact ⟨(cell.1.toNat, cell.2.toNat), ⟨by omega, by omega⟩, Prod.ext (by simp [column.1])
      (by simp [row.1])⟩

theorem card_nodes : (nodes n).card ≤ n * n :=
  Finset.card_image_le.trans (by simp)

theorem within_of_walkable {cell : Int × Int} (open_ : blocked.walkable cell.1 cell.2 = true) :
    BlockedGrid.Within n n cell.1 cell.2 :=
  BlockedGrid.inside_of_walkable open_

theorem open_of_walkable {cell : Int × Int} (open_ : blocked.walkable cell.1 cell.2 = true) :
    shut blocked cell = false := by
  rw [shut, BlockedGrid.walkable_iff.mp open_, Bool.and_false]

theorem bfsFind_route {start goal : Int × Int} (small : n ≤ 32768)
    (from_ : blocked.walkable start.1 start.2 = true)
    (to_ : blocked.walkable goal.1 goal.2 = true) :
    ∃ answer, bfsFind blocked start goal = some answer ∧
      ShortestRoute (Grid.Beside blocked.walkable) start goal answer := by
  have packed (cell : Int × Int) (member : cell ∈ nodes n) : decode (encode cell) = cell := by
    obtain ⟨column, row⟩ := mem_nodes.mp member
    exact decode_encode ⟨column.1, by omega⟩ ⟨row.1, by omega⟩
  have inside (a : Int × Int) (_ : a ∈ nodes n) (b : Int × Int) (next : b ∈ streets blocked a) :
      b ∈ nodes n :=
    mem_nodes.mpr (within_of_walkable (mem_streets.mp next).2)
  obtain ⟨answer, ran, shortest⟩ := @Trail.search_shortest _ _ _ encode decode (streets blocked)
    start goal (nodes n) packed inside (mem_nodes.mpr (within_of_walkable from_)) (n * n + 2)
    (by have := @card_nodes n; omega) (-1)
  refine ⟨answer, ?_, (ShortestRoute.congr fun _ => route_streets from_).mp shortest⟩
  rw [bfsFind, open_of_walkable from_, open_of_walkable to_]
  exact ran

theorem shortest_bounds {start goal : Int × Int}
    {answer : Option (List (Int × Int))} (from_ : blocked.walkable start.1 start.2 = true)
    (to_ : blocked.walkable goal.1 goal.2 = true)
    (shortest : ShortestRoute (Grid.Beside blocked.walkable) start goal answer) :
    let steps := shortestActionSteps blocked start.1 start.2 goal.1 goal.2
    (answer = none ↔ steps = -1) ∧
      ∀ path ∈ answer, steps ≤ (path.length - 1 : Nat) ∧ (path.length - 1 : Nat) ≤ 2 * steps := by
  intro steps
  obtain ⟨least, found, counted⟩ := shortestActionSteps_eq from_ to_
  have value : steps = least.elim (-1) fun steps => (steps : Int) := counted
  cases answer with
  | none =>
      refine ⟨⟨fun _ => ?_, fun _ => rfl⟩, nofun⟩
      cases least with
      | none => exact value
      | some least =>
          obtain ⟨-, sides, -, way⟩ := Grid.beside_of_moves from_ found.1
          obtain ⟨path, route, -⟩ := way.route
          exact absurd route (shortest path)
  | some path =>
      have way := Grid.moves_of_beside shortest.1.walk
      cases least with
      | none => exact absurd way (found _)
      | some least =>
          obtain ⟨walk, fewest⟩ := found
          obtain ⟨-, sides, bound, around⟩ := Grid.beside_of_moves from_ walk
          obtain ⟨other, route, length⟩ := around.route
          have longest := shortest.2 other route
          have low := fewest _ way
          rw [Option.elim_some] at value
          refine ⟨⟨nofun, fun missing => by omega⟩, fun shown member => ?_⟩
          obtain rfl := Option.some.inj member
          omega

/-- The preview finds a shortest way over the sides of the cells exactly where the generator finds
actions that lead to the goal, and no shorter than these and at most twice as long. -/
theorem bfsFind_shortest {start goal : Int × Int} (small : n ≤ 32768)
    (from_ : blocked.walkable start.1 start.2 = true)
    (to_ : blocked.walkable goal.1 goal.2 = true) :
    let steps := shortestActionSteps blocked start.1 start.2 goal.1 goal.2
    ∃ answer, bfsFind blocked start goal = some answer ∧
      ShortestRoute (Grid.Beside blocked.walkable) start goal answer ∧
      (answer = none ↔ steps = -1) ∧
      ∀ path ∈ answer, steps ≤ (path.length - 1 : Nat) ∧ (path.length - 1 : Nat) ≤ 2 * steps := by
  obtain ⟨answer, ran, shortest⟩ := bfsFind_route small from_ to_
  exact ⟨answer, ran, shortest, shortest_bounds from_ to_ shortest⟩

theorem bfsFind_shortest_diagonal :
    ∃ path, bfsFind (BlockedGrid.clear 2 2) (0, 0) (1, 1) = some (some path) ∧
      path.length - 1 ≤ 2 := by
  obtain ⟨answer, ran, shortest, found, bound⟩ := @bfsFind_shortest 2 (BlockedGrid.clear 2 2) (0, 0)
    (1, 1) (by decide) (by decide +kernel) (by decide +kernel)
  have steps : shortestActionSteps (BlockedGrid.clear 2 2) 0 0 1 1 = 1 := by decide +kernel
  dsimp only at found bound
  rw [steps] at found bound
  cases answer with
  | none => exact absurd (found.mp rfl) (by decide)
  | some path => exact ⟨path, ran, by have := (bound path rfl).2; omega⟩

end

end Preview

end MazeClient
