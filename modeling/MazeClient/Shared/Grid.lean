import MazeClient.Shared.Search
import Mathlib.Data.Finset.Card
import Mathlib.Data.Int.Interval
import Mathlib.Data.Int.Range

set_option autoImplicit false

namespace Grid

open Search

def directions : List (Int × Int) :=
  [(0, 1), (1, 1), (1, 0), (1, -1), (0, -1), (-1, -1), (-1, 0), (-1, 1)]

structure Move (walkable : Int → Int → Bool) (a b : Int × Int) : Prop where
  direction : (b.1 - a.1, b.2 - a.2) ∈ directions
  target : walkable b.1 b.2 = true
  corners : b.1 ≠ a.1 → b.2 ≠ a.2 → walkable b.1 a.2 = true ∧ walkable a.1 b.2 = true

def Inside (cols rows : Int) (cell : Int × Int) : Prop :=
  (0 ≤ cell.1 ∧ cell.1 < cols) ∧ 0 ≤ cell.2 ∧ cell.2 < rows

-- Cells are numbered row by row.
def index (cols : Int) (cell : Int × Int) : Int := cell.2 * cols + cell.1

theorem index_mod {cols rows : Int} {cell : Int × Int} (inside : Inside cols rows cell) :
    index cols cell % cols = cell.1 := by
  rw [index, Int.add_comm, Int.add_mul_emod_self_right]
  exact Int.emod_eq_of_lt inside.1.1 inside.1.2

theorem index_div {cols rows : Int} {cell : Int × Int} (inside : Inside cols rows cell) :
    index cols cell / cols = cell.2 := by
  have positive : cols ≠ 0 := by have := inside.1; omega
  rw [index, Int.add_comm, Int.add_mul_ediv_right _ _ positive,
    Int.ediv_eq_zero_of_lt inside.1.1 inside.1.2, Int.zero_add]

theorem index_injective {cols rows : Int} {a b : Int × Int} (first : Inside cols rows a)
    (second : Inside cols rows b) (same : index cols a = index cols b) : a = b := by
  apply Prod.ext
  · rw [← index_mod first, same, index_mod second]
  · rw [← index_div first, same, index_div second]

def indices (cols rows : Int) : Finset Int := (Int.range 0 (cols * rows)).toFinset

theorem mem_indices {cols rows number : Int} :
    number ∈ indices cols rows ↔ 0 ≤ number ∧ number < cols * rows := by
  rw [indices, List.mem_toFinset, Int.mem_range_iff]

theorem card_indices (cols rows : Int) : (indices cols rows).card = (cols * rows).toNat := by
  have distinct : (Int.range 0 (cols * rows)).Nodup :=
    List.nodup_range.map fun first second same => by
      simpa only [Int.zero_add, Int.ofNat_inj] using same
  rw [indices, List.toFinset_card_of_nodup distinct]
  simp [Int.range]

theorem index_mem {cols rows : Int} {cell : Int × Int} (inside : Inside cols rows cell) :
    index cols cell ∈ indices cols rows := by
  obtain ⟨⟨left, right⟩, bottom, top⟩ := inside
  rw [mem_indices, index]
  have low : 0 ≤ cell.2 * cols := Int.mul_nonneg bottom (by omega)
  have high : (cell.2 + 1) * cols ≤ rows * cols := Int.mul_le_mul_of_nonneg_right top (by omega)
  rw [Int.add_mul, Int.one_mul] at high
  rw [Int.mul_comm cols]
  omega

/-- A search over cell numbers that makes exactly the moves of the grid. -/
structure Numbered (cols rows : Int) (walkable : Int → Int → Bool) (next : Int → List Int) :
    Prop where
  bounded : ∀ cell : Int × Int, walkable cell.1 cell.2 = true → Inside cols rows cell
  moves : ∀ a, Inside cols rows a → ∀ number,
    number ∈ next (index cols a) ↔ ∃ b, Move walkable a b ∧ number = index cols b

section

variable {cols rows : Int} {walkable : Int → Int → Bool} {next : Int → List Int}
  {start : Int × Int}

theorem Numbered.walk (numbered : Numbered cols rows walkable next)
    (inside : Inside cols rows start) {steps : Nat} {cell : Int × Int}
    (walk : Walk (Move walkable) start steps cell) :
    Inside cols rows cell ∧
      Walk (fun a b => b ∈ next a) (index cols start) steps (index cols cell) := by
  induction walk with
  | here => exact ⟨inside, .here⟩
  | @step steps a b walk move ih =>
      exact ⟨numbered.bounded b move.target,
        ih.2.step ((numbered.moves a ih.1 _).mpr ⟨b, move, rfl⟩)⟩

theorem Numbered.unwalk (numbered : Numbered cols rows walkable next)
    (inside : Inside cols rows start) {steps : Nat} {number : Int}
    (walk : Walk (fun a b => b ∈ next a) (index cols start) steps number) :
    ∃ cell, Inside cols rows cell ∧ number = index cols cell ∧
      Walk (Move walkable) start steps cell := by
  induction walk with
  | here => exact ⟨start, inside, rfl, .here⟩
  | step walk edge ih =>
      obtain ⟨a, within, rfl, cells⟩ := ih
      obtain ⟨b, move, rfl⟩ := (numbered.moves a within _).mp edge
      exact ⟨b, numbered.bounded b move.target, rfl, cells.step move⟩

theorem Numbered.closed (numbered : Numbered cols rows walkable next) (positive : 0 < cols) :
    ∀ a ∈ indices cols rows, ∀ b ∈ next a, b ∈ indices cols rows := by
  intro number member other edge
  rw [mem_indices] at member
  have inside : Inside cols rows (number % cols, number / cols) := by
    refine ⟨⟨?_, ?_⟩, ?_, ?_⟩
    · exact Int.emod_nonneg _ positive.ne'
    · exact Int.emod_lt_of_pos _ positive
    · exact Int.ediv_nonneg member.1 positive.le
    · exact Int.ediv_lt_of_lt_mul positive (by rw [Int.mul_comm]; exact member.2)
  have same : number = index cols (number % cols, number / cols) := by
    rw [index, Int.mul_comm, Int.mul_ediv_add_emod]
  rw [same] at edge
  obtain ⟨b, move, rfl⟩ := (numbered.moves _ inside other).mp edge
  exact index_mem (numbered.bounded b move.target)

theorem Numbered.shortest (numbered : Numbered cols rows walkable next) {goal : Int × Int}
    (inside : Inside cols rows start) (within : Inside cols rows goal) {fuel : Nat}
    (enough : (cols * rows).toNat < fuel) :
    Shortest (Move walkable) start goal (bfs next (index cols goal) fuel (index cols start)) := by
  have positive : 0 < cols := by have := inside.1; omega
  have found := @bfs_shortest _ _ next (index cols start) (index cols goal) _
    (numbered.closed positive) (index_mem inside) fuel (by rwa [card_indices])
  have least {others : Nat} (walk : Walk (Move walkable) start others goal) :=
    (numbered.walk inside walk).2
  cases answer : bfs next (index cols goal) fuel (index cols start) with
  | none =>
      rw [answer] at found
      exact fun others walk => found others (least walk)
  | some steps =>
      rw [answer] at found
      obtain ⟨cell, there, same, walk⟩ := numbered.unwalk inside found.1
      obtain rfl := index_injective within there same
      exact ⟨walk, fun others walk => found.2 others (least walk)⟩

end

structure Beside (walkable : Int → Int → Bool) (a b : Int × Int) : Prop where
  source : walkable a.1 a.2 = true
  target : walkable b.1 b.2 = true
  direction : (b.1 - a.1, b.2 - a.2) ∈ [((1 : Int), (0 : Int)), (0, 1), (-1, 0), (0, -1)]

section

variable {walkable : Int → Int → Bool} {a b : Int × Int}

theorem Beside.symm (beside : Beside walkable a b) : Beside walkable b a := by
  obtain ⟨source, target, direction⟩ := beside
  refine ⟨target, source, ?_⟩
  simp only [List.mem_cons, Prod.mk.injEq, List.not_mem_nil, or_false] at direction ⊢
  omega

theorem Beside.move (beside : Beside walkable a b) : Move walkable a b := by
  obtain ⟨-, target, direction⟩ := beside
  refine ⟨?_, target, fun across along => ?_⟩
  · revert direction
    generalize (b.1 - a.1, b.2 - a.2) = offset
    simp only [List.mem_cons, List.not_mem_nil, or_false, directions]
    rintro (rfl | rfl | rfl | rfl) <;> simp
  · simp only [List.mem_cons, Prod.mk.injEq, List.not_mem_nil, or_false] at direction
    omega

def Connected (walkable : Int → Int → Bool) : Int × Int → Int × Int → Prop :=
  Relation.ReflTransGen (Beside walkable)

theorem Connected.symm (connected : Connected walkable a b) : Connected walkable b a := by
  induction connected with
  | refl => exact .refl
  | tail _ beside ih => exact .head beside.symm ih

theorem Connected.walk (connected : Connected walkable a b) :
    ∃ steps, Walk (Move walkable) a steps b :=
  Walk.of_reflTransGen (Relation.ReflTransGen.mono (fun _ _ => Beside.move) _ _ connected)

theorem connected_row {x y : Int} {length : Nat}
    (clear : ∀ i : Int, 0 ≤ i → i ≤ length → walkable (x + i) y = true) :
    Connected walkable (x, y) (x + length, y) := by
  induction length with
  | zero =>
      rw [Nat.cast_zero, Int.add_zero]
      exact .refl
  | succ length ih =>
      refine .tail (ih fun i low high => clear i low (by omega)) ⟨?_, ?_, ?_⟩
      · exact clear length (by omega) (by omega)
      · exact clear _ (by omega) (by omega)
      · simp

theorem connected_column {x y : Int} {length : Nat}
    (clear : ∀ i : Int, 0 ≤ i → i ≤ length → walkable x (y + i) = true) :
    Connected walkable (x, y) (x, y + length) := by
  induction length with
  | zero =>
      rw [Nat.cast_zero, Int.add_zero]
      exact .refl
  | succ length ih =>
      refine .tail (ih fun i low high => clear i low (by omega)) ⟨?_, ?_, ?_⟩
      · exact clear length (by omega) (by omega)
      · exact clear _ (by omega) (by omega)
      · simp

-- A diagonal move goes around its corner.
theorem Move.beside (open_ : walkable a.1 a.2 = true) (move : Move walkable a b) :
    Beside walkable a b ∨ ∃ corner, Beside walkable a corner ∧ Beside walkable corner b := by
  obtain ⟨direction, target, corners⟩ := move
  simp only [directions, List.mem_cons, Prod.mk.injEq, List.not_mem_nil, or_false] at direction
  by_cases straight : b.1 = a.1 ∨ b.2 = a.2
  · refine .inl ⟨open_, target, ?_⟩
    simp only [List.mem_cons, Prod.mk.injEq, List.not_mem_nil, or_false]
    omega
  · obtain ⟨across, along⟩ := not_or.mp straight
    have between := (corners across along).1
    refine .inr ⟨(b.1, a.2), ⟨open_, between, ?_⟩, between, target, ?_⟩ <;>
      simp only [List.mem_cons, Prod.mk.injEq, List.not_mem_nil, or_false] <;> omega

theorem beside_of_moves (open_ : walkable a.1 a.2 = true) {steps : Nat}
    (walk : Walk (Move walkable) a steps b) :
    walkable b.1 b.2 = true ∧ ∃ sides ≤ 2 * steps, Walk (Beside walkable) a sides b := by
  induction walk with
  | here => exact ⟨open_, 0, Nat.le_refl 0, .here⟩
  | step walk move ih =>
      obtain ⟨here, sides, bound, way⟩ := ih
      refine ⟨move.target, ?_⟩
      rcases move.beside here with beside | ⟨corner, first, second⟩
      · exact ⟨sides + 1, by omega, way.step beside⟩
      · exact ⟨sides + 1 + 1, by omega, (way.step first).step second⟩

theorem moves_of_beside {steps : Nat} (walk : Walk (Beside walkable) a steps b) :
    Walk (Move walkable) a steps b := by
  induction walk with
  | here => exact .here
  | step walk beside ih => exact ih.step beside.move

end

end Grid
