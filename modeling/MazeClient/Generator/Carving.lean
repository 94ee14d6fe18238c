import MazeClient.Generator.WallEdgeSet
import Mathlib.Data.Finset.Prod
import Mathlib.Data.Int.Interval
import Mathlib.Logic.Relation

set_option autoImplicit false

namespace MazeClient

structure Room.Inside (gridDim : Int) (room : Room) : Prop where
  left : 0 ≤ room.1
  right : room.1 < gridDim
  bottom : 0 ≤ room.2
  top : room.2 < gridDim

def Room.Adjacent (a b : Room) : Prop := (b.1 - a.1, b.2 - a.2) ∈ DIRECTIONS

theorem Room.Adjacent.symm {a b : Room} (adjacent : a.Adjacent b) : b.Adjacent a := by
  simp only [Adjacent, DIRECTIONS, List.mem_cons, Prod.mk.injEq, List.not_mem_nil, or_false] at *
  omega

structure Passage (edgeSet : WallEdgeSet) (a b : Room) : Prop where
  fromInside : a.Inside edgeSet.gridDim
  toInside : b.Inside edgeSet.gridDim
  adjacent : a.Adjacent b
  clear : edgeSet.hasWall a.1 a.2 b.1 b.2 = false

theorem WallEdgeSet.hasWall_comm (edgeSet : WallEdgeSet) (a b : Room) :
    edgeSet.hasWall a.1 a.2 b.1 b.2 = edgeSet.hasWall b.1 b.2 a.1 a.2 := by
  rw [hasWall, hasWall, Sym2.eq_swap]

theorem Passage.symm {edgeSet : WallEdgeSet} {a b : Room} (passage : Passage edgeSet a b) :
    Passage edgeSet b a :=
  ⟨passage.toInside, passage.fromInside, passage.adjacent.symm,
    (edgeSet.hasWall_comm b a).trans passage.clear⟩

def Joined (edgeSet : WallEdgeSet) : Room → Room → Prop :=
  Relation.ReflTransGen (Passage edgeSet)

theorem Joined.symm {edgeSet : WallEdgeSet} {a b : Room} (joined : Joined edgeSet a b) :
    Joined edgeSet b a := by
  induction joined with
  | refl => exact .refl
  | tail _ passage ih => exact .head passage.symm ih

structure WallEdgeSet.Opened (before after : WallEdgeSet) : Prop where
  gridDim : after.gridDim = before.gridDim
  walls : ∀ edge ∈ after.walls, edge ∈ before.walls

namespace WallEdgeSet.Opened

variable {before between after : WallEdgeSet}

theorem refl (edgeSet : WallEdgeSet) : edgeSet.Opened edgeSet := ⟨rfl, fun _ => id⟩

theorem trans (first : before.Opened between) (second : between.Opened after) :
    before.Opened after :=
  ⟨second.gridDim.trans first.gridDim, fun edge member => first.walls edge (second.walls edge member)⟩

theorem discard (edgeSet : WallEdgeSet) (edge : Sym2 Room) :
    edgeSet.Opened (edgeSet.discard edge) :=
  ⟨rfl, fun _ member => (List.mem_filter.mp member).1⟩

theorem foldl {α : Type} {step : WallEdgeSet → α → WallEdgeSet}
    (opens : ∀ (edgeSet : WallEdgeSet) a, edgeSet.Opened (step edgeSet a)) (edges : List α)
    (edgeSet : WallEdgeSet) : edgeSet.Opened (edges.foldl step edgeSet) := by
  induction edges generalizing edgeSet with
  | nil => exact .refl _
  | cons edge edges ih => exact (opens edgeSet edge).trans (ih _)

theorem passage (opened : before.Opened after) {a b : Room} (passage : Passage before a b) :
    Passage after a b := by
  obtain ⟨fromInside, toInside, adjacent, clear⟩ := passage
  refine ⟨opened.gridDim ▸ fromInside, opened.gridDim ▸ toInside, adjacent, ?_⟩
  simp only [hasWall, List.contains_eq_mem, decide_eq_false_iff_not] at clear ⊢
  exact fun wall => clear (opened.walls _ wall)

theorem joined (opened : before.Opened after) {a b : Room} (joined : Joined before a b) :
    Joined after a b :=
  Relation.ReflTransGen.mono (fun _ _ => opened.passage) _ _ joined

end WallEdgeSet.Opened

theorem WallEdgeSet.removeWall_clear (edgeSet : WallEdgeSet) (a b : Room) :
    (edgeSet.removeWall a.1 a.2 b.1 b.2).hasWall a.1 a.2 b.1 b.2 = false := by
  simp [removeWall, discard, hasWall]

theorem extraOpenWalls_opened (edgeSet : WallEdgeSet) (ratio : ℚ) (rng : Rng) :
    edgeSet.Opened (extraOpenWalls edgeSet ratio rng).1 := by
  unfold extraOpenWalls
  dsimp only
  split
  · exact .foldl (fun edgeSet edge => .discard edgeSet edge) _ _
  · exact .refl _

theorem clearSafeZone_opened (edgeSet : WallEdgeSet) (gridDim cx cy radius : Int) :
    edgeSet.Opened (clearSafeZone edgeSet gridDim cx cy radius) := by
  refine .foldl (fun edgeSet y => .foldl (fun edgeSet x => ?_) _ _) _ _
  dsimp only
  repeat' split
  · exact (WallEdgeSet.Opened.discard _ _).trans (.discard _ _)
  · exact .discard _ _
  · exact .discard _ _
  · exact .refl _

namespace Carving

theorem mem_neighbors {carving : Carving} {current next : Room} :
    next ∈ carving.neighbors current ↔ current.Adjacent next ∧
      next.Inside carving.edgeSet.gridDim ∧ carving.visited next = false := by
  obtain ⟨nx, ny⟩ := next
  simp only [neighbors, List.mem_filter, List.mem_map, Bool.and_eq_true, decide_eq_true_eq,
    Bool.not_eq_true', Room.Adjacent]
  constructor
  · rintro ⟨⟨⟨dx, dy⟩, direction, same⟩, ⟨⟨⟨left, right⟩, bottom⟩, top⟩, fresh⟩
    cases same
    refine ⟨?_, ⟨left, right, bottom, top⟩, fresh⟩
    simpa using direction
  · rintro ⟨direction, ⟨left, right, bottom, top⟩, fresh⟩
    exact ⟨⟨_, direction, by simp⟩, ⟨⟨⟨left, right⟩, bottom⟩, top⟩, fresh⟩

/-- The invariant of the carving: what has been visited is joined to the first room, and only
rooms on the stack may have unvisited neighbours. -/
structure Carved (gridDim : Int) (carving : Carving) : Prop where
  dim : carving.edgeSet.gridDim = gridDim
  root : carving.visited (0, 0) = true
  inside : ∀ room, carving.visited room = true → room.Inside gridDim
  joined : ∀ room, carving.visited room = true → Joined carving.edgeSet (0, 0) room
  stacked : ∀ room ∈ carving.stack, carving.visited room = true
  finished : ∀ room, carving.visited room = true → room ∉ carving.stack → ∀ next,
    room.Adjacent next → next.Inside gridDim → carving.visited next = true

theorem Carved.start {gridDim : Int} (some_ : 0 < gridDim) (rng : Rng) :
    Carved gridDim (.start gridDim rng) := by
  have only (room : Room) (seen : (Carving.start gridDim rng).visited room = true) :
      room = (0, 0) := by
    by_contra apart
    simp [Carving.start, apart] at seen
  refine ⟨rfl, by simp [Carving.start], ?_, ?_, ?_, ?_⟩
  · rintro room seen
    rw [only room seen]
    exact ⟨le_rfl, some_, le_rfl, some_⟩
  · rintro room seen
    rw [only room seen]
    exact .refl
  · simp [Carving.start]
  · intro room seen out
    exact absurd (only room seen ▸ by simp [Carving.start]) out

theorem turn_cases (carving : Carving) (current : Room) (stack : List Room) :
    (carving.neighbors current = [] ∧ carving.turn current stack = { carving with stack }) ∨
      ∃ next rng, (current.Adjacent next ∧ next.Inside carving.edgeSet.gridDim ∧
          carving.visited next = false) ∧
        carving.turn current stack =
          { edgeSet := carving.edgeSet.removeWall current.1 current.2 next.1 next.2
            visited := Function.update carving.visited next true
            stack := next :: current :: stack
            rng } := by
  unfold turn
  split
  case isTrue none_ => exact .inl ⟨none_, rfl⟩
  case isFalse some_ =>
    have member := @Rng.choice_mem _ carving.rng (carving.neighbors current) some_
    exact .inr ⟨_, _, mem_neighbors.mp member, rfl⟩

theorem visited_update {visited : Room → Bool} {next room : Room} :
    Function.update visited next true room = true ↔ room = next ∨ visited room = true := by
  by_cases same : room = next <;> simp [same]

theorem Carved.turn {gridDim : Int} {carving : Carving} (carved : Carved gridDim carving)
    {current : Room} {stack : List Room} (top : carving.stack = current :: stack) :
    Carved gridDim (carving.turn current stack) := by
  obtain ⟨dim, root, inside, joined, stacked, finished⟩ := carved
  have here := stacked current (top ▸ List.mem_cons_self)
  rcases carving.turn_cases current stack with
    ⟨none_, turned⟩ | ⟨next, rng, ⟨adjacent, within, fresh⟩, turned⟩
  · rw [turned]
    refine ⟨dim, root, inside, joined, fun room member => ?_, fun room seen out next adjacent
      within => ?_⟩
    · exact stacked room (top ▸ List.mem_cons_of_mem _ member)
    · by_cases same : room = current
      · subst same
        by_contra fresh
        have neighbour : next ∈ carving.neighbors room :=
          mem_neighbors.mpr ⟨adjacent, dim ▸ within, by simpa using fresh⟩
        simp [none_] at neighbour
      · exact finished room seen (by simpa [top, same] using out) next adjacent within
  · rw [turned]
    have opened := WallEdgeSet.Opened.discard carving.edgeSet s((current.1, current.2), (next.1, next.2))
    have passage : Passage (carving.edgeSet.removeWall current.1 current.2 next.1 next.2)
        current next :=
      ⟨dim ▸ inside current here, within, adjacent, WallEdgeSet.removeWall_clear _ _ _⟩
    have old {room : Room} (visited : carving.visited room = true) :
        Joined (carving.edgeSet.removeWall current.1 current.2 next.1 next.2) (0, 0) room :=
      opened.joined (joined room visited)
    refine ⟨dim, visited_update.mpr (.inr root), ?_, ?_, ?_, ?_⟩
    · intro room visited
      rcases visited_update.mp visited with rfl | visited
      · exact dim ▸ within
      · exact inside room visited
    · intro room visited
      rcases visited_update.mp visited with rfl | visited
      · exact (old here).tail passage
      · exact old visited
    · intro room waiting
      rcases List.mem_cons.mp waiting with rfl | waiting
      · exact visited_update.mpr (.inl rfl)
      · exact visited_update.mpr (.inr (stacked room (top ▸ waiting)))
    · intro room visited out other adjacent within
      obtain ⟨apart, out⟩ := not_or.mp (List.mem_cons.not.mp out)
      have visited := (visited_update.mp visited).resolve_left apart
      exact visited_update.mpr (.inr (finished room visited (top ▸ out) other adjacent within))

def rooms (gridDim : Int) : Finset Room :=
  @Finset.Ico Int _ Int.instLocallyFiniteOrder 0 gridDim ×ˢ
    @Finset.Ico Int _ Int.instLocallyFiniteOrder 0 gridDim

theorem mem_rooms {gridDim : Int} {room : Room} : room ∈ rooms gridDim ↔ room.Inside gridDim := by
  simp only [rooms, Finset.mem_product, Finset.mem_Ico]
  exact ⟨fun ⟨⟨left, right⟩, bottom, top⟩ => ⟨left, right, bottom, top⟩,
    fun ⟨left, right, bottom, top⟩ => ⟨⟨left, right⟩, bottom, top⟩⟩

theorem card_rooms (gridDim : Int) : (rooms gridDim).card = gridDim.toNat * gridDim.toNat := by
  simp [rooms]

-- A room is pushed once and popped once.
def work (gridDim : Int) (carving : Carving) : Nat :=
  2 * ((rooms gridDim).filter fun room => carving.visited room = false).card + carving.stack.length

theorem start_work {gridDim : Int} (some_ : 0 < gridDim) (rng : Rng) :
    (Carving.start gridDim rng).work gridDim ≤ 2 * gridDim.toNat * gridDim.toNat := by
  have root : (0, 0) ∈ rooms gridDim := mem_rooms.mpr ⟨le_rfl, some_, le_rfl, some_⟩
  have unseen : ((rooms gridDim).filter fun room =>
      (Carving.start gridDim rng).visited room = false) ⊆ (rooms gridDim).erase (0, 0) := by
    intro room unseen
    obtain ⟨member, unseen⟩ := Finset.mem_filter.mp unseen
    refine Finset.mem_erase.mpr ⟨?_, member⟩
    rintro rfl
    simp [Carving.start] at unseen
  have fewer := Finset.card_le_card unseen
  rw [Finset.card_erase_of_mem root, card_rooms] at fewer
  have positive := Finset.card_pos.mpr ⟨_, root⟩
  rw [card_rooms] at positive
  rw [work, Nat.mul_assoc]
  simp only [show (Carving.start gridDim rng).stack = [(0, 0)] from rfl, List.length_singleton]
  omega

theorem Carved.turn_work {gridDim : Int} {carving : Carving} (carved : Carved gridDim carving)
    {current : Room} {stack : List Room} (top : carving.stack = current :: stack) :
    (carving.turn current stack).work gridDim + 1 = carving.work gridDim := by
  rcases carving.turn_cases current stack with
    ⟨-, turned⟩ | ⟨next, rng, ⟨-, within, fresh⟩, turned⟩
  · rw [turned]
    simp [work, top, Nat.add_assoc]
  · rw [turned]
    have fewer : ((rooms gridDim).filter fun room =>
        Function.update carving.visited next true room = false) =
          ((rooms gridDim).filter fun room => carving.visited room = false).erase next := by
      ext room
      by_cases same : room = next <;> simp [same]
    have counted : next ∈ (rooms gridDim).filter fun room => carving.visited room = false :=
      Finset.mem_filter.mpr ⟨mem_rooms.mpr (carved.dim ▸ within), fresh⟩
    have positive := Finset.card_pos.mpr ⟨next, counted⟩
    simp only [work, fewer, Finset.card_erase_of_mem counted, top, List.length_cons]
    omega

theorem Carved.loop {gridDim : Int} {fuel : Nat} {carving : Carving}
    (carved : Carved gridDim carving) (enough : carving.work gridDim ≤ fuel) :
    Carved gridDim (carving.loop fuel) ∧ (carving.loop fuel).stack = [] := by
  induction fuel generalizing carving with
  | zero => exact ⟨carved, by
      simp only [work, Nat.le_zero, Nat.add_eq_zero_iff, List.length_eq_zero_iff] at enough
      exact enough.2⟩
  | succ fuel ih =>
      unfold Carving.loop
      split
      case h_1 empty => exact ⟨carved, empty⟩
      case h_2 current stack top =>
        have less := carved.turn_work top
        exact ih (carved.turn top) (by omega)

end Carving

theorem Room.Inside.induction {gridDim : Int} {P : Room → Prop} (root : P (0, 0))
    (step : ∀ a b : Room, P a → a.Adjacent b → b.Inside gridDim → P b) {room : Room}
    (inside : room.Inside gridDim) : P room := by
  obtain ⟨x, y⟩ := room
  obtain ⟨left, right, bottom, top⟩ := inside
  dsimp only at left right bottom top
  have row : ∀ n : Nat, (n : Int) < gridDim → P (n, 0) := by
    intro n
    induction n with
    | zero => exact fun _ => root
    | succ n ih =>
        intro within
        refine step (n, 0) _ (ih (by omega)) (by simp [Adjacent, DIRECTIONS]) ?_
        exact ⟨by simp; omega, by simpa using within, le_rfl, by simp; omega⟩
  have column : ∀ n : Nat, (n : Int) < gridDim → P (x, n) := by
    intro n
    induction n with
    | zero =>
        intro _
        obtain ⟨m, rfl⟩ := Int.eq_ofNat_of_zero_le left
        exact row m right
    | succ n ih =>
        intro within
        refine step (x, n) _ (ih (by omega)) (by simp [Adjacent, DIRECTIONS]) ?_
        exact ⟨left, right, by simp; omega, by simpa using within⟩
  obtain ⟨n, rfl⟩ := Int.eq_ofNat_of_zero_le bottom
  exact column n top

theorem Carving.Carved.visited_of_inside {gridDim : Int} {carving : Carving}
    (carved : Carved gridDim carving) (empty : carving.stack = []) {room : Room}
    (inside : room.Inside gridDim) : carving.visited room = true :=
  inside.induction carved.root fun a b seen adjacent within =>
    carved.finished a seen (by simp [empty]) b adjacent within

theorem generateMazeEdges_joined {gridDim : Int} (some_ : 0 < gridDim) (rng : Rng) {a b : Room}
    (from_ : a.Inside gridDim) (to_ : b.Inside gridDim) :
    (generateMazeEdges gridDim rng).1.gridDim = gridDim ∧
      Joined (generateMazeEdges gridDim rng).1 a b := by
  obtain ⟨carved, empty⟩ :=
    (Carving.Carved.start some_ rng).loop (Carving.start_work some_ rng)
  have first := carved.joined a (carved.visited_of_inside empty from_)
  have second := carved.joined b (carved.visited_of_inside empty to_)
  exact ⟨carved.dim, first.symm.trans second⟩

end MazeClient
