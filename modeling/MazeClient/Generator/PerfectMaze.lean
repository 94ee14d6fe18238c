import MazeClient.Generator.Carving
import Mathlib.Combinatorics.SimpleGraph.Acyclic

set_option autoImplicit false

namespace MazeClient

theorem Room.Adjacent.ne {a b : Room} (adjacent : a.Adjacent b) : a ≠ b := by
  rintro rfl
  simp [Adjacent, DIRECTIONS] at adjacent

theorem WallEdgeSet.mem_init {gridDim : Int} {a b : Room} :
    s(a, b) ∈ (WallEdgeSet.init gridDim).walls ↔
      a.Inside gridDim ∧ b.Inside gridDim ∧ a.Adjacent b := by
  obtain ⟨ax, ay⟩ := a
  obtain ⟨bx, by_⟩ := b
  simp only [init, List.mem_flatMap, Int.mem_range_iff, List.mem_append, List.mem_ite_nil_right,
    Sym2.eq_iff, Prod.mk.injEq, Room.Adjacent, DIRECTIONS, List.mem_cons,
    List.not_mem_nil, or_false]
  constructor
  · rintro ⟨y, bottom, x, left, ⟨within, same⟩ | ⟨within, same⟩⟩
    · refine ⟨⟨?_, ?_, ?_, ?_⟩, ⟨?_, ?_, ?_, ?_⟩, ?_⟩ <;> omega
    · refine ⟨⟨?_, ?_, ?_, ?_⟩, ⟨?_, ?_, ?_, ?_⟩, ?_⟩ <;> omega
  · rintro ⟨⟨left, right, bottom, top⟩, ⟨left', right', bottom', top'⟩, adjacent⟩
    dsimp only at left right bottom top left' right' bottom' top'
    refine ⟨min ay by_, by omega, min ax bx, by omega, ?_⟩
    by_cases level : ay = by_
    · exact .inl (by omega)
    · exact .inr (by omega)

def removedWalls (gridDim : Int) (edgeSet : WallEdgeSet) : Finset (Sym2 Room) :=
  (WallEdgeSet.init gridDim).walls.toFinset.filter fun edge => edge ∉ edgeSet.walls

theorem mem_removedWalls {gridDim : Int} {edgeSet : WallEdgeSet} {edge : Sym2 Room} :
    edge ∈ removedWalls gridDim edgeSet ↔
      edge ∈ (WallEdgeSet.init gridDim).walls ∧ edge ∉ edgeSet.walls := by
  rw [removedWalls, Finset.mem_filter, List.mem_toFinset]

theorem removedWalls_removeWall {gridDim : Int} {edgeSet : WallEdgeSet} {a b : Room}
    (wall : s(a, b) ∈ (WallEdgeSet.init gridDim).walls) :
    removedWalls gridDim (edgeSet.removeWall a.1 a.2 b.1 b.2) =
      insert s(a, b) (removedWalls gridDim edgeSet) := by
  ext edge
  rw [Finset.mem_insert, mem_removedWalls, mem_removedWalls, WallEdgeSet.removeWall,
    WallEdgeSet.discard, List.mem_filter, decide_eq_true_eq]
  by_cases same : edge = s(a, b)
  · simp [same, wall]
  · simp [same]

namespace Carving

def visitedRooms (gridDim : Int) (carving : Carving) : Finset Room :=
  (rooms gridDim).filter fun room => carving.visited room = true

/-- Only walls between visited rooms are gone, and one fewer than rooms have been visited. -/
structure Spanning (gridDim : Int) (carving : Carving) : Prop where
  opened : (WallEdgeSet.init gridDim).Opened carving.edgeSet
  kept : ∀ edge ∈ removedWalls gridDim carving.edgeSet, ∀ room ∈ edge,
    carving.visited room = true
  count : (removedWalls gridDim carving.edgeSet).card + 1 = (carving.visitedRooms gridDim).card

theorem Spanning.start {gridDim : Int} (some_ : 0 < gridDim) (rng : Rng) :
    Spanning gridDim (.start gridDim rng) := by
  have none_ : removedWalls gridDim (Carving.start gridDim rng).edgeSet = ∅ := by
    refine Finset.eq_empty_of_forall_notMem fun edge gone => ?_
    obtain ⟨wall, gone⟩ := mem_removedWalls.mp gone
    exact gone wall
  have only : (Carving.start gridDim rng).visitedRooms gridDim = {(0, 0)} := by
    ext room
    simp only [visitedRooms, Finset.mem_filter, mem_rooms, Finset.mem_singleton]
    constructor
    · intro ⟨_, seen⟩
      by_contra apart
      simp [Carving.start, apart] at seen
    · rintro rfl
      exact ⟨⟨le_rfl, some_, le_rfl, some_⟩, by simp [Carving.start]⟩
  refine ⟨.refl _, ?_, ?_⟩
  · rw [none_]
    simp
  · rw [none_, only]
    rfl

theorem Spanning.turn {gridDim : Int} {carving : Carving} (spanning : Spanning gridDim carving)
    (carved : Carved gridDim carving) {current : Room} {stack : List Room}
    (top : carving.stack = current :: stack) :
    Spanning gridDim (carving.turn current stack) := by
  obtain ⟨opened, kept, count⟩ := spanning
  have here := carved.stacked current (top ▸ List.mem_cons_self)
  rcases carving.turn_cases current stack with
    ⟨-, turned⟩ | ⟨next, rng, ⟨adjacent, within, fresh⟩, turned⟩
  · rw [turned]
    exact ⟨opened, kept, count⟩
  · rw [turned]
    have wall : s(current, next) ∈ (WallEdgeSet.init gridDim).walls :=
      WallEdgeSet.mem_init.mpr ⟨carved.inside current here, carved.dim ▸ within, adjacent⟩
    -- The wall to a room that has not been visited still stands.
    have standing : s(current, next) ∉ removedWalls gridDim carving.edgeSet := by
      intro gone
      have seen := kept _ gone next (Sym2.mem_mk_right current next)
      rw [fresh] at seen
      cases seen
    have removed := @removedWalls_removeWall _ carving.edgeSet _ _ wall
    have seen : visitedRooms gridDim
        { edgeSet := carving.edgeSet.removeWall current.1 current.2 next.1 next.2
          visited := Function.update carving.visited next true
          stack := next :: current :: stack
          rng } = insert next (carving.visitedRooms gridDim) := by
      ext room
      by_cases same : room = next
      · simp [visitedRooms, same, mem_rooms, carved.dim ▸ within]
      · simp [visitedRooms, same]
    have unseen : next ∉ carving.visitedRooms gridDim := by
      simp [visitedRooms, fresh]
    refine ⟨opened.trans (.discard _ _), ?_, ?_⟩
    · intro edge gone room joined
      rw [visited_update]
      rcases Finset.mem_insert.mp (removed ▸ gone) with rfl | gone
      · rcases Sym2.mem_iff.mp joined with rfl | rfl
        · exact .inr here
        · exact .inl rfl
      · exact .inr (kept edge gone room joined)
    · rw [seen, removed, Finset.card_insert_of_notMem standing, Finset.card_insert_of_notMem unseen,
        count]

theorem Spanning.loop {gridDim : Int} {fuel : Nat} {carving : Carving}
    (spanning : Spanning gridDim carving) (carved : Carved gridDim carving) :
    Spanning gridDim (carving.loop fuel) := by
  induction fuel generalizing carving with
  | zero => exact spanning
  | succ fuel ih =>
    unfold Carving.loop
    split
    case h_1 => exact spanning
    case h_2 current stack top => exact ih (spanning.turn carved top) (carved.turn top)

end Carving

section

variable {gridDim : Int} {edgeSet : WallEdgeSet}

theorem openEdge_symm {a b : Room} (openEdge : a.Adjacent b ∧ s(a, b) ∉ edgeSet.walls) :
    b.Adjacent a ∧ s(b, a) ∉ edgeSet.walls :=
  ⟨openEdge.1.symm, Sym2.eq_swap ▸ openEdge.2⟩

theorem openEdge_irrefl (a : Room) : ¬ (a.Adjacent a ∧ s(a, a) ∉ edgeSet.walls) :=
  fun openEdge => openEdge.1.ne rfl

def openGraph (gridDim : Int) (edgeSet : WallEdgeSet) :
    SimpleGraph {room : Room // room.Inside gridDim} where
  Adj a b := a.1.Adjacent b.1 ∧ s(a.1, b.1) ∉ edgeSet.walls
  symm := ⟨fun _ _ => openEdge_symm⟩
  loopless := ⟨fun a => openEdge_irrefl a.1⟩

theorem openGraph_edges : Sym2.map Subtype.val '' (openGraph gridDim edgeSet).edgeSet =
    removedWalls gridDim edgeSet := by
  ext edge
  rw [Finset.mem_coe, mem_removedWalls]
  constructor
  · rintro ⟨edge, member, rfl⟩
    induction edge using Sym2.ind with
    | h a b => exact ⟨WallEdgeSet.mem_init.mpr ⟨a.2, b.2, member.1⟩, member.2⟩
  · induction edge using Sym2.ind with
    | h a b =>
      intro ⟨wall, gone⟩
      obtain ⟨from_, to_, adjacent⟩ := WallEdgeSet.mem_init.mp wall
      exact ⟨s(⟨a, from_⟩, ⟨b, to_⟩), ⟨adjacent, gone⟩, rfl⟩

theorem card_openGraph : Nat.card (openGraph gridDim edgeSet).edgeSet =
    (removedWalls gridDim edgeSet).card := by
  rw [Nat.card_coe_set_eq, ← Set.ncard_coe_finset, ← openGraph_edges,
    Set.ncard_image_of_injective _ (Sym2.map.injective Subtype.val_injective)]

theorem card_inside : Nat.card {room : Room // room.Inside gridDim} =
    gridDim.toNat * gridDim.toNat := by
  rw [Nat.subtype_card (Carving.rooms gridDim) fun _ => Carving.mem_rooms, Carving.card_rooms]

theorem openGraph_reachable {a b : Room} (dim : edgeSet.gridDim = gridDim)
    (from_ : a.Inside gridDim) (to_ : b.Inside gridDim) (joined : Joined edgeSet a b) :
    (openGraph gridDim edgeSet).Reachable ⟨a, from_⟩ ⟨b, to_⟩ := by
  induction joined with
  | refl => exact .refl _
  | @tail between last _ passage ih =>
    have clear : s(between, last) ∉ edgeSet.walls := by
      simpa [WallEdgeSet.hasWall] using passage.clear
    have edge : (openGraph gridDim edgeSet).Adj ⟨between, dim ▸ passage.fromInside⟩ ⟨last, to_⟩ :=
      ⟨passage.adjacent, clear⟩
    exact (ih _).trans edge.reachable

end

/-- The carving ends, has taken down one wall fewer than there are rooms, and leaves a tree. -/
theorem generateMazeEdges_perfect {gridDim : Int} (some_ : 1 ≤ gridDim) (rng : Rng) :
    (Carving.loop (2 * gridDim.toNat * gridDim.toNat) (.start gridDim rng)).stack = [] ∧
      (∀ edge ∈ (generateMazeEdges gridDim rng).1.walls,
        edge ∈ (WallEdgeSet.init gridDim).walls) ∧
      (removedWalls gridDim (generateMazeEdges gridDim rng).1).card =
        gridDim.toNat * gridDim.toNat - 1 ∧
      Sym2.map Subtype.val '' (openGraph gridDim (generateMazeEdges gridDim rng).1).edgeSet =
        removedWalls gridDim (generateMazeEdges gridDim rng).1 ∧
      ∀ a b : {room : Room // room.Inside gridDim},
        ∃! path : (openGraph gridDim (generateMazeEdges gridDim rng).1).Walk a b, path.IsPath := by
  have positive : 0 < gridDim := by omega
  have initial := Carving.Carved.start positive rng
  obtain ⟨carved, empty⟩ := initial.loop (Carving.start_work positive rng)
  have spanning := @Carving.Spanning.loop _ (2 * gridDim.toNat * gridDim.toNat) _
    (Carving.Spanning.start positive rng) initial
  have visited : (Carving.loop (2 * gridDim.toNat * gridDim.toNat)
      (.start gridDim rng)).visitedRooms gridDim = Carving.rooms gridDim :=
    Finset.filter_true_of_mem fun room member =>
      carved.visited_of_inside empty (Carving.mem_rooms.mp member)
  have count := spanning.count
  rw [visited, Carving.card_rooms] at count
  have tree : (openGraph gridDim (generateMazeEdges gridDim rng).1).IsTree := by
    have : Finite {room : Room // room.Inside gridDim} :=
      Nat.finite_of_card_ne_zero (by rw [card_inside]; omega)
    rw [SimpleGraph.isTree_iff_connected_and_card, card_openGraph, card_inside]
    refine ⟨SimpleGraph.connected_iff_exists_forall_reachable _ |>.mpr
      ⟨⟨(0, 0), carved.inside _ carved.root⟩, fun room => ?_⟩, count⟩
    exact openGraph_reachable carved.dim _ room.2
      (carved.joined room.1 (carved.visited_of_inside empty room.2))
  exact ⟨empty, spanning.opened.walls, Nat.eq_sub_of_add_eq count, openGraph_edges,
    tree.existsUnique_path⟩

theorem generateMazeEdges_perfect_two :
    (removedWalls 2 (generateMazeEdges 2 ⟨fun _ => 0, 0⟩).1).card = 3 ∧
      ∀ a b : {room : Room // room.Inside 2},
        ∃! path : (openGraph 2 (generateMazeEdges 2 ⟨fun _ => 0, 0⟩).1).Walk a b, path.IsPath := by
  obtain ⟨-, -, count, -, paths⟩ := generateMazeEdges_perfect (show 1 ≤ (2 : Int) by decide)
    ⟨fun _ => 0, 0⟩
  exact ⟨count, paths⟩

end MazeClient
