import Mathlib.Data.Int.Range
import Mathlib.Data.Rat.Floor
import Mathlib.Data.Sym.Sym2

set_option autoImplicit false

namespace MazeClient

structure Rng where
  draws : Nat → Nat
  used : Nat := 0

namespace Rng

def below (rng : Rng) (bound : Nat) : Nat × Rng :=
  (rng.draws rng.used % bound, { rng with used := rng.used + 1 })

-- A multiple of 2^-53 in [0, 1).
def random (rng : Rng) : ℚ × Rng :=
  let (drawn, rng) := rng.below (2 ^ 53)
  (drawn / 2 ^ 53, rng)

def randint (rng : Rng) (low high : Int) : Int × Rng :=
  let (drawn, rng) := rng.below (high - low + 1).toNat
  (low + drawn, rng)

theorem randint_bounds {rng : Rng} {low high : Int} (some_ : low ≤ high) :
    low ≤ (rng.randint low high).1 ∧ (rng.randint low high).1 ≤ high := by
  have drawn : rng.draws rng.used % (high - low + 1).toNat < (high - low + 1).toNat :=
    Nat.mod_lt _ (by omega)
  change low ≤ low + ((_ % _ : Nat) : Int) ∧ low + ((_ % _ : Nat) : Int) ≤ high
  omega

def choice {α : Type} (rng : Rng) (seq : List α) (some_ : seq ≠ []) : α × Rng :=
  (seq.get ⟨(rng.below seq.length).1, Nat.mod_lt _ (List.length_pos_iff.mpr some_)⟩,
    (rng.below seq.length).2)

theorem choice_mem {α : Type} {rng : Rng} {seq : List α} {some_ : seq ≠ []} :
    (rng.choice seq some_).1 ∈ seq := List.get_mem _ _

def sample {α : Type} (rng : Rng) (population : List α) : Nat → List α × Rng
  | 0 => ([], rng)
  | count + 1 =>
      let (index, rng) := rng.below population.length
      let (rest, rng) := rng.sample (population.eraseIdx index) count
      ((population[index]?).toList ++ rest, rng)

end Rng

abbrev Room := Int × Int

def DIRECTIONS : List (Int × Int) := [(1, 0), (0, 1), (-1, 0), (0, -1)]

structure WallEdgeSet where
  gridDim : Int
  walls : List (Sym2 Room)

namespace WallEdgeSet

def init (gridDim : Int) : WallEdgeSet where
  gridDim
  walls := (Int.range 0 gridDim).flatMap fun y => (Int.range 0 gridDim).flatMap fun x =>
    (if x + 1 < gridDim then [s((x, y), (x + 1, y))] else []) ++
      (if y + 1 < gridDim then [s((x, y), (x, y + 1))] else [])

def hasWall (edgeSet : WallEdgeSet) (x1 y1 x2 y2 : Int) : Bool :=
  edgeSet.walls.contains s((x1, y1), (x2, y2))

def discard (edgeSet : WallEdgeSet) (edge : Sym2 Room) : WallEdgeSet :=
  { edgeSet with walls := edgeSet.walls.filter (· ≠ edge) }

def removeWall (edgeSet : WallEdgeSet) (x1 y1 x2 y2 : Int) : WallEdgeSet :=
  edgeSet.discard s((x1, y1), (x2, y2))

end WallEdgeSet

structure Carving where
  edgeSet : WallEdgeSet
  visited : Room → Bool
  stack : List Room
  rng : Rng

namespace Carving

def start (gridDim : Int) (rng : Rng) : Carving where
  edgeSet := .init gridDim
  visited := Function.update (fun _ => false) (0, 0) true
  stack := [(0, 0)]
  rng

def neighbors (carving : Carving) (current : Room) : List Room :=
  (DIRECTIONS.map fun (dx, dy) => (current.1 + dx, current.2 + dy)).filter fun (nx, ny) =>
    0 ≤ nx && nx < carving.edgeSet.gridDim && 0 ≤ ny && ny < carving.edgeSet.gridDim &&
      !carving.visited (nx, ny)

def turn (carving : Carving) (current : Room) (stack : List Room) : Carving :=
  if some_ : carving.neighbors current = [] then { carving with stack }
  else
    let (next, rng) := carving.rng.choice (carving.neighbors current) some_
    { edgeSet := carving.edgeSet.removeWall current.1 current.2 next.1 next.2
      visited := Function.update carving.visited next true
      stack := next :: current :: stack
      rng }

def loop : Nat → Carving → Carving
  | 0, carving => carving
  | fuel + 1, carving =>
      match carving.stack with
      | [] => carving
      | current :: stack => loop fuel (carving.turn current stack)

end Carving

-- Every room is put on the stack and taken off it once.
def generateMazeEdges (gridDim : Int) (rng : Rng) : WallEdgeSet × Rng :=
  let carving := Carving.loop (2 * gridDim.toNat * gridDim.toNat) (.start gridDim rng)
  (carving.edgeSet, carving.rng)

def extraOpenWalls (edgeSet : WallEdgeSet) (ratio : ℚ) (rng : Rng) : WallEdgeSet × Rng :=
  let remaining := edgeSet.walls
  let scaled := (remaining.length : ℚ) * ratio
  let count := scaled.num.tdiv scaled.den
  if 0 < count then
    let (toRemove, rng) := rng.sample remaining (min count.toNat remaining.length)
    (toRemove.foldl WallEdgeSet.discard edgeSet, rng)
  else (edgeSet, rng)

def clearSafeZone (edgeSet : WallEdgeSet) (gridDim cx cy radius : Int) : WallEdgeSet :=
  (Int.range (max 0 (cy - radius)) (min gridDim (cy + radius + 1))).foldl (fun edgeSet y =>
    (Int.range (max 0 (cx - radius)) (min gridDim (cx + radius + 1))).foldl (fun edgeSet x =>
      let edgeSet :=
        if x + 1 < gridDim ∧ x + 1 ≤ cx + radius then edgeSet.removeWall x y (x + 1) y else edgeSet
      if y + 1 < gridDim ∧ y + 1 ≤ cy + radius then edgeSet.removeWall x y x (y + 1) else edgeSet)
      edgeSet) edgeSet

end MazeClient
