import MazeClient.Generator.MapJson
import MazeClient.Maze.LoadMap

set_option autoImplicit false

namespace MazeClient

open MapFile

def cellDigits (blocked : Bool) : Text := ['0', if blocked then '1' else '0']

section

variable {cols rows : Nat}

theorem map_range_cell {β : Type} (blocked : BlockedGrid cols rows) (f : Bool → β) {y : Nat}
    (row : y < rows) :
    (Int.range 0 cols).map (fun gx => f (blocked.cell gx y)) = blocked[y].toList.map f := by
  apply List.ext_getElem
  · simp [Int.range]
  · intro x inside inside'
    have column : x < cols := by simpa using inside'
    have cell : blocked.cell x y = blocked[y][x] := by
      simp [BlockedGrid.cell, column, row]
    simp [Int.range, cell]

theorem blockedBitmapBytes_eq (blocked : BlockedGrid cols rows) :
    blockedBitmapBytes blocked = blocked.cells.map fun cell => if cell then 1 else 0 := by
  have byRows : (Int.range 0 rows).map (fun gy => (Int.range 0 cols).map fun gx =>
      if blocked.cell gx gy then (1 : UInt8) else 0) =
      blocked.toList.map fun row => row.toList.map fun cell => if cell then 1 else 0 := by
    apply List.ext_getElem
    · simp [Int.range]
    · intro y inside inside'
      have row : y < rows := by simpa using inside'
      have same := map_range_cell blocked (fun cell => if cell then (1 : UInt8) else 0) row
      simpa [Int.range] using same
  have cells : blocked.cells = (blocked.toList.map Vector.toList).flatten := by
    change (blocked.toArray.map Vector.toArray).flatten.toList = _
    rw [Array.toList_flatten, Array.toList_map, List.map_map]
    rfl
  rw [blockedBitmapBytes, List.flatMap_def, byRows, cells, List.map_flatten, List.map_map]
  rfl

end

theorem hex_cells (cells : List Bool) :
    MapData.hex (cells.map fun cell => if cell then 1 else 0) = cells.flatMap cellDigits := by
  unfold MapData.hex
  rw [List.flatMap_map]
  congr 1
  funext cell
  cases cell <;> rfl

theorem length_flatMap_cellDigits (cells : List Bool) :
    (cells.flatMap cellDigits).length = cells.length * 2 := by
  simp [cellDigits]

theorem readBitmap_cellDigits (cells : List Bool) :
    readBitmap (cells.flatMap cellDigits) = some cells := by
  induction cells with
  | nil => rfl
  | cons cell cells ih =>
      have zero : hexValue '0' = 0 := by decide
      have one : hexValue '1' = 1 := by decide
      cases cell <;> simp [cellDigits, readBitmap, zero, one, ih]

theorem hexValue_digit {c : Char} {n : Nat} (small : n < 10) :
    hexValue c = n ↔ c.toNat = '0'.toNat + n := by
  have order (a b : Char) : a ≤ b ↔ a.toNat ≤ b.toNat := Iff.rfl
  have zero : '0'.toNat = 48 := rfl
  have nine : '9'.toNat = 57 := rfl
  have a : 'a'.toNat = 97 := rfl
  have f : 'f'.toNat = 102 := rfl
  have bigA : 'A'.toNat = 65 := rfl
  have bigF : 'F'.toNat = 70 := rfl
  simp only [hexValue, order, zero, nine, a, f, bigA, bigF]
  split
  · omega
  · split
    · omega
    · split <;> omega

theorem hexValue_zero {c : Char} : hexValue c = 0 ↔ c = '0' := by
  have value := @hexValue_digit c 0 (by decide)
  rw [Nat.add_zero, Char.toNat_inj] at value
  exact value

theorem hexValue_one {c : Char} : hexValue c = 1 ↔ c = '1' := by
  have value := @hexValue_digit c 1 (by decide)
  have one : '0'.toNat + 1 = '1'.toNat := rfl
  rw [one, Char.toNat_inj] at value
  exact value

theorem readBitmap_eq {count : Nat} {text : Text} {cells : List Bool}
    (even : text.length = count * 2) (read : readBitmap text = some cells) :
    cells.length = count ∧ text = cells.flatMap cellDigits := by
  induction count generalizing text cells with
  | zero =>
      obtain rfl : text = [] := List.length_eq_zero_iff.mp (by omega)
      obtain rfl : [] = cells := Option.some.inj read
      exact ⟨rfl, rfl⟩
  | succ count ih =>
      cases text with
      | nil => simp at even
      | cons high text =>
      cases text with
      | nil =>
          simp only [List.length_cons, List.length_nil] at even
          omega
      | cons low rest =>
      rw [readBitmap] at read
      split at read
      · cases read
      case isFalse digits =>
        simp only [ne_eq, hexValue_zero, hexValue_one, not_or, not_and, Decidable.not_not]
          at digits
        obtain ⟨later, readLater, rfl⟩ := Option.map_eq_some_iff.mp read
        simp only [List.length_cons] at even
        obtain ⟨length, rfl⟩ := ih (by omega) readLater
        have digit : low = if low = '1' then '1' else '0' := by grind
        refine ⟨by simp [length], ?_⟩
        rw [List.flatMap_cons, cellDigits, digits.1]
        simp only [hexValue_one, decide_eq_true_eq]
        rw [← digit]
        rfl

def decodeBitmap (cols rows : Int) (bitmapHex : Text) : Option (List Bool) :=
  if bitmapHex.length ≠ (wrap (cols * rows)).toNat * 2 then none else readBitmap bitmapHex

theorem decodeBitmap_eq_some {cols rows : Int} {bitmapHex : Text} {cells : List Bool} :
    decodeBitmap cols rows bitmapHex = some cells ↔
      cells.length = (wrap (cols * rows)).toNat ∧ bitmapHex = cells.flatMap cellDigits := by
  unfold decodeBitmap
  split
  case isTrue short =>
    simp only [reduceCtorEq, false_iff]
    rintro ⟨length, rfl⟩
    rw [length_flatMap_cellDigits, length] at short
    exact short rfl
  case isFalse length =>
    constructor
    · exact readBitmap_eq (Decidable.not_not.mp length)
    · rintro ⟨-, rfl⟩
      exact readBitmap_cellDigits cells

namespace BlockedGrid

variable {cols rows : Nat}

def ofCells (cols rows : Nat) (cells : List Bool) : BlockedGrid cols rows :=
  Vector.ofFn fun gy => Vector.ofFn fun gx => cells.getD (gy * cols + gx) true

theorem cells_ofCells {cells : List Bool} (length : cells.length = rows * cols) :
    (ofCells cols rows cells).cells = cells := by
  apply List.ext_getElem
  · rw [length_cells, length]
  · intro index inside inside'
    have row : index / cols < rows := by
      apply Nat.div_lt_of_lt_mul
      rwa [Nat.mul_comm, ← length]
    simp [BlockedGrid.cells, ofCells, Vector.getElem_flatten, Nat.div_add_mod', inside']

end BlockedGrid

/-- The hex digits of a map and its cells stand for one another, both ways. -/
theorem bitmap_round_trip {cols rows : Nat} (fits : cols * rows ≤ 2147483647) :
    (∀ blocked : BlockedGrid cols rows, ∃ cells,
      decodeBitmap cols rows (MapData.hex (blockedBitmapBytes blocked)) = some cells ∧
        (∀ gx gy, BlockedGrid.Within cols rows gx gy →
          cells[(gy * cols + gx).toNat]? = some (blocked.cell gx gy)) ∧
        ∀ map : GridMap, map.blocked = cells →
          map.blockedBitmap = blockedBitmapBytes blocked) ∧
      (∀ bitmapHex cells, decodeBitmap cols rows bitmapHex = some cells →
        (BlockedGrid.ofCells cols rows cells).cells = cells ∧
          MapData.hex (blockedBitmapBytes (BlockedGrid.ofCells cols rows cells)) = bitmapHex) ∧
      ∀ bitmapHex bitmapHex' cells, decodeBitmap cols rows bitmapHex = some cells →
        decodeBitmap cols rows bitmapHex' = some cells → bitmapHex = bitmapHex' := by
  have size : (wrap ((cols : Int) * rows)).toNat = rows * cols := by
    rw [← Nat.cast_mul, wrap_eq (by omega) (by exact_mod_cast fits), Nat.mul_comm]
    exact Int.toNat_natCast _
  have encoded (blocked : BlockedGrid cols rows) :
      MapData.hex (blockedBitmapBytes blocked) = blocked.cells.flatMap cellDigits := by
    rw [blockedBitmapBytes_eq, hex_cells]
  refine ⟨fun blocked => ⟨blocked.cells, ?_, ?_, ?_⟩, fun bitmapHex cells decoded => ?_,
    fun bitmapHex bitmapHex' cells decoded decoded' => ?_⟩
  · exact decodeBitmap_eq_some.mpr ⟨by rw [blocked.length_cells, size], encoded blocked⟩
  · exact fun gx gy within => BlockedGrid.getElem_cells within
  · intro map same
    rw [GridMap.blockedBitmap, same, blockedBitmapBytes_eq]
  · obtain ⟨length, rfl⟩ := decodeBitmap_eq_some.mp decoded
    have same := @BlockedGrid.cells_ofCells cols rows _ (length.trans size)
    exact ⟨same, by rw [encoded, same]⟩
  · rw [(decodeBitmap_eq_some.mp decoded).2, (decodeBitmap_eq_some.mp decoded').2]

theorem bitmap_round_trip_row :
    decodeBitmap (2 : Nat) (1 : Nat) "0100".toList = some [true, false] ∧
      MapData.hex (blockedBitmapBytes (BlockedGrid.ofCells 2 1 [true, false])) = "0100".toList := by
  have decoded : decodeBitmap (2 : Nat) (1 : Nat) "0100".toList = some [true, false] := by
    decide +kernel
  exact ⟨decoded, (((@bitmap_round_trip 2 1 (by decide)).2.1 _ _) decoded).2⟩

end MazeClient
