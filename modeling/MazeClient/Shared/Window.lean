import Mathlib.Data.List.Basic

set_option autoImplicit false

namespace Window

variable {α : Type} {sequence sequence' : Int → α} {offset : Int} {values more : List α}

def Holds (sequence : Int → α) (offset : Int) (values : List α) : Prop :=
  ∀ index value, values[index]? = some value → value = sequence (offset + (index : Nat))

def page (sequence : Int → α) (offset : Int) (count : Nat) : List α :=
  (List.range count).map fun index => sequence (offset + (index : Nat))

@[simp] theorem holds_nil : Holds sequence offset [] := by
  intro index value found
  simp at found

theorem holds_page (count : Nat) : Holds sequence offset (page sequence offset count) := by
  intro index value found
  simp only [page, List.getElem?_map, Option.map_eq_some_iff] at found
  obtain ⟨position, listed, rfl⟩ := found
  rw [(List.getElem?_eq_some_iff.mp listed).choose_spec.symm, List.getElem_range]

theorem Holds.append (held : Holds sequence offset values)
    (next : Holds sequence (offset + values.length) more) :
    Holds sequence offset (values ++ more) := by
  intro index value found
  by_cases inside : index < values.length
  · rw [List.getElem?_append_left inside] at found
    exact held index value found
  · rw [List.getElem?_append_right (by omega)] at found
    rw [next _ value found]
    congr 1
    omega

theorem Holds.drop (held : Holds sequence offset values) (trim : Nat) :
    Holds sequence (offset + trim) (values.drop trim) := by
  intro index value found
  rw [List.getElem?_drop] at found
  rw [held _ value found]
  congr 1
  omega

theorem Holds.of_append (held : Holds sequence offset (values ++ more)) :
    Holds sequence (offset + values.length) more := by
  have rest := held.drop values.length
  rwa [List.drop_left] at rest

theorem Holds.meet (held : Holds sequence offset values) (held' : Holds sequence' offset values)
    (some_ : values ≠ []) : ∃ position, sequence position = sequence' position := by
  obtain ⟨value, rest, rfl⟩ := List.exists_cons_of_ne_nil some_
  exact ⟨_, (held 0 value rfl).symm.trans (held' 0 value rfl)⟩

end Window
