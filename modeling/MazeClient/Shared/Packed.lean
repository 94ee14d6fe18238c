import Mathlib.Data.List.Basic
import Mathlib.Data.List.Range
import Mathlib.Data.List.ReduceOption

set_option autoImplicit false

namespace Packed

variable {α β : Type} {values more : List (Option α)} {start : Nat}

def packed (start : Nat) (values : List (Option α)) : List (α × Nat) :=
  values.reduceOption.zipIdx start

def numbered (start : Nat) (values : List (Option α)) : List (α × Nat) :=
  (values.zipIdx start).filterMap fun entry => entry.1.map fun value => (value, entry.2)

def Dense (values : List (Option α)) : Prop :=
  values.Pairwise fun earlier later => later.isSome → earlier.isSome

def chunk (size page : Nat) (values : List α) : List α := (values.drop (page * size)).take size

theorem dense_cons_some {value : α} : Dense (some value :: values) ↔ Dense values := by
  simp [Dense]

theorem dense_cons_none : Dense (none :: values) ↔ values.reduceOption = [] := by
  simp only [Dense, List.pairwise_cons, Option.isSome_none, Bool.false_eq_true, imp_false,
    Bool.not_eq_true, Option.isSome_eq_false_iff, Option.isNone_iff_eq_none,
    List.reduceOption, List.filterMap_eq_nil_iff, id_eq, and_iff_left_iff_imp]
  intro missing
  exact List.pairwise_iff_forall_sublist.mpr fun pair some_ => by
    rw [missing _ (pair.subset (List.mem_cons_of_mem _ List.mem_cons_self))] at some_
    cases some_

theorem length_numbered : (numbered start values).length = (packed start values).length := by
  induction values generalizing start with
  | nil => rfl
  | cons value values ih =>
    have ih := @ih (start + 1)
    simp only [numbered, packed, List.length_zipIdx] at ih
    cases value with
    | none => simp [numbered, packed, ih]
    | some value => simp [numbered, packed, ih]

theorem start_le_of_mem_numbered {entry : α × Nat} (member : entry ∈ numbered start values) :
    start ≤ entry.2 := by
  simp only [numbered, List.mem_filterMap, Option.map_eq_some_iff] at member
  obtain ⟨listed, found, value, -, rfl⟩ := member
  exact (List.mem_zipIdx found).1

theorem packed_eq_numbered_iff : packed start values = numbered start values ↔ Dense values := by
  induction values generalizing start with
  | nil => simp [packed, numbered, Dense]
  | cons value values ih =>
    cases value with
    | some value =>
      rw [dense_cons_some, ← @ih (start + 1)]
      simp [packed, numbered]
    | none =>
      rw [dense_cons_none]
      have skipped : numbered start (none :: values) = numbered (start + 1) values := by
        simp [numbered]
      rw [skipped]
      constructor
      · intro same
        by_contra some_
        obtain ⟨value, rest, found⟩ := List.exists_cons_of_ne_nil some_
        have first : (value, start) ∈ packed start (none :: values) := by
          simp [packed, found]
        have later := start_le_of_mem_numbered (same ▸ first)
        exact absurd later (by simp)
      · intro missing
        have length := @length_numbered _ values (start + 1)
        rw [packed, missing] at length
        rw [List.eq_nil_of_length_eq_zero length, packed, List.reduceOption_cons_of_none, missing]
        rfl

theorem aligned_iff : (∀ (index : Nat) (value : α), values.reduceOption[index]? = some value →
    values[index]? = some (some value)) ↔ Dense values := by
  induction values with
  | nil => simp [Dense]
  | cons value values ih =>
    cases value with
    | some value =>
      rw [dense_cons_some, ← ih]
      constructor
      · intro aligned index behind found
        exact aligned (index + 1) behind found
      · intro aligned index behind found
        cases index with
        | zero => simpa using found
        | succ index => exact aligned index behind found
    | none =>
      rw [dense_cons_none]
      constructor
      · intro aligned
        by_contra some_
        obtain ⟨value, rest, found⟩ := List.exists_cons_of_ne_nil some_
        have first := aligned 0 value (by simp [found])
        cases first
      · intro missing index value found
        simp [missing] at found

theorem numbered_append :
    numbered start (values ++ more) =
      numbered start values ++ numbered (start + values.length) more := by
  simp [numbered, List.zipIdx_append]

theorem numbered_chunks (size count : Nat) :
    (List.range count).flatMap (fun page => numbered (page * size) (chunk size page values)) =
      numbered 0 (values.take (count * size)) := by
  induction count with
  | zero => simp [numbered]
  | succ count ih =>
    rw [List.range_succ, List.flatMap_append, ih, List.flatMap_singleton, Nat.succ_mul,
      List.take_add, numbered_append, Nat.zero_add]
    by_cases within : count * size ≤ values.length
    · rw [List.length_take, Nat.min_eq_left within]
      rfl
    · have beyond : values.drop (count * size) = [] := List.drop_eq_nil_of_le (by omega)
      simp [chunk, beyond, numbered]

theorem flatMap_eq_iff {pages : List β} {f g : β → List α}
    (lengths : ∀ page ∈ pages, (f page).length = (g page).length) :
    pages.flatMap f = pages.flatMap g ↔ ∀ page ∈ pages, f page = g page := by
  induction pages with
  | nil => simp
  | cons page pages ih =>
    simp only [List.forall_mem_cons] at lengths ⊢
    rw [List.flatMap_cons, List.flatMap_cons, ← ih lengths.2]
    constructor
    · intro same
      exact List.append_inj same lengths.1
    · intro ⟨first, rest⟩
      rw [first, rest]

end Packed
