import Mathlib.Data.List.Infix

set_option autoImplicit false

namespace TextSearch

variable {α : Type} [DecidableEq α]

def find (pattern : List α) : List α → Option (List α)
  | [] => if pattern = [] then some [] else none
  | c :: rest => if pattern <+: c :: rest then some (c :: rest) else find pattern rest

theorem find_suffix {pattern text found : List α} (at_ : find pattern text = some found) :
    found <:+ text := by
  induction text with
  | nil =>
      unfold find at at_
      split at at_ <;> cases at_
      exact List.suffix_refl _
  | cons c rest ih =>
      unfold find at at_
      split at at_
      · cases at_
        exact List.suffix_refl _
      · exact (ih at_).trans (List.suffix_cons c rest)

def Clear (pattern piece : List α) : Prop :=
  ∀ start, start ≠ [] → start <:+ piece → ¬ pattern <+: start ∧ ¬ start <+: pattern

omit [DecidableEq α] in
theorem clear_nil (pattern : List α) : Clear pattern [] :=
  fun _ some_ inside => (some_ (List.suffix_nil.mp inside)).elim

omit [DecidableEq α] in
theorem clear_cons {pattern rest : List α} {c : α} :
    Clear pattern (c :: rest) ↔
      (¬ pattern <+: c :: rest ∧ ¬ c :: rest <+: pattern) ∧ Clear pattern rest := by
  constructor
  · exact fun clear => ⟨clear _ (List.cons_ne_nil c rest) (List.suffix_refl _),
      fun start some_ inside => clear start some_ (inside.trans (List.suffix_cons c rest))⟩
  · rintro ⟨here, later⟩ start some_ inside
    rcases List.suffix_cons_iff.mp inside with rfl | inside
    · exact here
    · exact later start some_ inside

omit [DecidableEq α] in
theorem clear_append {pattern first second : List α} (front : Clear pattern first)
    (back : Clear pattern second) : Clear pattern (first ++ second) := by
  induction first with
  | nil => exact back
  | cons c first ih =>
      obtain ⟨⟨long, short⟩, rest⟩ := clear_cons.mp front
      refine clear_cons.mpr ⟨⟨fun starts => ?_, fun ends => ?_⟩, ih rest⟩
      · rcases List.prefix_or_prefix_of_prefix starts (List.prefix_append (c :: first) second) with
          inside | beyond
        · exact long inside
        · exact short beyond
      · exact short ((List.prefix_append (c :: first) second).trans ends)

omit [DecidableEq α] in
theorem clear_of_not_mem {c : α} {pattern piece : List α} (absent : c ∉ piece) :
    Clear (c :: pattern) piece := by
  induction piece with
  | nil => exact clear_nil _
  | cons d piece ih =>
      obtain ⟨apart, absent⟩ : c ≠ d ∧ c ∉ piece := by simpa using absent
      refine clear_cons.mpr ⟨⟨fun starts => ?_, fun ends => ?_⟩, ih absent⟩
      · exact apart (List.cons_prefix_cons.mp starts).1
      · exact apart (List.cons_prefix_cons.mp ends).1.symm

theorem find_append {pattern piece : List α} (clear : Clear pattern piece) (rest : List α) :
    find pattern (piece ++ rest) = find pattern rest := by
  induction piece with
  | nil => rfl
  | cons c piece ih =>
      obtain ⟨⟨long, short⟩, later⟩ := clear_cons.mp clear
      rw [List.cons_append, find, if_neg, ih later]
      intro starts
      rcases List.prefix_or_prefix_of_prefix starts (List.prefix_append (c :: piece) rest) with
        inside | beyond
      · exact long inside
      · exact short beyond

theorem find_here (pattern rest : List α) : find pattern (pattern ++ rest) = some (pattern ++ rest) := by
  cases pattern with
  | nil => cases rest <;> simp [find]
  | cons c pattern => exact if_pos (List.prefix_append (c :: pattern) rest)

def quoted (mark : α) (word : List α) : List α := mark :: word ++ [mark]

omit [DecidableEq α] in
theorem eq_of_marked {mark : α} {word other rest rest' : List α} (plain : mark ∉ word)
    (plain' : mark ∉ other) (starts : word ++ mark :: rest <+: other ++ mark :: rest') :
    word = other := by
  induction word generalizing other with
  | nil =>
      cases other with
      | nil => rfl
      | cons d other => exact (plain' (by simp [(List.cons_prefix_cons.mp starts).1])).elim
  | cons c word ih =>
      cases other with
      | nil => exact (plain (by simp [(List.cons_prefix_cons.mp starts).1])).elim
      | cons d other =>
          obtain ⟨rfl, later⟩ := List.cons_prefix_cons.mp starts
          rw [ih (fun inside => plain (List.mem_cons_of_mem c inside))
            (fun inside => plain' (List.mem_cons_of_mem c inside)) later]

omit [DecidableEq α] in
theorem clear_quoted {mark next : α} {word other : List α} (plain : mark ∉ word)
    (plain' : mark ∉ other) (apart : word ≠ other) (nonempty : word ≠ [])
    (inner : word.head? ≠ some next) (outer : next ≠ mark) :
    Clear (quoted mark word) (quoted mark other ++ [next]) := by
  have long : ¬ word ++ [mark] <+: other ++ [mark, next] :=
    fun starts => apart (eq_of_marked plain plain' starts)
  have short : ¬ other ++ [mark, next] <+: word ++ [mark] :=
    fun starts => apart (eq_of_marked plain' plain starts).symm
  unfold quoted
  rw [List.cons_append, List.append_assoc]
  refine clear_cons.mpr ⟨⟨fun starts => ?_, fun ends => ?_⟩, clear_append ?_ ?_⟩
  · exact long (List.cons_prefix_cons.mp starts).2
  · exact short (List.cons_prefix_cons.mp ends).2
  · exact clear_of_not_mem plain'
  · cases word with
    | nil => exact (nonempty rfl).elim
    | cons c word =>
        have other_ : c ≠ next := by simpa using inner
        refine clear_cons.mpr ⟨⟨fun starts => ?_, fun ends => ?_⟩, clear_of_not_mem ?_⟩
        · exact other_ (List.cons_prefix_cons.mp (List.cons_prefix_cons.mp starts).2).1
        · exact other_ (List.cons_prefix_cons.mp (List.cons_prefix_cons.mp ends).2).1.symm
        · simpa using outer.symm

end TextSearch
