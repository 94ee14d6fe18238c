import MazeClient.Generator.MapJson
import MazeClient.Maze.LoadMap

set_option autoImplicit false

namespace MazeClient

namespace MapFile

open TextSearch Json

-- What a key is made of.
def IsKey (key : String) : Prop :=
  key.toList ≠ [] ∧ ∀ c ∈ key.toList, (c.isAlphanum || c = '_') = true

instance (key : String) : Decidable (IsKey key) :=
  decidable_of_iff (key.toList ≠ [] ∧ key.toList.all (fun c => c.isAlphanum || c = '_') = true) (by
    rw [IsKey, List.all_eq_true])

-- No quoted `key` starts in the value, nor where the value ends.
def Passed (key : String) (value : Text) : Prop :=
  ∀ next : Char, next = ',' ∨ next = '\n' → Clear (quoted doubleQuote key.toList) (value ++ [next])

section Keys

variable {key other : String} {value : Text}

theorem IsKey.plain (isKey : IsKey key) : doubleQuote ∉ key.toList :=
  fun inside => absurd (isKey.2 _ inside) (by decide)

theorem IsKey.head (isKey : IsKey key) {c : Char} (mark : (c.isAlphanum || c = '_') = false) :
    key.toList.head? ≠ some c := by
  intro first
  have inside := isKey.2 c (List.mem_of_mem_head? (by simp [first]))
  rw [mark] at inside
  cases inside

theorem clear_plain {piece : Text} (plain : doubleQuote ∉ piece) :
    Clear (quoted doubleQuote key.toList) piece := clear_of_not_mem plain

theorem passed_plain (plain : doubleQuote ∉ value) : Passed key value := by
  intro next ending
  refine clear_plain ?_
  rcases ending with rfl | rfl <;> simpa [doubleQuote] using plain

theorem passed_quoted (isKey : IsKey key) (plain : doubleQuote ∉ value)
    (apart : key.toList ≠ value) : Passed key (quoted doubleQuote value) := by
  intro next ending
  rcases ending with rfl | rfl
  · exact clear_quoted isKey.plain plain apart isKey.1 (isKey.head (by decide)) (by decide)
  · exact clear_quoted isKey.plain plain apart isKey.1 (isKey.head (by decide)) (by decide)

theorem passed_field (isKey : IsKey key) (isKey' : IsKey other) (apart : key ≠ other)
    (passed : Passed key value) : Passed key (field other value) := by
  intro next ending
  have named : Clear (quoted doubleQuote key.toList) (string other ++ [':']) :=
    clear_quoted isKey.plain isKey'.plain (fun same => apart (String.toList_inj.mp same)) isKey.1
      (isKey.head (by decide)) (by decide)
  have blank : Clear (quoted doubleQuote key.toList) [' '] := clear_plain (by decide)
  have whole := clear_append named (clear_append blank (passed next ending))
  simpa [field] using whole

theorem clear_pad (level : Nat) : Clear (quoted doubleQuote key.toList) (pad level) :=
  clear_plain fun inside => absurd (List.eq_of_mem_replicate inside) (by decide)

theorem lines_single (level : Nat) (close : Char) (part : Text) :
    lines level close [part] = pad (level + 1) ++ (part ++ '\n' :: lines level close []) :=
  List.append_assoc _ _ _

theorem lines_cons {level : Nat} {close : Char} {part : Text} {others : List Text}
    (some_ : others ≠ []) : lines level close (part :: others) =
      pad (level + 1) ++ (part ++ ',' :: '\n' :: lines level close others) := by
  rw [lines, List.append_assoc]
  exact some_

theorem clear_lines {level : Nat} {close : Char} (mark : close ≠ doubleQuote) {parts : List Text}
    (passed : ∀ part ∈ parts, Passed key part) :
    Clear (quoted doubleQuote key.toList) (lines level close parts) := by
  induction parts with
  | nil => exact clear_append (clear_pad level) (clear_plain (by simpa using mark.symm))
  | cons part others ih =>
      obtain ⟨first, rest⟩ := List.forall_mem_cons.mp passed
      cases others with
      | nil =>
          have whole := clear_append (clear_append (clear_pad (level + 1)) (first '\n' (.inr rfl)))
            (ih rest)
          rw [lines_single]
          simpa using whole
      | cons next others =>
          have newline : Clear (quoted doubleQuote key.toList) ['\n'] := clear_plain (by decide)
          have whole := clear_append (clear_append (clear_pad (level + 1)) (first ',' (.inl rfl)))
            (clear_append newline (ih rest))
          rw [lines_cons (by simp)]
          simpa using whole

theorem passed_container {level : Nat} {start close : Char} (mark : start ≠ doubleQuote)
    (mark' : close ≠ doubleQuote) {parts : List Text} (passed : ∀ part ∈ parts, Passed key part) :
    Passed key (container level start close parts) := by
  intro next ending
  have last : Clear (quoted doubleQuote key.toList) [next] := by
    rcases ending with rfl | rfl <;> exact clear_plain (by decide)
  unfold container
  split
  · exact clear_append (clear_plain (by simpa using ⟨mark.symm, mark'.symm⟩)) last
  · have opened : Clear (quoted doubleQuote key.toList) [start, '\n'] :=
      clear_plain (by simpa [doubleQuote] using mark.symm)
    exact clear_append (clear_append opened (clear_lines mark' passed)) last

theorem passed_object {level : Nat} {fields : List (String × Text)} (isKey : IsKey key)
    (keys : ∀ entry ∈ fields, IsKey entry.1 ∧ key ≠ entry.1 ∧ Passed key entry.2) :
    Passed key (object level fields) := by
  refine passed_container (by decide) (by decide) fun part member => ?_
  obtain ⟨entry, inside, rfl⟩ := List.mem_map.mp member
  obtain ⟨isKey', apart, passed⟩ := keys entry inside
  exact passed_field isKey isKey' apart passed

end Keys

-- The first `key` of the text has the value.
def Written (key : String) (value text : Text) : Prop :=
  ∃ next rest, (next = ',' ∨ next = '\n') ∧
    find (quoted doubleQuote key.toList) text = some (field key value ++ next :: rest)

theorem find_lines {key : String} {value : Text} {level : Nat} {close : Char}
    {front back : List Text} (passed : ∀ part ∈ front, Passed key part) :
    Written key value (lines level close (front ++ field key value :: back)) := by
  induction front with
  | nil =>
      cases back with
      | nil =>
          refine ⟨'\n', lines level close [], .inr rfl, ?_⟩
          rw [List.nil_append, lines_single, find_append (clear_pad _)]
          simp only [field, string, List.append_assoc]
          exact find_here _ _
      | cons part others =>
          refine ⟨',', '\n' :: lines level close (part :: others), .inl rfl, ?_⟩
          rw [List.nil_append, lines_cons (by simp), find_append (clear_pad _)]
          simp only [field, string, List.append_assoc]
          exact find_here _ _
  | cons part front ih =>
      obtain ⟨first, rest⟩ := List.forall_mem_cons.mp passed
      obtain ⟨next, tail, ending, found⟩ := ih rest
      refine ⟨next, tail, ending, ?_⟩
      have newline : Clear (quoted doubleQuote key.toList) ['\n'] := clear_plain (by decide)
      have skipped := clear_append (clear_append (clear_pad (level + 1)) (first ',' (.inl rfl)))
        newline
      have parted : lines level close (part :: front ++ field key value :: back) =
          pad (level + 1) ++ (part ++ [',']) ++ ['\n'] ++
            lines level close (front ++ field key value :: back) := by
        rw [List.cons_append, lines_cons (by simp)]
        simp
      rw [parted, find_append skipped, found]

theorem written {key : String} {value : Text} {level : Nat} {fields : List (String × Text)}
    (member : (key, value) ∈ fields) (distinct : (fields.map Prod.fst).Nodup)
    (keys : ∀ entry ∈ fields, IsKey entry.1) (passed : ∀ entry ∈ fields, Passed key entry.2) :
    Written key value (object level fields) := by
  obtain ⟨front, back, rfl⟩ := List.append_of_mem member
  have isKey := keys _ member
  have fronts : ∀ part ∈ front.map fun entry => field entry.1 entry.2, Passed key part := by
    intro part inside
    obtain ⟨entry, before, rfl⟩ := List.mem_map.mp inside
    have apart : key ≠ entry.1 := by
      rintro rfl
      rw [List.map_append, List.nodup_append] at distinct
      exact distinct.2.2 _ (List.mem_map_of_mem before) _ (by simp) rfl
    have present : entry ∈ front ++ (key, value) :: back := List.mem_append_left _ before
    exact passed_field isKey (keys _ present) apart (passed _ present)
  obtain ⟨next, rest, ending, found⟩ := @find_lines key value level '}' _
    (back.map fun entry => field entry.1 entry.2) fronts
  refine ⟨next, rest, ending, ?_⟩
  have opened : Clear (quoted doubleQuote key.toList) ['{', '\n'] := clear_plain (by decide)
  have whole : object level (front ++ (key, value) :: back) = ['{', '\n'] ++
      lines level '}' ((front.map fun entry => field entry.1 entry.2) ++
        field key value :: back.map fun entry => field entry.1 entry.2) := by
    simp [object, container]
  rw [whole, find_append opened, found]

end MapFile

end MazeClient
