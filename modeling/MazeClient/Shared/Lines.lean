import Mathlib.Data.List.Sort

set_option autoImplicit false

namespace Lines

variable {α : Type} [DecidableEq α]

def split (newline : α) : List α → List (List α)
  | [] => []
  | c :: rest =>
      if c = newline then [c] :: split newline rest
      else
        match split newline rest with
        | [] => [[c]]
        | line :: lines => (c :: line) :: lines

-- Where the lines start that are not blank, the first of them at `offset`.
def scan (blank : α → Bool) (offset : Nat) : List (List α) → List Nat
  | [] => []
  | line :: lines =>
      let rest := scan blank (offset + line.length) lines
      if line.all blank then rest else offset :: rest

def atStart (newline : α) (text : List α) (offset : Nat) : Bool :=
  offset = 0 || text[offset - 1]? = some newline

def shows (newline : α) (blank : α → Bool) (text : List α) (offset : Nat) : Bool :=
  ((text.drop offset).takeWhile (· ≠ newline)).any (!blank ·)

theorem split_newline (newline : α) (text : List α) :
    split newline (newline :: text) = [newline] :: split newline text := if_pos rfl

theorem split_cons {newline c : α} (other : c ≠ newline) (text : List α) :
    split newline (c :: text) = match split newline text with
      | [] => [[c]]
      | line :: lines => (c :: line) :: lines := if_neg other

theorem split_eq_nil {newline : α} {text : List α} : split newline text = [] ↔ text = [] := by
  cases text with
  | nil => simp [split]
  | cons c text =>
      by_cases same : c = newline
      · simp [same, split_newline]
      · rw [split_cons same]
        cases split newline text <;> simp

theorem shows_zero {newline : α} {blank : α → Bool} (quiet : blank newline = true)
    {text line : List α} {lines : List (List α)} (first : split newline text = line :: lines) :
    shows newline blank text 0 = !line.all blank := by
  induction text generalizing line lines with
  | nil => simp [split] at first
  | cons c text ih =>
      by_cases same : c = newline
      · subst same
        rw [split_newline] at first
        cases first
        simp [shows, quiet]
      · have visible : shows newline blank (c :: text) 0 =
            (!blank c || shows newline blank text 0) := by
          simp [shows, same]
        rw [visible]
        rw [split_cons same] at first
        cases rest : split newline text with
        | nil =>
            rw [rest] at first
            cases first
            simp [split_eq_nil.mp rest, shows]
        | cons next others =>
            rw [rest] at first
            cases first
            simp [ih rest, Bool.not_and]

theorem filter_range_succ (p : Nat → Bool) (n : Nat) :
    (List.range (n + 1)).filter p =
      (if p 0 then [0] else []) ++ ((List.range n).filter fun i => p (i + 1)).map (· + 1) := by
  rw [List.range_succ_eq_map, List.filter_cons, List.filter_map]
  split <;> rfl

theorem scan_split {newline : α} {blank : α → Bool} (quiet : blank newline = true)
    (offset : Nat) (text : List α) : scan blank offset (split newline text) =
      ((List.range text.length).filter fun i =>
        atStart newline text i && shows newline blank text i).map (offset + ·) := by
  induction text generalizing offset with
  | nil => rfl
  | cons c text ih =>
      have later (i : Nat) : shows newline blank (c :: text) (i + 1) = shows newline blank text i :=
        rfl
      rw [List.length_cons, filter_range_succ]
      by_cases same : c = newline
      · subst same
        have hidden : shows c blank (c :: text) 0 = false := by simp [shows]
        have start (i : Nat) : atStart c (c :: text) (i + 1) = atStart c text i := by
          cases i <;> simp [atStart]
        rw [split_newline, scan, ih]
        simp only [List.all_cons, quiet, List.all_nil, Bool.and_self, if_true, List.length_singleton,
          hidden, start, later, Bool.and_false, Bool.false_eq_true, if_false, List.nil_append,
          List.map_map]
        congr 1
        funext i
        simp only [Function.comp_apply]
        omega
      · cases text with
        | nil =>
            rw [split_cons same]
            by_cases hidden : blank c <;> simp [split, scan, atStart, shows, same, hidden]
        | cons d text =>
            obtain ⟨line, lines, first⟩ : ∃ line lines, split newline (d :: text) = line :: lines :=
              List.exists_cons_of_ne_nil fun none_ => by simp [split_eq_nil] at none_
            have inner := shows_zero quiet first
            have whole : shows newline blank (c :: d :: text) 0 = !(c :: line).all blank :=
              shows_zero quiet (by rw [split_cons same, first])
            have start (i : Nat) : atStart newline (c :: d :: text) (i + 1 + 1) =
                atStart newline (d :: text) (i + 1) := rfl
            have second : atStart newline (c :: d :: text) (0 + 1) = false := by
              simp [atStart, same]
            -- The first line of the rest is no line of its own here.
            have below := ih (offset + 1)
            rw [first, scan, List.length_cons, filter_range_succ, inner] at below
            have others : scan blank (offset + 1 + line.length) lines =
                ((List.range text.length).filter fun i => atStart newline (d :: text) (i + 1) &&
                  shows newline blank (d :: text) (i + 1)).map (fun i => offset + 1 + (i + 1)) := by
              cases hidden : line.all blank with
              | true => simpa [hidden, atStart, List.map_map, Function.comp_def] using below
              | false => simpa [hidden, atStart, List.map_map, Function.comp_def] using below
            rw [split_cons same, first, scan, List.length_cons, List.length_cons,
              filter_range_succ]
            simp only [later, start, second, whole, Bool.false_and, Bool.false_eq_true, if_false,
              List.nil_append]
            rw [show offset + (line.length + 1) = offset + 1 + line.length by omega, others]
            cases hidden : (c :: line).all blank
            · simp [atStart, List.map_map, Function.comp_def, Nat.add_assoc, Nat.add_comm]
            · simp [atStart, List.map_map, Function.comp_def, Nat.add_assoc, Nat.add_comm]

section

variable {newline : α} {blank : α → Bool} {text more : List α} {offset : Nat}

theorem atStart_append (within : offset ≤ text.length) :
    atStart newline (text ++ more) offset = atStart newline text offset := by
  unfold atStart
  cases offset with
  | zero => rfl
  | succ offset => rw [Nat.add_sub_cancel, List.getElem?_append_left within]

-- A line that is still open goes on in what is appended.
theorem shows_append (within : offset ≤ text.length) :
    shows newline blank (text ++ more) offset =
      (shows newline blank text offset ||
        (decide (newline ∉ text.drop offset) && shows newline blank more 0)) := by
  unfold shows
  rw [List.drop_append_of_le_length within, List.drop_zero]
  generalize text.drop offset = line
  induction line with
  | nil => simp
  | cons c line ih =>
      by_cases same : c = newline
      · simp [same]
      · have apart : ¬ newline = c := fun other => same other.symm
        simp only [List.cons_append, List.takeWhile_cons, same, ne_eq, not_false_eq_true,
          decide_true, if_true, List.any_cons, ih, List.mem_cons, apart, false_or, Bool.or_assoc]

theorem shows_of_append (within : offset ≤ text.length)
    (seen : shows newline blank text offset = true) :
    shows newline blank (text ++ more) offset = true := by
  rw [shows_append within, seen, Bool.true_or]

theorem lt_of_shows (seen : shows newline blank text offset = true) : offset < text.length := by
  by_contra beyond
  simp [shows, List.drop_eq_nil_of_le (Nat.le_of_not_lt beyond)] at seen

def scanFrom (newline : α) (blank : α → Bool) (text : List α) (offset : Nat) : List Nat :=
  scan blank offset (split newline (text.drop offset))

theorem mem_scanFrom (quiet : blank newline = true) {found : Nat} :
    found ∈ scanFrom newline blank text offset ↔ offset ≤ found ∧
      (found = offset ∨ atStart newline text found = true) ∧
      shows newline blank text found = true := by
  rw [scanFrom, scan_split quiet]
  simp only [List.mem_map, List.mem_filter, List.mem_range, Bool.and_eq_true]
  have visible (i : Nat) : shows newline blank (text.drop offset) i =
      shows newline blank text (offset + i) := by
    simp [shows, List.drop_drop]
  have start (i : Nat) : atStart newline (text.drop offset) (i + 1) =
      atStart newline text (offset + (i + 1)) := by
    simp [atStart, List.getElem?_drop, ← Nat.add_assoc]
  constructor
  · rintro ⟨i, ⟨-, first, seen⟩, rfl⟩
    refine ⟨Nat.le_add_right _ _, ?_, visible i ▸ seen⟩
    cases i with
    | zero => exact .inl rfl
    | succ i => exact .inr (start i ▸ first)
  · rintro ⟨low, first, seen⟩
    obtain ⟨i, rfl⟩ := Nat.exists_eq_add_of_le low
    have seen := (visible i).trans seen
    refine ⟨i, ⟨lt_of_shows seen, ?_, seen⟩, rfl⟩
    cases i with
    | zero => rfl
    | succ i =>
        rw [start]
        exact first.resolve_left (by omega)

theorem pairwise_scanFrom (quiet : blank newline = true) :
    (scanFrom newline blank text offset).Pairwise (· < ·) := by
  rw [scanFrom, scan_split quiet, List.pairwise_map]
  exact (List.pairwise_lt_range.filter _).imp fun below => Nat.add_lt_add_left below _

def starts (newline : α) (blank : α → Bool) (text : List α) : List Nat :=
  scanFrom newline blank text 0

theorem mem_starts (quiet : blank newline = true) {found : Nat} :
    found ∈ starts newline blank text ↔
      atStart newline text found = true ∧ shows newline blank text found = true := by
  rw [starts, mem_scanFrom quiet]
  constructor
  · rintro ⟨-, rfl | first, seen⟩
    · exact ⟨rfl, seen⟩
    · exact ⟨first, seen⟩
  · rintro ⟨first, seen⟩
    exact ⟨Nat.zero_le _, .inr first, seen⟩

theorem starts_append_scanFrom (quiet : blank newline = true) (within : offset ≤ text.length)
    (below : ∀ found ∈ starts newline blank text, found < offset)
    (whole : atStart newline (text ++ more) offset = true ∨
      shows newline blank (text ++ more) offset = false) :
    starts newline blank text ++ scanFrom newline blank (text ++ more) offset =
      starts newline blank (text ++ more) := by
  have sorted : (starts newline blank text ++
      scanFrom newline blank (text ++ more) offset).Pairwise (· < ·) := by
    refine List.pairwise_append.mpr ⟨pairwise_scanFrom quiet, pairwise_scanFrom quiet, ?_⟩
    intro first old later new
    exact (below first old).trans_le ((mem_scanFrom quiet).mp new).1
  refine sorted.eq_of_mem_iff (pairwise_scanFrom quiet) fun {found} => ?_
  rw [List.mem_append, mem_starts quiet, mem_starts quiet, mem_scanFrom quiet]
  constructor
  · rintro (⟨first, seen⟩ | ⟨-, rfl | first, seen⟩)
    · have near := (lt_of_shows seen).le
      exact ⟨(atStart_append near).trans first, shows_of_append near seen⟩
    · refine ⟨whole.resolve_right (by simp [seen]), seen⟩
    · exact ⟨first, seen⟩
  · rintro ⟨first, seen⟩
    by_cases later : offset ≤ found
    · exact .inr ⟨later, .inr first, seen⟩
    have earlier : found < offset := Nat.lt_of_not_le later
    have near : found ≤ text.length := earlier.le.trans within
    refine .inl ⟨(atStart_append near).symm.trans first, ?_⟩
    by_contra hidden
    -- Else the line is still open where the scan takes up, and shows there too.
    rw [shows_append near, Bool.not_eq_true _ |>.mp hidden, Bool.false_or, Bool.and_eq_true,
      decide_eq_true_eq] at seen
    obtain ⟨unended, seen⟩ := seen
    have open_ : newline ∉ text.drop offset := fun member => unended (by
      rw [show offset = found + (offset - found) by omega, ← List.drop_drop] at member
      exact List.mem_of_mem_drop member)
    have onward : shows newline blank (text ++ more) offset = true := by
      rw [shows_append within]
      simp [open_, seen]
    have cut := whole.resolve_right (by simp [onward])
    rw [atStart_append within, atStart, Bool.or_eq_true, decide_eq_true_eq, decide_eq_true_eq] at cut
    have ended := cut.resolve_left (by omega)
    have last : (text.drop found)[offset - 1 - found]? = some newline := by
      rw [List.getElem?_drop, show found + (offset - 1 - found) = offset - 1 by omega, ended]
    exact unended (List.mem_of_getElem? last)

end

section

variable {newline : α} {blank : α → Bool} {lines : List (List α)} {cut : List α}

-- Lines with the newlines that end them, and what there is of one more.
def pieces (newline : α) (lines : List (List α)) (cut : List α) : List (List α) :=
  lines.map (· ++ [newline]) ++ if cut = [] then [] else [cut]

omit [DecidableEq α] in
theorem pieces_cons (line : List α) (lines : List (List α)) (cut : List α) :
    pieces newline (line :: lines) cut = (line ++ [newline]) :: pieces newline lines cut := rfl

omit [DecidableEq α] in
theorem drop_pieces (count : Nat) (within : count ≤ lines.length) :
    (pieces newline lines cut).drop count = pieces newline (lines.drop count) cut := by
  have short : count - (lines.map (· ++ [newline])).length = 0 := by
    rw [List.length_map]
    omega
  rw [pieces, List.drop_append, short, List.drop_zero, ← List.map_drop]
  rfl

theorem split_line {line : List α} (whole : newline ∉ line) (rest : List α) :
    split newline (line ++ newline :: rest) = (line ++ [newline]) :: split newline rest := by
  induction line with
  | nil => exact split_newline newline rest
  | cons c line ih =>
      simp only [List.mem_cons, not_or] at whole
      rw [List.cons_append, split_cons (Ne.symm whole.1), ih whole.2]
      rfl

theorem split_pieces (whole : ∀ line ∈ lines, newline ∉ line) (unended : newline ∉ cut) :
    split newline (pieces newline lines cut).flatten = pieces newline lines cut := by
  induction lines with
  | nil =>
      cases cut with
      | nil => rfl
      | cons c cut =>
          simp only [pieces, List.map_nil, List.nil_append, reduceCtorEq, if_false,
            List.flatten_singleton]
          induction cut generalizing c with
          | nil => simp [split]
          | cons d cut ih =>
              rw [split_cons (Ne.symm (List.ne_of_not_mem_cons unended)),
                ih d (List.not_mem_of_not_mem_cons unended)]
  | cons line lines ih =>
      rw [pieces_cons, List.flatten_cons, List.append_assoc, List.singleton_append,
        split_line (whole line List.mem_cons_self),
        ih fun other member => whole other (List.mem_cons_of_mem _ member)]

omit [DecidableEq α] in
theorem scan_visible {parts : List (List α)} (seen : ∀ part ∈ parts, part.all blank = false)
    (offset : Nat) : scan blank offset parts =
      (List.range parts.length).map fun k => offset + (parts.take k).flatten.length := by
  induction parts generalizing offset with
  | nil => rfl
  | cons part parts ih =>
      have later := ih (fun other member => seen other (List.mem_cons_of_mem _ member))
        (offset + part.length)
      rw [scan, if_neg (by simp [seen part List.mem_cons_self]), later, List.length_cons,
        List.range_succ_eq_map, List.map_cons, List.map_map]
      simp [Function.comp_def, Nat.add_assoc]

theorem starts_pieces (whole : ∀ line ∈ lines, newline ∉ line) (unended : newline ∉ cut)
    (seen : ∀ part ∈ pieces newline lines cut, part.all blank = false) :
    starts newline blank (pieces newline lines cut).flatten =
      (List.range (pieces newline lines cut).length).map fun k =>
        ((pieces newline lines cut).take k).flatten.length := by
  rw [starts, scanFrom, List.drop_zero, split_pieces whole unended, scan_visible seen]
  simp

omit [DecidableEq α] in
theorem pieces_of_prefix {text : List α} (front : text <+: (pieces newline lines []).flatten) :
    ∃ (count : Nat) (cut : List α), count ≤ lines.length ∧
      text = (pieces newline (lines.take count) cut).flatten ∧
      (cut = [] ∨ ∃ line, lines[count]? = some line ∧ cut <+: line) := by
  induction lines generalizing text with
  | nil =>
      obtain rfl : text = [] := List.prefix_nil.mp front
      exact ⟨0, [], Nat.zero_le _, rfl, .inl rfl⟩
  | cons line lines ih =>
      obtain ⟨tail, same⟩ := front
      rw [pieces_cons, List.flatten_cons] at same
      rcases List.append_eq_append_iff.mp same with ⟨missing, inside, -⟩ | ⟨more, rfl, behind⟩
      · rcases List.prefix_concat_iff.mp ⟨missing, inside.symm⟩ with rfl | part
        · exact ⟨1, [], by simp, by simp [pieces], .inl rfl⟩
        · refine ⟨0, text, Nat.zero_le _, ?_, .inr ⟨line, rfl, part⟩⟩
          by_cases none_ : text = [] <;> simp [pieces, none_]
      · obtain ⟨count, cut, within, rfl, torn⟩ := ih ⟨tail, behind.symm⟩
        exact ⟨count + 1, cut, by simpa using within, by simp [pieces_cons], by simpa using torn⟩

end

end Lines
