import MazeClient.Shared.JsonReader

set_option autoImplicit false

namespace JsonReader

variable {α : Type} {text rest : List Char}

-- What may stand behind a number.
def Closes (rest : List Char) : Prop := ∀ c ∈ rest.head?, isNumeric c = false

-- A text whose first character is no blank.
def Starts (text : List Char) : Prop := ∃ c tail, text = c :: tail ∧ isBlank c = false

def Reads (text : List Char) (held : JsonValue) : Prop :=
  ∀ fuel, text.length < fuel → ∀ rest, Closes rest → value fuel (text ++ rest) = some (held, rest)

def Plain (text : List Char) : Prop :=
  ∀ c ∈ text, 32 ≤ c.toNat ∧ c ≠ Char.ofNat 34 ∧ c ≠ '\\'

instance (text : List Char) : Decidable (Plain text) := List.decidableBAll _ _

def Blank (gap : List Char) : Prop := ∀ c ∈ gap, isBlank c = true

theorem skip_blank {gap : List Char} (blank : Blank gap) (text : List Char) :
    skip (gap ++ text) = skip text := by
  rw [skip, List.dropWhile_append_of_pos blank, skip]

theorem Starts.skip (starts : Starts text) (rest : List Char) :
    skip (text ++ rest) = text ++ rest := by
  obtain ⟨c, tail, rfl, visible⟩ := starts
  simp [JsonReader.skip, visible]

theorem skip_cons {c : Char} (visible : isBlank c = false) (rest : List Char) :
    skip (c :: rest) = c :: rest := by
  simp [skip, visible]

theorem stringBody_plain {fuel : Nat} (plain : Plain text) (enough : text.length < fuel)
    (rest : List Char) : stringBody fuel (text ++ Char.ofNat 34 :: rest) = some (text, rest) := by
  induction text generalizing fuel with
  | nil =>
      obtain ⟨fuel, rfl⟩ := Nat.exists_eq_succ_of_ne_zero (Nat.ne_of_gt enough)
      simp [stringBody]
  | cons c tail ih =>
      obtain ⟨fuel, rfl⟩ := Nat.exists_eq_succ_of_ne_zero (Nat.ne_of_gt (Nat.zero_lt_of_lt enough))
      obtain ⟨printable, quote, backslash⟩ := plain c List.mem_cons_self
      have later := @ih fuel (fun d inside => plain d (List.mem_cons_of_mem _ inside))
        (by simpa using enough)
      have control : ¬ c.toNat < 32 := by omega
      rw [List.cons_append, stringBody, if_neg quote, if_neg control, if_neg backslash, later]
      rfl

theorem Closes.number {token : List Char} (closes : Closes rest)
    (numeric : ∀ c ∈ token, isNumeric c = true) :
    (token ++ rest).takeWhile isNumeric = token ∧ (token ++ rest).dropWhile isNumeric = rest := by
  rw [List.takeWhile_append_of_pos numeric, List.dropWhile_append_of_pos numeric]
  cases rest with
  | nil => simp
  | cons c rest => simp [closes c rfl]

theorem words_numeric {c : Char} {token rest : List Char}
    (numeric : ∀ d ∈ c :: token, isNumeric d = true) (some_ : numberValue (c :: token) ≠ none) :
    (words.find? fun (name, _) => name <+: c :: token ++ rest) = none := by
  have apart (d : Char) (other : isNumeric d = false) : d ≠ c := by
    rintro rfl
    rw [numeric d List.mem_cons_self] at other
    cases other
  refine List.find?_eq_none.mpr fun entry member => ?_
  simp only [words, List.mem_cons, List.not_mem_nil, or_false] at member
  rcases member with rfl | rfl | rfl | rfl | rfl | rfl
  case inr.inr.inr.inr.inr =>
    simp only [List.cons_append, List.cons_prefix_cons, decide_eq_true_eq]
    rintro ⟨rfl, front⟩
    cases token with
    | nil => exact some_ rfl
    | cons d token =>
        have second := (List.cons_prefix_cons.mp front).1
        have digit := numeric d (by simp)
        rw [← second] at digit
        cases digit
  all_goals
    simp only [List.cons_append, List.cons_prefix_cons, decide_eq_true_eq]
    exact fun front => absurd front.1 (apart _ rfl)

theorem reads_number {token : List Char} {number : ℚ} (numeric : ∀ c ∈ token, isNumeric c = true)
    (read : numberValue token = some number) : Reads token (.number number) := by
  intro fuel enough rest closes
  obtain ⟨taken, dropped⟩ := closes.number numeric
  cases token with
  | nil => cases read
  | cons c token =>
      obtain ⟨fuel, rfl⟩ := Nat.exists_eq_succ_of_ne_zero (Nat.ne_of_gt (Nat.zero_lt_of_lt enough))
      have apart (d : Char) (other : isNumeric d = false) : c ≠ d := by
        rintro rfl
        rw [numeric c List.mem_cons_self] at other
        cases other
      rw [List.cons_append, value, if_neg (apart _ rfl), if_neg (apart _ rfl),
        if_neg (apart _ rfl), ← List.cons_append, scalarValue,
        words_numeric numeric (by simp [read])]
      simp only [taken, dropped, read]
      rfl

theorem reads_bool (held : Bool) :
    Reads (if held then "true".toList else "false".toList) (.bool held) := by
  intro fuel enough rest closes
  obtain ⟨fuel, rfl⟩ := Nat.exists_eq_succ_of_ne_zero (Nat.ne_of_gt (Nat.zero_lt_of_lt enough))
  cases held <;> rfl

theorem reads_string (plain : Plain text) :
    Reads (Char.ofNat 34 :: text ++ [Char.ofNat 34]) (.string text) := by
  intro fuel enough rest closes
  obtain ⟨fuel, rfl⟩ := Nat.exists_eq_succ_of_ne_zero (Nat.ne_of_gt (Nat.zero_lt_of_lt enough))
  have body := @stringBody_plain text fuel plain (by simp at enough; omega) rest
  rw [List.cons_append, List.cons_append, List.append_assoc, List.singleton_append, value,
    if_pos rfl, body]
  rfl

-- The parts of a container with what may stand between them, up to its closing bracket.
inductive Spread (close : Char) : List (List Char) → List Char → Prop
  | last {part gap : List Char} (blank : Blank gap) : Spread close [part] (part ++ gap ++ [close])
  | next {part gap gap' text : List Char} {parts : List (List Char)} (blank : Blank gap)
      (blank' : Blank gap') (rest : Spread close parts text) :
      Spread close (part :: parts) (part ++ gap ++ ',' :: gap' ++ text)

theorem Spread.fits {close : Char} {parts : List (List Char)} (spread : Spread close parts text) :
    parts.length ≤ text.length ∧ ∀ part ∈ parts, part.length < text.length := by
  induction spread with
  | last blank =>
      simp only [List.length_append, List.length_singleton, List.mem_singleton, forall_eq]
      omega
  | next blank blank' rest ih =>
      simp only [List.length_append, List.length_cons, List.forall_mem_cons]
      refine ⟨by omega, by omega, fun part member => ?_⟩
      have shorter := ih.2 part member
      omega

theorem isBlank_closes {c : Char} (blank : isBlank c = true) : isNumeric c = false := by
  simp only [isBlank, Bool.or_eq_true, decide_eq_true_eq] at blank
  rcases blank with ((rfl | rfl) | rfl) | rfl <;> rfl

theorem closes_gap {gap : List Char} {c : Char} (blank : Blank gap) (mark : isNumeric c = false)
    (rest : List Char) : Closes (gap ++ c :: rest) := by
  cases gap with
  | nil => exact fun d same => Option.some.inj same ▸ mark
  | cons d gap =>
      intro e same
      rw [← Option.some.inj same]
      exact isBlank_closes (blank d List.mem_cons_self)

def ReadsAs (item : List Char → Option (α × List Char)) (part : List Char) (held : α) : Prop :=
  Starts part ∧ ∀ rest, Closes rest → item (part ++ rest) = some (held, rest)

theorem Spread.head {close : Char} {parts : List (List Char)} (spread : Spread close parts text) :
    ∃ part ∈ parts, ∃ tail, text = part ++ tail := by
  cases spread with
  | last blank => exact ⟨_, List.mem_cons_self, _, List.append_assoc _ _ _⟩
  | @next part gap gap' behind others blank blank' rest =>
      exact ⟨part, List.mem_cons_self, gap ++ ',' :: gap' ++ behind, by simp⟩

theorem ReadsAs.starts {item : List Char → Option (α × List Char)} {parts : List (List Char)}
    {held : List α} (reads : List.Forall₂ (ReadsAs item) parts held) :
    ∀ part ∈ parts, Starts part := by
  induction reads with
  | nil => simp
  | cons first later ih => exact List.forall_mem_cons.mpr ⟨first.1, ih⟩

-- Induction over the parts, which the reader meets one by one.
theorem elements_spread {item : List Char → Option (α × List Char)} {close : Char}
    {parts : List (List Char)} {held : List α} (mark : isNumeric close = false)
    (visible : isBlank close = false) (other : close ≠ ',') (spread : Spread close parts text)
    (reads : List.Forall₂ (ReadsAs item) parts held) {fuel : Nat} (enough : parts.length ≤ fuel)
    (rest : List Char) : elements item close fuel (text ++ rest) = some (held, rest) := by
  induction spread generalizing fuel held with
  | @last part gap blank =>
      obtain ⟨fuel, rfl⟩ := Nat.exists_eq_succ_of_ne_zero (Nat.ne_of_gt enough)
      cases reads with
      | cons first later =>
          cases later
          have shape : part ++ gap ++ [close] ++ rest = part ++ (gap ++ close :: rest) := by simp
          rw [shape, elements, first.2 _ (closes_gap blank mark rest)]
          simp [skip_blank blank, skip_cons visible]
  | @next part gap gap' text parts blank blank' tail ih =>
      obtain ⟨fuel, rfl⟩ :=
        Nat.exists_eq_succ_of_ne_zero (Nat.ne_of_gt (Nat.lt_of_lt_of_le (Nat.succ_pos _) enough))
      cases reads with
      | cons first later =>
          have comma : isNumeric ',' = false := rfl
          have shape : part ++ gap ++ ',' :: gap' ++ text ++ rest =
              part ++ (gap ++ ',' :: (gap' ++ (text ++ rest))) := by simp
          have begins : skip (gap' ++ (text ++ rest)) = text ++ rest := by
            obtain ⟨head, member, behind, rfl⟩ := tail.head
            rw [skip_blank blank', List.append_assoc]
            exact (ReadsAs.starts later head member).skip _
          rw [shape, elements, first.2 _ (closes_gap blank comma _)]
          have visible : isBlank ',' = false := rfl
          simp [skip_blank blank, skip_cons visible, other.symm, begins,
            ih later (Nat.le_of_succ_le_succ enough)]

inductive Contains (start close : Char) : List (List Char) → List Char → Prop
  | empty {gap : List Char} (blank : Blank gap) :
      Contains start close [] (start :: gap ++ [close])
  | some_ {gap text : List Char} {parts : List (List Char)} (blank : Blank gap)
      (spread : Spread close parts text) : Contains start close parts (start :: gap ++ text)

theorem enclosed_contains {item : List Char → Option (α × List Char)} {start close : Char}
    {parts : List (List Char)} {held : List α} (mark : isNumeric close = false)
    (visible : isBlank close = false) (other : close ≠ ',')
    (contains : Contains start close parts (start :: text))
    (apart : ∀ part ∈ parts, part.head? ≠ some close)
    (reads : List.Forall₂ (ReadsAs item) parts held) {fuel : Nat} (enough : text.length ≤ fuel)
    (rest : List Char) : enclosed item close fuel (text ++ rest) = some (held, rest) := by
  generalize whole : start :: text = all at contains
  cases contains with
  | @empty gap blank =>
      cases reads
      obtain rfl : text = gap ++ [close] := (List.cons.inj whole).2
      simp [enclosed, skip_blank blank, skip_cons visible]
  | @some_ gap items _ blank spread =>
      obtain rfl : text = gap ++ items := (List.cons.inj whole).2
      have few : parts.length ≤ fuel := by
        have fits := spread.fits.1
        rw [List.length_append] at enough
        omega
      have read := elements_spread mark visible other spread reads few rest
      obtain ⟨head, member, tail, rfl⟩ := spread.head
      obtain ⟨c, body, rfl, begins⟩ := ReadsAs.starts reads head member
      have first : c ≠ close := fun same => apart _ member (congrArg some same)
      rw [enclosed, List.append_assoc, skip_blank blank, List.cons_append, List.cons_append,
        skip_cons begins]
      simp only [if_neg first]
      exact read

theorem Contains.fits {start close : Char} {parts : List (List Char)}
    (contains : Contains start close parts (start :: text)) :
    ∀ part ∈ parts, part.length < text.length := by
  generalize whole : start :: text = all at contains
  cases contains with
  | empty => simp
  | @some_ gap items _ blank spread =>
      obtain rfl : text = gap ++ items := (List.cons.inj whole).2
      intro part member
      have fits := spread.fits.2 part member
      rw [List.length_append]
      omega

theorem value_none {c : Char} (other : isBlank c = true ∨ c = ']') (fuel : Nat)
    (rest : List Char) : value fuel (c :: rest) = none := by
  have listed : c ∈ [' ', '\t', '\n', '\r', ']'] := by
    simp only [isBlank, Bool.or_eq_true, decide_eq_true_eq] at other
    simp only [List.mem_cons, List.not_mem_nil, or_false]
    tauto
  cases fuel with
  | zero => rfl
  | succ fuel =>
      simp only [List.mem_cons, List.not_mem_nil, or_false] at listed
      rcases listed with rfl | rfl | rfl | rfl | rfl <;> rfl

theorem Reads.head {held : JsonValue} (reads : Reads text held) :
    Starts text ∧ text.head? ≠ some ']' := by
  have read := reads (text.length + 1) (Nat.lt_succ_self _) [] nofun
  rw [List.append_nil] at read
  cases text with
  | nil => cases read
  | cons c tail =>
      refine ⟨⟨c, tail, rfl, ?_⟩, fun same => ?_⟩
      · by_contra blank
        rw [value_none (.inl (by simpa using blank))] at read
        cases read
      · rw [value_none (.inr (Option.some.inj same))] at read
        cases read

theorem reads_array {parts : List (List Char)} {held : List JsonValue}
    (contains : Contains '[' ']' parts ('[' :: text)) (reads : List.Forall₂ Reads parts held) :
    Reads ('[' :: text) (.array held) := by
  intro fuel enough rest closes
  obtain ⟨fuel, rfl⟩ := Nat.exists_eq_succ_of_ne_zero (Nat.ne_of_gt (Nat.zero_lt_of_lt enough))
  have enough : text.length < fuel := by simpa using enough
  have shorter := (List.forall₂_and_left parts held).mpr ⟨contains.fits, reads⟩
  have items : List.Forall₂ (ReadsAs (value fuel)) parts held := by
    refine shorter.imp fun part item ⟨short, read⟩ => ⟨read.head.1, ?_⟩
    exact read fuel (short.trans enough)
  have apart : ∀ part ∈ parts, part.head? ≠ some ']' := by
    have heads : List.Forall₂ (fun part (_ : JsonValue) => part.head? ≠ some ']' ∧ True)
        parts held := reads.imp fun part item read => ⟨read.head.2, trivial⟩
    exact ((List.forall₂_and_left parts held).mp heads).1
  have read := enclosed_contains rfl rfl (by decide) contains apart items enough.le rest
  rw [List.cons_append, value, if_neg (by decide), if_neg (by decide), if_pos rfl, read]
  rfl

inductive Member : List Char → List Char × JsonValue → Prop
  | mk {name gap text : List Char} {held : JsonValue} (plain : Plain name) (blank : Blank gap)
      (reads : Reads text held) :
      Member (Char.ofNat 34 :: name ++ Char.ofNat 34 :: ':' :: gap ++ text) (name, held)

theorem Member.readsAs {part : List Char} {held : List Char × JsonValue}
    (isMember : Member part held) {fuel : Nat} (enough : part.length < fuel) :
    ReadsAs (member (value fuel) fuel) part held := by
  cases isMember with
  | @mk name gap text held plain blank reads =>
      refine ⟨⟨Char.ofNat 34, _, rfl, rfl⟩, fun rest closes => ?_⟩
      have lengths : name.length < fuel ∧ text.length < fuel := by
        simp only [List.length_append, List.length_cons] at enough
        omega
      have shape : Char.ofNat 34 :: name ++ Char.ofNat 34 :: ':' :: gap ++ text ++ rest =
          Char.ofNat 34 :: (name ++ Char.ofNat 34 :: (':' :: (gap ++ (text ++ rest)))) := by simp
      have key := stringBody_plain plain lengths.1 (':' :: (gap ++ (text ++ rest)))
      have colon : isBlank ':' = false := rfl
      rw [shape, member, if_neg (by simp)]
      simp only [key, Option.bind_eq_bind, Option.bind_some, skip_cons colon, skip_blank blank,
        reads.head.1.skip, reads fuel lengths.2 rest closes]

theorem reads_object {parts : List (List Char)} {held : List (List Char × JsonValue)}
    (contains : Contains '{' '}' parts ('{' :: text)) (members : List.Forall₂ Member parts held) :
    Reads ('{' :: text) (.object held) := by
  intro fuel enough rest closes
  obtain ⟨fuel, rfl⟩ := Nat.exists_eq_succ_of_ne_zero (Nat.ne_of_gt (Nat.zero_lt_of_lt enough))
  have enough : text.length < fuel := by simpa using enough
  have shorter := (List.forall₂_and_left parts held).mpr ⟨contains.fits, members⟩
  have items : List.Forall₂ (ReadsAs (member (value fuel) fuel)) parts held :=
    shorter.imp fun part item both => both.2.readsAs (both.1.trans enough)
  have apart : ∀ part ∈ parts, part.head? ≠ some '}' := by
    have heads : List.Forall₂ (fun part (_ : List Char × JsonValue) =>
        part.head? ≠ some '}' ∧ True) parts held := by
      refine members.imp fun part item isMember => ⟨?_, trivial⟩
      cases isMember
      exact fun same => absurd (Option.some.inj same) (by decide)
    exact ((List.forall₂_and_left parts held).mp heads).1
  have read := enclosed_contains rfl rfl (by decide) contains apart items enough.le rest
  rw [List.cons_append, value, if_neg (by decide), if_pos rfl, read]
  rfl

theorem loads_reads {held : JsonValue} (reads : Reads text held) : loads text = some held := by
  have read := reads (text.length + 1) (Nat.lt_succ_self _) [] nofun
  have same := reads.head.1.skip []
  rw [List.append_nil] at read same
  rw [loads, same, read]
  rfl

section Numbers

def point (decimals : List Char) : List Char := if decimals = [] then [] else '.' :: decimals

theorem fraction_point {decimals mark : List Char} (digits : ∀ c ∈ decimals, c.isDigit = true)
    (ends : ∀ c ∈ mark.head?, c.isDigit = false ∧ c ≠ '.') :
    fraction (point decimals ++ mark) = some (decimals, mark) := by
  have stops : mark.takeWhile Char.isDigit = [] ∧ mark.dropWhile Char.isDigit = mark := by
    cases mark with
    | nil => exact ⟨rfl, rfl⟩
    | cons c mark => simp [(ends c rfl).1]
  unfold point
  split
  case isTrue none_ =>
    subst none_
    unfold fraction
    split
    case h_1 rest same =>
      cases mark with
      | nil => cases same
      | cons c mark => exact absurd (List.cons.inj same).1 (ends c rfl).2
    case h_2 => rfl
  case isFalse some_ =>
    rw [List.cons_append, fraction, List.takeWhile_append_of_pos digits,
      List.dropWhile_append_of_pos digits, stops.1, stops.2, List.append_nil, if_neg some_]

theorem unsigned_parts {whole decimals mark : List Char} {power : Int} (some_ : whole ≠ [])
    (digits : ∀ c ∈ whole, c.isDigit = true) (leading : whole.head? = some '0' → whole.length = 1)
    (digits' : ∀ c ∈ decimals, c.isDigit = true)
    (ends : ∀ c ∈ mark.head?, c.isDigit = false ∧ c ≠ '.') (read : exponent mark = some power) :
    unsigned (whole ++ (point decimals ++ mark)) =
      some ((Nat.ofDigitChars 10 (whole ++ decimals) 0 : ℚ) * 10 ^ (power - decimals.length)) := by
  have stops : ∀ c ∈ (point decimals ++ mark).head?, c.isDigit = false := by
    unfold point
    split
    · exact fun c first => (ends c first).1
    · intro c first
      rw [← Option.some.inj first]
      rfl
  have behind : (point decimals ++ mark).takeWhile Char.isDigit = [] ∧
      (point decimals ++ mark).dropWhile Char.isDigit = point decimals ++ mark := by
    cases shown : point decimals ++ mark with
    | nil => exact ⟨rfl, rfl⟩
    | cons c rest =>
        have stop := stops c (by rw [shown]; rfl)
        simp [stop]
  have plain : ¬ (whole = [] ∨ (whole.head? = some '0' ∧ whole.length ≠ 1)) := by
    rintro (none_ | ⟨zero, more⟩)
    · exact some_ none_
    · exact more (leading zero)
  rw [unsigned, List.takeWhile_append_of_pos digits, List.dropWhile_append_of_pos digits,
    behind.1, behind.2, List.append_nil, if_neg plain, fraction_point digits' ends]
  simp [read]

theorem toDigits_leading (n : Nat) :
    (Nat.toDigits 10 n).head? = some '0' → (Nat.toDigits 10 n).length = 1 := by
  induction n using Nat.strong_induction_on with
  | _ n ih =>
      by_cases small : n < 10
      · rw [Nat.toDigits_of_lt_base small]
        exact fun _ => rfl
      · rw [Nat.toDigits_of_base_le (by decide) (by omega)]
        intro zero
        have front : (Nat.toDigits 10 (n / 10)).head? = some '0' := by
          cases shown : Nat.toDigits 10 (n / 10) with
          | nil => exact absurd shown Nat.toDigits_ne_nil
          | cons c rest => simpa [shown] using zero
        have single := ih (n / 10) (by omega) front
        exfalso
        have tens : n / 10 < 10 := by
          have bound := (Nat.length_toDigits_le_iff (by decide : 1 < 10) (by decide : 0 < 1)).mp
            single.le
          simpa using bound
        rw [Nat.toDigits_of_lt_base tens] at front
        have positive : 0 < n / 10 := by omega
        have digit : ∀ d < 10, 0 < d → d.digitChar ≠ '0' := by decide
        exact digit _ tens positive (Option.some.inj front)

theorem unsigned_nat (n : Nat) : unsigned (Nat.toDigits 10 n) = some (n : ℚ) := by
  have parts := @unsigned_parts (Nat.toDigits 10 n) [] [] 0 Nat.toDigits_ne_nil
    (fun c => Nat.isDigit_of_mem_toDigits (by decide) (by decide)) (toDigits_leading n)
    (by simp) (by simp) rfl
  simpa [point] using parts

theorem isDigit_numeric {c : Char} (digit : c.isDigit = true) : isNumeric c = true := by
  simp [isNumeric, digit]

theorem numberValue_digit {c : Char} (digit : c.isDigit = true) (token : List Char) :
    numberValue (c :: token) = unsigned (c :: token) := by
  unfold numberValue
  split
  case h_1 token' same =>
    cases same
    exact absurd digit (by decide)
  case h_2 => rfl

end Numbers

end JsonReader
