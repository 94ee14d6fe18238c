import MazeClient.Maze.MapFields

set_option autoImplicit false

namespace MazeClient

namespace MapFile

open Rounding TextSearch Json

structure Number (text : Text) (value : ℚ) : Prop where
  some_ : text ≠ []
  chars : ∀ c ∈ text, isNumberChar c = true
  value : signedDouble text = some value

theorem isNumberChar_digit {c : Char} (digit : c.isDigit = true) : isNumberChar c = true := by
  simp [isNumberChar, digit]

theorem digits_isDigit (n : Nat) : ∀ c ∈ Nat.toDigits 10 n, c.isDigit = true :=
  fun _ inside => Nat.isDigit_of_mem_toDigits (by decide) (by decide) inside

theorem unsignedDouble_digits {digits : Text} (some_ : digits ≠ [])
    (all : ∀ c ∈ digits, c.isDigit = true) :
    unsignedDouble digits = some (Nat.ofDigitChars 10 digits 0 : ℚ) := by
  have taken := List.takeWhile_eq_self_iff.mpr all
  have rest := List.dropWhile_eq_nil_iff.mpr all
  rw [unsignedDouble, taken, rest]
  exact if_neg some_

theorem unsignedDouble_point {whole fraction : Text} (some_ : whole ≠ [])
    (all : ∀ c ∈ whole, c.isDigit = true) (all' : ∀ c ∈ fraction, c.isDigit = true) :
    unsignedDouble (whole ++ '.' :: fraction) =
      some ((Nat.ofDigitChars 10 (whole ++ fraction) 0 : ℚ) / 10 ^ fraction.length) := by
  have taken : (whole ++ '.' :: fraction).takeWhile Char.isDigit = whole := by
    rw [List.takeWhile_append_of_pos all]
    simp
  have rest : (whole ++ '.' :: fraction).dropWhile Char.isDigit = '.' :: fraction := by
    rw [List.dropWhile_append_of_pos all]
    simp
  rw [unsignedDouble, taken, rest]
  exact if_pos ⟨rfl, by simpa using all', by simp [some_]⟩

theorem signedDouble_minus (token : Text) :
    signedDouble ('-' :: token) = (unsignedDouble token).map fun value => -value := rfl

theorem signedDouble_digit {c : Char} (digit : c.isDigit = true) (token : Text) :
    signedDouble (c :: token) = unsignedDouble (c :: token) := by
  unfold signedDouble
  split
  case h_1 token' same =>
    cases same
    exact absurd digit (by decide)
  case h_2 => rfl

theorem signedDouble_unsigned {token : Text} {value : ℚ} (starts : ∀ c ∈ token.head?, c.isDigit = true)
    (read : unsignedDouble token = some value) : signedDouble token = some value := by
  cases token with
  | nil => exact read
  | cons c token => rw [signedDouble_digit (starts c rfl), read]

theorem number_int (value : Int) : Number (Json.int value) value := by
  have all := digits_isDigit value.natAbs
  have read : unsignedDouble (Nat.toDigits 10 value.natAbs) = some (value.natAbs : ℚ) := by
    rw [unsignedDouble_digits Nat.toDigits_ne_nil all,
      Nat.ofDigitChars_toDigits (by decide) (by decide)]
  unfold Json.int
  split
  case isTrue negative =>
    refine ⟨List.cons_ne_nil _ _, fun c inside => ?_, ?_⟩
    · rcases List.mem_cons.mp inside with rfl | inside
      · decide
      · exact isNumberChar_digit (all c inside)
    · have absolute : ((value.natAbs : Int) : ℚ) = -value := by
        rw [Int.ofNat_natAbs_of_nonpos negative.le, Int.cast_neg]
      rw [signedDouble_minus, read, Option.map_some, ← Int.cast_natCast, absolute, neg_neg]
  case isFalse positive =>
    refine ⟨Nat.toDigits_ne_nil, fun c inside => isNumberChar_digit (all c inside), ?_⟩
    have absolute : ((value.natAbs : Int) : ℚ) = value := by
      rw [Int.natAbs_of_nonneg (not_lt.mp positive)]
    rw [signedDouble_unsigned (fun c first => all c (List.mem_of_mem_head? first)) read,
      ← Int.cast_natCast, absolute]

theorem digitChar_isDigit : ∀ d < 10, d.digitChar.isDigit = true := by decide

theorem decimals_isDigit (n : Nat) : ∀ c ∈ Json.decimals (n % 100), c.isDigit = true := by
  have tens := digitChar_isDigit (n % 100 / 10) (by omega)
  have ones := digitChar_isDigit (n % 100 % 10) (by omega)
  unfold Json.decimals
  split <;> simp only [List.forall_mem_cons, tens, ones] <;> simp

theorem cents_value (n : Nat) : unsignedDouble (Json.cents n) = some ((n : ℚ) / 100) := by
  have all := digits_isDigit (n / 100)
  have after := decimals_isDigit n
  have small : n % 100 / 10 < 10 := by omega
  have small' : n % 100 % 10 < 10 := by omega
  unfold Json.cents
  unfold Json.decimals at after ⊢
  split at after
  case isTrue round =>
    rw [if_pos round]
    have value : Nat.ofDigitChars 10 (Nat.toDigits 10 (n / 100) ++ [(n % 100 / 10).digitChar]) 0 =
        n / 10 := by
      rw [Nat.ofDigitChars_append, Nat.ofDigitChars_toDigits (by decide) (by decide),
        Nat.ofDigitChars_cons_digitChar_of_lt_ten small, Nat.ofDigitChars_nil]
      omega
    rw [unsignedDouble_point Nat.toDigits_ne_nil all after, value]
    have tens : n = n / 10 * 10 := by omega
    have cast : (n : ℚ) = (n / 10 : Nat) * 10 := by exact_mod_cast tens
    rw [cast]
    simp only [List.length_singleton, pow_one, Option.some.injEq]
    ring
  case isFalse uneven =>
    rw [if_neg uneven]
    have value : Nat.ofDigitChars 10 (Nat.toDigits 10 (n / 100) ++
        [(n % 100 / 10).digitChar, (n % 100 % 10).digitChar]) 0 = n := by
      rw [Nat.ofDigitChars_append, Nat.ofDigitChars_toDigits (by decide) (by decide),
        Nat.ofDigitChars_cons_digitChar_of_lt_ten small,
        Nat.ofDigitChars_cons_digitChar_of_lt_ten small', Nat.ofDigitChars_nil]
      omega
    rw [unsignedDouble_point Nat.toDigits_ne_nil all after, value]
    norm_num

theorem number_float {value : ℚ} {hundredths : Nat} (two : value * 100 = hundredths) :
    Number (Json.float value) value := by
  have floor : ⌊value * 100⌋ = (hundredths : Int) := by rw [two, Int.floor_natCast]
  have positive : ¬ (hundredths : Int) < 0 := by omega
  unfold Json.float
  rw [floor]
  simp only [if_neg positive, Int.natAbs_natCast]
  have value_ : value = (hundredths : ℚ) / 100 := by
    rw [← two]
    ring
  have whole := digits_isDigit (hundredths / 100)
  refine ⟨?_, ?_, ?_⟩
  · simp [Json.cents]
  · intro c inside
    simp only [Json.cents, List.mem_append, List.mem_cons] at inside
    rcases inside with inside | rfl | inside
    · exact isNumberChar_digit (whole c inside)
    · decide
    · exact isNumberChar_digit (decimals_isDigit hundredths c inside)
  · rw [value_]
    refine signedDouble_unsigned (fun c first => whole c ?_) (cents_value hundredths)
    rw [Json.cents, List.head?_append_of_ne_nil _ Nat.toDigits_ne_nil] at first
    exact List.mem_of_mem_head? first

section Readers

variable {key : String} {value text : Text} {x : ℚ}

theorem Number.plain (number : Number value x) {c : Char} (other : isNumberChar c = false) :
    c ∉ value := by
  intro inside
  rw [number.chars c inside] at other
  cases other

theorem Number.passed (number : Number value x) : Passed key value :=
  passed_plain (number.plain (by decide))

theorem afterColon_written {next : Char} {rest : Text}
    (found : find (quoted doubleQuote key.toList) text = some (field key value ++ next :: rest)) :
    afterColon text key = some (' ' :: value ++ next :: rest) := by
  have behind : (field key value ++ next :: rest).drop (quoted doubleQuote key.toList).length =
      ':' :: ' ' :: value ++ next :: rest := by
    simp [field, string]
  unfold afterColon
  rw [found, Option.bind_eq_bind, Option.bind_some, behind]
  rfl

theorem findDouble_written (written : Written key value text) (number : Number value x) :
    findDouble text key = if FitsDouble x then x else -1 := by
  obtain ⟨next, rest, ending, found⟩ := written
  have stop : isNumberChar next = false := by rcases ending with rfl | rfl <;> decide
  have first : ((' ' :: value ++ next :: rest).dropWhile fun c => c = ' ' || c = '\t') =
      value ++ next :: rest := by
    cases shape : value with
    | nil => exact (number.some_ shape).elim
    | cons c token =>
        have numeric := number.chars c (by simp [shape])
        have blank : c ≠ ' ' ∧ c ≠ '\t' := by
          constructor <;> rintro rfl <;> exact absurd numeric (by decide)
        simp [blank]
  have token : (value ++ next :: rest).takeWhile isNumberChar = value := by
    rw [List.takeWhile_append_of_pos number.chars, List.takeWhile_cons_of_neg (by simp [stop]),
      List.append_nil]
  unfold findDouble
  rw [afterColon_written found]
  dsimp only
  rw [first, token, stod, number.value]
  by_cases fits : FitsDouble x <;> simp [Option.filter, fits]

theorem findString_written {word : Text} (written : Written key (quoted doubleQuote word) text)
    (plain : doubleQuote ∉ word) : findString text key = word := by
  obtain ⟨next, rest, -, found⟩ := written
  have start : find [doubleQuote] (' ' :: quoted doubleQuote word ++ next :: rest) =
      some (doubleQuote :: (word ++ doubleQuote :: next :: rest)) := by
    have shape : ' ' :: quoted doubleQuote word ++ next :: rest =
        [' '] ++ ([doubleQuote] ++ (word ++ doubleQuote :: next :: rest)) := by simp [quoted]
    rw [shape, find_append (clear_of_not_mem (by decide))]
    exact find_here _ _
  have close : find [doubleQuote] (word ++ doubleQuote :: next :: rest) =
      some (doubleQuote :: next :: rest) := by
    rw [find_append (clear_of_not_mem plain)]
    exact find_here [doubleQuote] (next :: rest)
  unfold findString
  rw [afterColon_written found]
  simp only [start, List.drop_succ_cons, List.drop_zero, close]
  rw [List.takeWhile_append_of_pos, List.takeWhile_cons_of_neg (by simp), List.append_nil]
  intro c inside
  have apart : c ≠ doubleQuote := fun same => plain (same ▸ inside)
  simpa using apart

def Block (value : Text) : Prop := ∃ inner, value = '{' :: inner ++ ['}'] ∧ '}' ∉ inner

theorem Block.start {front : Text} (block : Block value) (clear : '{' ∉ front) (rest : Text) :
    find ['{'] (front ++ (value ++ rest)) = some (value ++ rest) := by
  obtain ⟨inner, rfl, -⟩ := block
  rw [find_append (clear_of_not_mem clear)]
  exact find_here ['{'] (inner ++ ['}'] ++ rest)

theorem Block.close (block : Block value) (rest : Text) :
    find ['}'] (value ++ rest) = some ('}' :: rest) := by
  obtain ⟨inner, rfl, only⟩ := block
  rw [List.append_assoc, find_append (clear_of_not_mem (by simpa using only))]
  exact find_here ['}'] rest

theorem Block.takeWhile (block : Block value) (rest : Text) :
    (value ++ rest).takeWhile (· ≠ '}') ++ ['}'] = value := by
  obtain ⟨inner, rfl, only⟩ := block
  have only' : '}' ∉ '{' :: inner := by simpa using only
  rw [List.append_assoc, List.takeWhile_append_of_pos, List.singleton_append,
    List.takeWhile_cons_of_neg (by simp), List.append_nil]
  intro c inside
  have apart : c ≠ '}' := fun same => only' (same ▸ inside)
  simpa using apart

theorem blockOf_written (isKey : IsKey key) (written : Written key value text)
    (block : Block value) : blockOf text key = some value := by
  obtain ⟨next, rest, -, found⟩ := written
  have clear : '{' ∉ string key ++ [':', ' '] := by
    intro inside
    have inside : '{' ∈ key.toList := by simpa [string, quoted, doubleQuote] using inside
    exact absurd (isKey.2 _ inside) (by decide)
  unfold blockOf
  rw [found, Option.bind_eq_bind, Option.bind_some]
  have shape : field key value ++ next :: rest =
      (string key ++ [':', ' ']) ++ (value ++ next :: rest) := by simp [field]
  rw [shape, braceBlock, block.start clear, Option.bind_eq_bind, Option.bind_some, block.close,
    Option.bind_some, block.takeWhile]
  rfl

theorem lines_closed {c close : Char} {level : Nat} {parts : List Text}
    (clear : ∀ part ∈ parts, c ∉ part) (other : c ≠ ' ' ∧ c ≠ ',' ∧ c ≠ '\n') :
    ∃ body, lines level close parts = body ++ [close] ∧ c ∉ body := by
  have padded (level : Nat) : c ∉ pad level :=
    fun inside => other.1 (List.eq_of_mem_replicate inside)
  induction parts with
  | nil => exact ⟨pad level, rfl, padded level⟩
  | cons part others ih =>
      obtain ⟨first, rest⟩ := List.forall_mem_cons.mp clear
      obtain ⟨body, shape, inner⟩ := ih rest
      cases others with
      | nil =>
          refine ⟨pad (level + 1) ++ (part ++ '\n' :: body), ?_, ?_⟩
          · rw [lines_single, shape]
            simp
          · simp [padded, first, inner, other]
      | cons next others =>
          refine ⟨pad (level + 1) ++ (part ++ ',' :: '\n' :: body), ?_, ?_⟩
          · rw [lines_cons (by simp), shape]
            simp
          · simp [padded, first, inner, other]

structure Numbers (fields : List (String × Text)) : Prop where
  keys : ∀ entry ∈ fields, IsKey entry.1
  values : ∀ entry ∈ fields, ∃ x, Number entry.2 x
  distinct : (fields.map Prod.fst).Nodup

variable {fields : List (String × Text)}

theorem Numbers.clear (numbers : Numbers fields) {c : Char} (mark : (c.isAlphanum || c = '_') = false)
    (marks : c ≠ doubleQuote ∧ c ≠ ':' ∧ c ≠ ' ') (number : isNumberChar c = false) :
    ∀ part ∈ fields.map fun (key, value) => field key value, c ∉ part := by
  intro part inside
  obtain ⟨entry, member, rfl⟩ := List.mem_map.mp inside
  obtain ⟨x, value⟩ := numbers.values entry member
  have keyless : c ∉ entry.1.toList := by
    intro inside
    rw [(numbers.keys entry member).2 c inside] at mark
    cases mark
  simp [field, string, quoted, keyless, value.plain number, marks]

theorem Numbers.block (numbers : Numbers fields) (some_ : fields ≠ []) (level : Nat) :
    Block (object level fields) := by
  have clear := numbers.clear (by decide) (by decide) (show isNumberChar '}' = false by decide)
  obtain ⟨body, shape, inner⟩ := @lines_closed '}' '}' level _ clear (by decide)
  refine ⟨'\n' :: body, ?_, by simpa using inner⟩
  unfold object container
  rw [if_neg (by simpa using some_), shape]
  rfl

theorem Numbers.findDouble (numbers : Numbers fields) {level : Nat} (member : (key, value) ∈ fields)
    (number : Number value x) (fits : FitsDouble x) : findDouble (object level fields) key = x := by
  have found : Written key value (object level fields) := by
    refine written member numbers.distinct numbers.keys fun entry inside => ?_
    obtain ⟨y, other⟩ := numbers.values entry inside
    exact other.passed
  rw [findDouble_written found number, if_pos fits]

theorem Numbers.passed (numbers : Numbers fields) {level : Nat} (isKey : IsKey key)
    (apart : ∀ entry ∈ fields, key ≠ entry.1) : Passed key (object level fields) := by
  refine passed_object isKey fun entry inside => ⟨numbers.keys entry inside, apart entry inside, ?_⟩
  obtain ⟨y, other⟩ := numbers.values entry inside
  exact other.passed

end Readers

end MapFile

end MazeClient
