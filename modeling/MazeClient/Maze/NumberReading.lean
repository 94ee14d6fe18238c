import MazeClient.Generator.WallSegments
import MazeClient.Maze.FrameLine
import MazeClient.Shared.JsonPrefix

set_option autoImplicit false

namespace MazeClient

open JsonReader Rounding TextSearch

-- A text that is one number.
structure Numeral (token : Text) (number : ℚ) : Prop where
  numeric : ∀ c ∈ token, isNumeric c = true
  read : numberValue token = some number

theorem Numeral.reads {token : Text} {number : ℚ} (numeral : Numeral token number) :
    Reads token (.number number) := reads_number numeral.numeric numeral.read

theorem Numeral.minus {token : Text} {number : ℚ} (numeric : ∀ c ∈ token, isNumeric c = true)
    (read : unsigned token = some number) : Numeral ('-' :: token) (-number) where
  numeric := List.forall_mem_cons.mpr ⟨rfl, numeric⟩
  read := by rw [numberValue, read]; rfl

theorem Numeral.plus {token : Text} {number : ℚ} (numeric : ∀ c ∈ token, isNumeric c = true)
    (starts : ∀ c ∈ token.head?, c.isDigit = true) (read : unsigned token = some number) :
    Numeral token number where
  numeric := numeric
  read := by
    cases token with
    | nil => cases read
    | cons c token => rw [numberValue_digit (starts c rfl), read]

theorem numeral_int (n : Int) : Numeral (Json.int n) n := by
  have digits : ∀ c ∈ Nat.toDigits 10 n.natAbs, c.isDigit = true :=
    fun c => Nat.isDigit_of_mem_toDigits (by decide) (by decide)
  have numeric : ∀ c ∈ Nat.toDigits 10 n.natAbs, isNumeric c = true :=
    fun c inside => isDigit_numeric (digits c inside)
  unfold Json.int
  split
  case isTrue negative =>
    have absolute : -(n.natAbs : ℚ) = n := by
      rw [← Int.cast_natCast, Int.ofNat_natAbs_of_nonpos negative.le, Int.cast_neg, neg_neg]
    exact absolute ▸ .minus numeric (unsigned_nat _)
  case isFalse positive =>
    have absolute : (n.natAbs : ℚ) = n := by
      rw [← Int.cast_natCast, Int.natAbs_of_nonneg (not_lt.mp positive)]
    exact absolute ▸ .plus numeric (fun c first => digits c (List.mem_of_mem_head? first))
      (unsigned_nat _)

theorem numeral_nat (n : Nat) : Numeral (Json.int n) n := by simpa using numeral_int n

namespace Ostream

def rounded (value : ℚ) : ℚ :=
  if value = 0 then 0
  else
    let (digits, power) := significant |value|
    if value < 0 then -(digits * 10 ^ (power - 5)) else digits * 10 ^ (power - 5)

theorem significant_digits {value : ℚ} (positive : 0 < value) :
    100000 ≤ (significant value).1 ∧ (significant value).1 < 1000000 := by
  have low := Int.zpow_log_le_self (by decide : 1 < 10) positive
  have high := Int.lt_zpow_succ_log_self (by decide : 1 < 10) value
  set power := Int.log 10 value with isPower
  have unit : (0 : ℚ) < 10 ^ (power - 5) := zpow_pos (by norm_num) _
  have lower : (10 : ℚ) ^ power = 100000 * 10 ^ (power - 5) := by
    rw [show power = 5 + (power - 5) by ring, zpow_add₀ (by norm_num)]
    norm_num
  have upper : (10 : ℚ) ^ (power + 1) = 1000000 * 10 ^ (power - 5) := by
    rw [show power + 1 = 6 + (power - 5) by ring, zpow_add₀ (by norm_num)]
    norm_num
  have scaled : 100000 ≤ value / 10 ^ (power - 5) ∧ value / 10 ^ (power - 5) < 1000000 := by
    rw [le_div_iff₀ unit, div_lt_iff₀ unit, ← lower, ← upper]
    exact ⟨by exact_mod_cast low, by exact_mod_cast high⟩
  obtain ⟨below, above⟩ := roundHalfEven_bounds (value / 10 ^ (power - 5))
  have least : (100000 : Int) ≤ roundHalfEven (value / 10 ^ (power - 5)) := by
    by_contra small
    have small : roundHalfEven (value / 10 ^ (power - 5)) ≤ 99999 := by omega
    have cast : (roundHalfEven (value / 10 ^ (power - 5)) : ℚ) ≤ 99999 := by exact_mod_cast small
    linarith
  have most : roundHalfEven (value / 10 ^ (power - 5)) ≤ 1000000 := by
    by_contra big
    have big : 1000001 ≤ roundHalfEven (value / 10 ^ (power - 5)) := by omega
    have cast : (1000001 : ℚ) ≤ roundHalfEven (value / 10 ^ (power - 5)) := by exact_mod_cast big
    linarith
  unfold significant
  dsimp only
  rw [← isPower]
  split
  · simp
  · dsimp only
    omega

theorem trailing (fraction : Text) : ∃ zeros, fraction =
    fraction.rdropWhile (· = '0') ++ List.replicate zeros '0' := by
  refine ⟨(fraction.rtakeWhile (· = '0')).length, ?_⟩
  have zeros : fraction.rtakeWhile (· = '0') =
      List.replicate (fraction.rtakeWhile (· = '0')).length '0' := by
    refine List.eq_replicate_of_mem fun c member => ?_
    simpa using List.mem_rtakeWhile_imp member
  rw [← zeros, List.rdropWhile_append_rtakeWhile]

theorem pointed_value {whole fraction mark : Text} {power : Int} (some_ : whole ≠ [])
    (digits : ∀ c ∈ whole, c.isDigit = true) (leading : whole.head? = some '0' → whole.length = 1)
    (digits' : ∀ c ∈ fraction, c.isDigit = true)
    (ends : ∀ c ∈ mark.head?, c.isDigit = false ∧ c ≠ '.') (read : exponent mark = some power) :
    unsigned (pointed whole fraction ++ mark) =
      some ((Nat.ofDigitChars 10 (whole ++ fraction) 0 : ℚ) * 10 ^ (power - fraction.length)) := by
  have shape : pointed whole fraction = whole ++ point (fraction.rdropWhile (· = '0')) := by
    unfold pointed point
    dsimp only
    split
    case isTrue => simp
    case isFalse => rfl
  obtain ⟨zeros, split_⟩ := trailing fraction
  set kept := fraction.rdropWhile (· = '0')
  have value : Nat.ofDigitChars 10 (whole ++ fraction) 0 =
      10 ^ zeros * Nat.ofDigitChars 10 (whole ++ kept) 0 := by
    rw [split_, ← List.append_assoc, Nat.ofDigitChars_append, Nat.ofDigitChars_replicate_zero]
  have length : (fraction.length : Int) = kept.length + zeros := by
    rw [split_, List.length_append, List.length_replicate, Nat.cast_add]
  rw [shape, List.append_assoc, unsigned_parts some_ digits leading
    (fun c inside => digits' c (split_ ▸ List.mem_append_left _ inside)) ends read, value, length]
  congr 1
  push_cast
  rw [show power - kept.length = (zeros : Int) + (power - (kept.length + zeros)) by ring,
    zpow_add₀ (by norm_num), zpow_natCast]
  ring

structure Six (digits : Nat) (text : Text) : Prop where
  written : text = Nat.toDigits 10 digits
  length : text.length = 6
  all : ∀ c ∈ text, c.isDigit = true
  value : Nat.ofDigitChars 10 text 0 = digits
  leading : text.head? ≠ some '0'

theorem six {digits : Nat} (least : 100000 ≤ digits) (most : digits < 1000000) :
    Six digits (Nat.toDigits 10 digits) := by
  have short := (Nat.length_toDigits_le_iff (by decide : 1 < 10) (by decide : 0 < 6)).mpr most
  have long : ¬ (Nat.toDigits 10 digits).length ≤ 5 := fun few => by
    have bound := (Nat.length_toDigits_le_iff (by decide : 1 < 10) (by decide : 0 < 5)).mp few
    omega
  have length : (Nat.toDigits 10 digits).length = 6 := by omega
  refine ⟨rfl, length, fun c => Nat.isDigit_of_mem_toDigits (by decide) (by decide),
    Nat.ofDigitChars_toDigits (by decide) (by decide), fun zero => ?_⟩
  have single := toDigits_leading digits zero
  omega

theorem scientific_value {digits : Nat} {text : Text} (six : Six digits text) (power : Int) :
    unsigned (scientific text power) = some ((digits : ℚ) * 10 ^ (power - 5)) := by
  have front : text.take 1 ≠ [] := by
    intro none_
    have length := congrArg List.length none_
    simp [six.length] at length
  have single : (text.take 1).length = 1 := by simp [six.length]
  have behind : (text.drop 1).length = 5 := by simp [six.length]
  have mark : exponent ('e' :: (if power < 0 then '-' else '+') :: padded 2 power.natAbs) =
      some power := by
    have some_ : padded 2 power.natAbs ≠ [] := by simp [padded]
    have all : (padded 2 power.natAbs).all Char.isDigit = true :=
      List.all_eq_true.mpr fun c inside => padded_isDigit inside
    have value := padded_value 2 power.natAbs
    by_cases negative : power < 0
    · have whole : -(power.natAbs : Int) = power := by omega
      simp only [if_pos negative, exponent, digits?, if_pos (And.intro some_ all), value]
      exact congrArg some whole
    · have whole : (power.natAbs : Int) = power := by omega
      simp only [if_neg negative, exponent, digits?, if_pos (And.intro some_ all), value]
      exact congrArg some whole
  have read := @pointed_value (text.take 1) (text.drop 1)
    ('e' :: (if power < 0 then '-' else '+') :: padded 2 power.natAbs) power front
    (fun c inside => six.all c (List.mem_of_mem_take inside)) (fun _ => single)
    (fun c inside => six.all c (List.mem_of_mem_drop inside))
    (fun c first => by
      obtain rfl : 'e' = c := Option.some.inj first
      decide) mark
  rw [List.take_append_drop, six.value, behind] at read
  exact read

theorem fixed_value {digits : Nat} {text : Text} (six : Six digits text) {power : Int}
    (small : power < 6) : unsigned (fixed text power) = some ((digits : ℚ) * 10 ^ (power - 5)) := by
  unfold fixed
  split
  case isTrue negative =>
    have zeros : ∀ c ∈ List.replicate (power.natAbs - 1) '0', c.isDigit = true := by
      intro c inside
      rw [List.eq_of_mem_replicate inside]
      rfl
    have read := @pointed_value ['0'] (List.replicate (power.natAbs - 1) '0' ++ text) [] 0
      (by simp) (List.forall_mem_singleton.mpr rfl) (fun _ => rfl)
      (List.forall_mem_append.mpr ⟨zeros, six.all⟩) (by simp) rfl
    have value : Nat.ofDigitChars 10 (['0'] ++ (List.replicate (power.natAbs - 1) '0' ++ text)) 0 =
        digits := by
      rw [Nat.ofDigitChars_append, Nat.ofDigitChars_append, Nat.ofDigitChars_replicate_zero]
      simpa [Nat.ofDigitChars_cons] using six.value
    have length : (0 : Int) - (List.replicate (power.natAbs - 1) '0' ++ text).length = power - 5 := by
      rw [List.length_append, List.length_replicate, six.length]
      omega
    rw [List.append_nil, value, length] at read
    exact read
  case isFalse positive =>
    have front : text.take (power.toNat + 1) ≠ [] := by
      intro none_
      have length := congrArg List.length none_
      simp [six.length] at length
    have leading : (text.take (power.toNat + 1)).head? ≠ some '0' := by
      rw [List.head?_take, if_neg (Nat.succ_ne_zero _)]
      exact six.leading
    have read := @pointed_value (text.take (power.toNat + 1)) (text.drop (power.toNat + 1)) [] 0
      front (fun c inside => six.all c (List.mem_of_mem_take inside))
      (fun zero => absurd zero leading)
      (fun c inside => six.all c (List.mem_of_mem_drop inside)) (by simp) rfl
    have length : (0 : Int) - (text.drop (power.toNat + 1)).length = power - 5 := by
      rw [List.length_drop, six.length]
      omega
    rw [List.append_nil, List.take_append_drop, six.value, length] at read
    exact read

theorem numeric_pointed {whole fraction : Text} (digits : ∀ c ∈ whole, c.isDigit = true)
    (digits' : ∀ c ∈ fraction, c.isDigit = true) :
    ∀ c ∈ pointed whole fraction, isNumeric c = true := by
  have kept : ∀ c ∈ fraction.rdropWhile (· = '0'), isNumeric c = true := fun c inside =>
    isDigit_numeric (digits' c ((List.rdropWhile_prefix _ _).subset inside))
  have front : ∀ c ∈ whole, isNumeric c = true := fun c inside => isDigit_numeric (digits c inside)
  unfold pointed
  dsimp only
  split
  · exact front
  · exact List.forall_mem_append.mpr ⟨front, List.forall_mem_cons.mpr ⟨rfl, kept⟩⟩

theorem positive_numeric {value : ℚ} (above : 0 < value) :
    ∀ c ∈ positive value, isNumeric c = true := by
  have digits := (six (significant_digits above).1 (significant_digits above).2).all
  have part (n : Nat) : ∀ c ∈ (Nat.toDigits 10 (significant value).1).take n, c.isDigit = true :=
    fun c inside => digits c (List.mem_of_mem_take inside)
  have rest (n : Nat) : ∀ c ∈ (Nat.toDigits 10 (significant value).1).drop n, c.isDigit = true :=
    fun c inside => digits c (List.mem_of_mem_drop inside)
  unfold positive
  dsimp only
  split
  · refine List.forall_mem_append.mpr ⟨numeric_pointed (part 1) (rest 1), ?_⟩
    refine List.forall_mem_cons.mpr ⟨rfl, List.forall_mem_cons.mpr ⟨?_, ?_⟩⟩
    · split <;> rfl
    · exact fun c inside => isDigit_numeric (padded_isDigit inside)
  · unfold fixed
    split
    · refine numeric_pointed (List.forall_mem_singleton.mpr rfl)
        (List.forall_mem_append.mpr ⟨fun c zero => ?_, digits⟩)
      rw [List.eq_of_mem_replicate zero]
      rfl
    · exact numeric_pointed (part _) (rest _)

theorem positive_value {value : ℚ} (above : 0 < value) :
    unsigned (positive value) =
      some (((significant value).1 : ℚ) * 10 ^ ((significant value).2 - 5)) := by
  have digits := six (significant_digits above).1 (significant_digits above).2
  unfold positive
  dsimp only
  split
  case isTrue => exact scientific_value digits _
  case isFalse moderate => exact fixed_value digits (by omega)

theorem numeral_float (value : ℚ) : Numeral (float value) (rounded value) := by
  unfold float rounded
  split
  case isTrue => exact numeral_int 0
  case isFalse other =>
    dsimp only
    split
    case isTrue negative =>
      have above : 0 < -value := neg_pos.mpr negative
      rw [abs_of_neg negative]
      exact .minus (positive_numeric above) (positive_value above)
    case isFalse =>
      have above : 0 < value := by
        rcases lt_trichotomy value 0 with below | same | above
        · contradiction
        · contradiction
        · exact above
      rw [abs_of_pos above]
      refine ⟨positive_numeric above, ?_⟩
      have read := positive_value above
      rw [← read]
      cases shown : positive value with
      | nil => rfl
      | cons c token =>
          rw [shown] at read
          refine numberValue_digit ?_ token
          by_contra other
          simp [unsigned, other] at read

end Ostream

end MazeClient
