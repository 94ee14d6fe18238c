import Mathlib.Data.List.Basic
import Mathlib.Data.Nat.Basic
import Mathlib.Tactic.Common

set_option autoImplicit false

namespace Wire

abbrev Bytes := List UInt8

structure Codec (α : Type) where
  encode : α → Bytes
  decode : Bytes → Option α
  decode_encode : ∀ a, decode (encode a) = some a

def groups : Nat → Nat → Bytes
  | 0, n => [UInt8.ofNat n]
  | fuel + 1, n =>
      if n < 128 then [UInt8.ofNat n] else UInt8.ofNat (n % 128 + 128) :: groups fuel (n / 128)

def varint (n : Nat) : Bytes := groups n n

theorem groups_enough (n fuel : Nat) (enough : n ≤ fuel) : groups fuel n = varint n := by
  induction n using Nat.strong_induction_on generalizing fuel with
  | _ n ih =>
      cases fuel with
      | zero =>
          obtain rfl := Nat.le_zero.mp enough
          rfl
      | succ fuel =>
          cases n with
          | zero => rfl
          | succ n =>
              simp only [varint, groups]
              split
              · rfl
              · have smaller : (n + 1) / 128 < n + 1 := by omega
                rw [ih _ smaller fuel (by omega), ih _ smaller n (by omega)]

theorem varint_eq (n : Nat) :
    varint n =
      if n < 128 then [UInt8.ofNat n] else UInt8.ofNat (n % 128 + 128) :: varint (n / 128) := by
  cases n with
  | zero => rfl
  | succ n =>
      rw [varint, groups]
      split
      · rfl
      · rw [groups_enough _ n (by omega)]

def readVarint : Bytes → Option (Nat × Bytes)
  | [] => none
  | b :: rest =>
      if b.toNat < 128 then some (b.toNat, rest)
      else (readVarint rest).map fun (high, after) => (b.toNat - 128 + 128 * high, after)

theorem readVarint_varint (n : Nat) (rest : Bytes) :
    readVarint (varint n ++ rest) = some (n, rest) := by
  induction n using Nat.strong_induction_on with
  | _ n ih =>
      rw [varint_eq]
      by_cases small : n < 128
      · have byte : (UInt8.ofNat n).toNat = n := by
          rw [UInt8.toNat_ofNat']
          omega
        simp [small, readVarint, byte]
      · have byte : (UInt8.ofNat (n % 128 + 128)).toNat = n % 128 + 128 := by
          rw [UInt8.toNat_ofNat']
          omega
        have shifted := ih (n / 128) (by omega)
        simp only [small, if_false, List.cons_append, readVarint, byte, shifted, Option.map_some]
        rw [if_neg (by omega)]
        congr 2
        omega

theorem varint_nonempty (n : Nat) : varint n ≠ [] := by
  rw [varint_eq]
  split <;> simp

-- Groups and 64-bit fixed fields are left out.
inductive Value where
  | varint (n : Nat)
  | bytes (payload : Bytes)
  | fixed32 (b₀ b₁ b₂ b₃ : UInt8)
  deriving DecidableEq

def Value.wireType : Value → Nat
  | .varint _ => 0
  | .bytes _ => 2
  | .fixed32 .. => 5

def Value.encode : Value → Bytes
  | .varint n => Wire.varint n
  | .bytes payload => Wire.varint payload.length ++ payload
  | .fixed32 b₀ b₁ b₂ b₃ => [b₀, b₁, b₂, b₃]

structure Field where
  number : Nat
  value : Value
  deriving DecidableEq

def Field.encode (f : Field) : Bytes :=
  varint (f.number * 8 + f.value.wireType) ++ f.value.encode

def readValue (wireType : Nat) (input : Bytes) : Option (Value × Bytes) :=
  match wireType with
  | 0 => (readVarint input).map fun (n, rest) => (.varint n, rest)
  | 2 => (readVarint input).bind fun (n, rest) =>
      if n ≤ rest.length then some (.bytes (rest.take n), rest.drop n) else none
  | 5 =>
      match input with
      | b₀ :: b₁ :: b₂ :: b₃ :: rest => some (.fixed32 b₀ b₁ b₂ b₃, rest)
      | _ => none
  | _ => none

def readField (input : Bytes) : Option (Field × Bytes) :=
  (readVarint input).bind fun (tag, rest) =>
    (readValue (tag % 8) rest).map fun (value, after) => (⟨tag / 8, value⟩, after)

theorem readValue_encode (v : Value) (rest : Bytes) :
    readValue v.wireType (v.encode ++ rest) = some (v, rest) := by
  cases v with
  | varint n => simp [readValue, Value.wireType, Value.encode, readVarint_varint]
  | bytes payload =>
      simp [readValue, Value.wireType, Value.encode, List.append_assoc, readVarint_varint]
  | fixed32 => rfl

theorem readField_encode (f : Field) (rest : Bytes) :
    readField (f.encode ++ rest) = some (f, rest) := by
  have bound : f.value.wireType < 8 := by cases f.value <;> simp [Value.wireType]
  have kind : (f.number * 8 + f.value.wireType) % 8 = f.value.wireType := by omega
  have number : (f.number * 8 + f.value.wireType) / 8 = f.number := by omega
  simp [readField, Field.encode, List.append_assoc, readVarint_varint, kind, number,
    readValue_encode]

theorem Field.encode_nonempty (f : Field) : f.encode ≠ [] := by
  simp [Field.encode, varint_nonempty]

def encodeFields (fields : List Field) : Bytes := fields.flatMap Field.encode

def readFields : Nat → Bytes → Option (List Field)
  | _, [] => some []
  | 0, _ :: _ => none
  | fuel + 1, input =>
      (readField input).bind fun (f, rest) => (readFields fuel rest).map (f :: ·)

theorem readFields_encode (fields : List Field) (fuel : Nat)
    (enough : (encodeFields fields).length ≤ fuel) :
    readFields fuel (encodeFields fields) = some fields := by
  induction fields generalizing fuel with
  | nil => cases fuel <;> rfl
  | cons f fs ih =>
      have split : encodeFields (f :: fs) = f.encode ++ encodeFields fs := rfl
      obtain ⟨b, bs, first⟩ := List.exists_cons_of_ne_nil f.encode_nonempty
      have size := congrArg List.length first
      rw [split, List.length_append, size, List.length_cons] at enough
      cases fuel with
      | zero => omega
      | succ fuel =>
          have rest := ih fuel (by omega)
          have field := readField_encode f (encodeFields fs)
          rw [split]
          rw [first, List.cons_append] at field ⊢
          simp [readFields, field, rest]

def parseFields (input : Bytes) : Option (List Field) := readFields input.length input

@[simp] theorem parseFields_encode (fields : List Field) :
    parseFields (encodeFields fields) = some fields :=
  readFields_encode fields _ le_rfl

-- proto3 leaves out a field whose value is the default of its type.
def varintField (number n : Nat) : List Field := if n = 0 then [] else [⟨number, .varint n⟩]

def bytesField (number : Nat) (payload : Bytes) : List Field :=
  if payload = [] then [] else [⟨number, .bytes payload⟩]

def messageField (number : Nat) (payload : Option Bytes) : List Field :=
  payload.toList.map fun bytes => ⟨number, .bytes bytes⟩

-- A 32-bit enum or int is sign extended to 64 bits before it is written.
def ofInt (v : Int) : Nat := (v % 18446744073709551616).toNat

def toInt32 (n : Nat) : Int :=
  if n % 4294967296 < 2147483648 then (n % 4294967296 : Nat)
  else (n % 4294967296 : Nat) - 4294967296

theorem toInt32_lt (n : Nat) : toInt32 n < 2147483648 := by
  unfold toInt32
  split <;> omega

theorem toInt32_ofInt (v : Int) (low : -2147483648 ≤ v) (high : v < 2147483648) :
    toInt32 (ofInt v) = v := by
  unfold toInt32 ofInt
  split <;> omega

def ofString (s : String) : Bytes := s.toUTF8.data.toList

def toString? (payload : Bytes) : Option String := String.fromUTF8? ⟨payload.toArray⟩

theorem toString?_ofString (s : String) : toString? (ofString s) = some s := by
  have valid : (⟨(ofString s).toArray⟩ : ByteArray) = s.toByteArray := by
    simp [ofString]
  simp only [toString?, String.fromUTF8?, valid, s.isValidUTF8, dif_pos]
  rfl

theorem ofString_injective {s t : String} (same : ofString s = ofString t) : s = t := by
  have decoded := congrArg toString? same
  simpa [toString?_ofString] using decoded

-- The last occurrence of a singular field wins.
def varintOf (number : Nat) : Field → Option Nat
  | ⟨n, .varint v⟩ => if n = number then some v else none
  | _ => none

def bytesOf (number : Nat) : Field → Option Bytes
  | ⟨n, .bytes payload⟩ => if n = number then some payload else none
  | _ => none

def lastVarint (number : Nat) (fields : List Field) : Nat :=
  ((fields.filterMap (varintOf number)).getLast?).getD 0

def lastBytes (number : Nat) (fields : List Field) : Option Bytes :=
  (fields.filterMap (bytesOf number)).getLast?

theorem filterMap_varintField (number n m : Nat) :
    (varintField m n).filterMap (varintOf number) = if m = number ∧ n ≠ 0 then [n] else [] := by
  unfold varintField
  split <;> by_cases same : m = number <;> simp_all [varintOf]

theorem filterMap_bytesField (number m : Nat) (payload : Bytes) :
    (bytesField m payload).filterMap (bytesOf number) =
      if m = number ∧ payload ≠ [] then [payload] else [] := by
  unfold bytesField
  split <;> by_cases same : m = number <;> simp_all [bytesOf]

@[simp] theorem varintOf_bytesField (number m : Nat) (payload : Bytes) :
    (bytesField m payload).filterMap (varintOf number) = [] := by
  unfold bytesField
  split <;> simp [varintOf]

@[simp] theorem bytesOf_varintField (number m n : Nat) :
    (varintField m n).filterMap (bytesOf number) = [] := by
  unfold varintField
  split <;> simp [bytesOf]

@[simp] theorem getLast?_present (n : Nat) :
    (if n = 0 then [] else [n]).getLast?.getD 0 = n := by
  split <;> simp_all

@[simp] theorem getLast?_payload (payload : Bytes) :
    (if payload = [] then [] else [payload]).getLast?.getD [] = payload := by
  split <;> simp_all

end Wire
