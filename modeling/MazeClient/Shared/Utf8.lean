import MazeClient.Shared.Wire

set_option autoImplicit false

namespace Wire

theorem ofString_ofList (text : List Char) :
    ofString (String.ofList text) = text.flatMap String.utf8EncodeChar := by
  simp [ofString, List.utf8Encode]

theorem ofString_append (front back : List Char) : ofString (String.ofList (front ++ back)) =
    ofString (String.ofList front) ++ ofString (String.ofList back) := by
  rw [ofString_ofList, List.flatMap_append, ofString_ofList, ofString_ofList]

theorem ofList_injective {s t : List Char}
    (same : ofString (String.ofList s) = ofString (String.ofList t)) : s = t := by
  have strings := congrArg String.toList (ofString_injective same)
  simpa using strings

def Ascii (text : List Char) : Prop := ∀ c ∈ text, c.toNat < 128

theorem encodeChar_ascii {c : Char} (ascii : c.toNat < 128) :
    String.utf8EncodeChar c = [c.val.toUInt8] := by
  apply String.utf8EncodeChar_eq_singleton
  unfold Char.utf8Size
  have low : c.val.toNat < 128 := ascii
  rw [if_pos]
  exact UInt32.le_iff_toNat_le.mpr (by simp; omega)

theorem ofString_ascii {text : List Char} (ascii : Ascii text) :
    ofString (String.ofList text) = text.map fun c => c.val.toUInt8 := by
  rw [ofString_ofList]
  induction text with
  | nil => rfl
  | cons c rest ih =>
      rw [List.flatMap_cons, encodeChar_ascii (ascii c List.mem_cons_self),
        ih fun d member => ascii d (List.mem_cons_of_mem _ member)]
      rfl

theorem length_ascii {text : List Char} (ascii : Ascii text) :
    (ofString (String.ofList text)).length = text.length := by
  rw [ofString_ascii ascii, List.length_map]

theorem take_ascii {text : List Char} (ascii : Ascii text) (count : Nat) :
    (ofString (String.ofList text)).take count = ofString (String.ofList (text.take count)) := by
  have front : Ascii (text.take count) := fun c member => ascii c (List.mem_of_mem_take member)
  rw [ofString_ascii ascii, ofString_ascii front, List.map_take]

theorem encodeChar_high {c : Char} (high : 128 ≤ c.toNat) :
    ∀ byte ∈ String.utf8EncodeChar c, 128 ≤ byte := by
  have marked (byte mark : UInt8) (set : 128 ≤ mark) : 128 ≤ byte ||| mark := by
    rw [UInt8.le_iff_toNat_le] at set ⊢
    rw [UInt8.toNat_or]
    exact le_trans set Nat.right_le_or
  have high : 128 ≤ c.val.toNat := high
  have sizes : c.utf8Size = 2 ∨ c.utf8Size = 3 ∨ c.utf8Size = 4 := by
    unfold Char.utf8Size
    dsimp only
    rw [if_neg (fun low => by have := UInt32.le_iff_toNat_le.mp low; simp at this; omega)]
    split
    · exact .inl rfl
    · split
      · exact .inr (.inl rfl)
      · exact .inr (.inr rfl)
  intro byte member
  rcases sizes with size | size | size
  · rw [String.utf8EncodeChar_eq_cons_cons size] at member
    simp only [List.mem_cons, List.not_mem_nil, or_false] at member
    rcases member with rfl | rfl
    · exact marked _ _ (by decide)
    · exact marked _ _ (by decide)
  · rw [String.utf8EncodeChar_eq_cons_cons_cons size] at member
    simp only [List.mem_cons, List.not_mem_nil, or_false] at member
    rcases member with rfl | rfl | rfl
    · exact marked _ _ (by decide)
    · exact marked _ _ (by decide)
    · exact marked _ _ (by decide)
  · rw [String.utf8EncodeChar_eq_cons_cons_cons_cons size] at member
    simp only [List.mem_cons, List.not_mem_nil, or_false] at member
    rcases member with rfl | rfl | rfl | rfl
    · exact marked _ _ (by decide)
    · exact marked _ _ (by decide)
    · exact marked _ _ (by decide)
    · exact marked _ _ (by decide)

theorem mem_ofString {text : List Char} {byte : UInt8} (low : byte < 128)
    (member : byte ∈ ofString (String.ofList text)) : Char.ofNat byte.toNat ∈ text := by
  rw [ofString_ofList, List.mem_flatMap] at member
  obtain ⟨c, inside, encoded⟩ := member
  by_cases ascii : c.toNat < 128
  · rw [encodeChar_ascii ascii, List.mem_singleton] at encoded
    have same : c = Char.ofNat byte.toNat := by
      have value : byte.toNat = c.toNat := by
        rw [encoded, UInt32.toNat_toUInt8]
        exact Nat.mod_eq_of_lt (lt_trans ascii (by decide))
      rw [value, Char.ofNat_toNat]
    exact same ▸ inside
  · exact absurd (encodeChar_high (by omega) byte encoded) (by simpa using low)

end Wire
