import Mathlib.Data.List.TakeWhile
import MazeClient.Shared.JsonReading

set_option autoImplicit false

namespace JsonReader

variable {α : Type} {text rest : List Char}

theorem skip_extend (visible : skip text ≠ []) (tail : List Char) :
    skip (text ++ tail) = skip text ++ tail := by
  rw [skip, List.dropWhile_append]
  simp [skip] at visible ⊢
  grind

theorem codeUnit_extend {unit : Nat} (read : codeUnit text = some (unit, rest))
    (tail : List Char) : codeUnit (text ++ tail) = some (unit, rest ++ tail) := by
  unfold codeUnit at read
  split at read
  · simp only [Option.bind_eq_bind, Option.bind_eq_some_iff] at read
    obtain ⟨a, first, b, second, c, third, d, fourth, same⟩ := read
    cases same
    simp [codeUnit, first, second, third, fourth]
  · cases read

theorem unicodeEscape_extend {c : Char} (read : unicodeEscape text = some (c, rest))
    (behind : rest ≠ []) (whole : rest ≠ ['\\']) (tail : List Char) :
    unicodeEscape (text ++ tail) = some (c, rest ++ tail) := by
  simp only [unicodeEscape, Option.bind_eq_bind, Option.bind_eq_some_iff] at read ⊢
  obtain ⟨⟨unit, afterwards⟩, taken, read⟩ := read
  refine ⟨_, codeUnit_extend taken tail, ?_⟩
  dsimp only at read ⊢
  split at read
  case isFalse low =>
    cases read
    rw [if_neg low]
  case isTrue high =>
  rw [if_pos high]
  split at read
  case h_1 next =>
    simp only [List.cons_append]
    split at read
    case h_1 low afterLow pair =>
      rw [codeUnit_extend pair tail]
      dsimp only
      split at read
      case isTrue partner =>
        obtain ⟨rfl, rfl⟩ := Prod.mk.inj (Option.some.inj read)
        rw [if_pos partner]
      case isFalse partner =>
        obtain ⟨rfl, rfl⟩ := Prod.mk.inj (Option.some.inj read)
        rw [if_neg partner]
        rfl
    case h_2 => cases read
  case h_2 other =>
    cases read
    split
    case h_1 next same =>
      exfalso
      match rest, behind, whole with
      | [d], _, whole =>
          rw [List.cons_append, List.nil_append, List.cons.injEq] at same
          exact whole (by rw [same.1])
      | d :: e :: later, _, _ =>
          simp only [List.cons_append, List.cons.injEq] at same
          exact other later (by rw [same.1, same.2.1])
    case h_2 => rfl

theorem escape_extend {c : Char} (read : escape text = some (c, rest)) (behind : rest ≠ [])
    (whole : rest ≠ ['\\']) (tail : List Char) :
    escape (text ++ tail) = some (c, rest ++ tail) := by
  unfold escape at read
  split at read
  case h_1 => exact unicodeEscape_extend read behind whole tail
  case h_2 d afterwards other =>
    rw [List.cons_append, escape.eq_2 _ _ other]
    grind
  case h_3 => cases read

theorem stringBody_extend {fuel fuel' : Nat} {held : List Char}
    (read : stringBody fuel text = some (held, rest)) (more : fuel ≤ fuel') (tail : List Char) :
    stringBody fuel' (text ++ tail) = some (held, rest ++ tail) := by
  induction fuel generalizing text held fuel' with
  | zero => cases read
  | succ fuel ih =>
      obtain ⟨fuel', rfl⟩ := Nat.exists_eq_succ_of_ne_zero
        (Nat.ne_of_gt (Nat.lt_of_lt_of_le (Nat.succ_pos _) more))
      have more : fuel ≤ fuel' := Nat.le_of_succ_le_succ more
      cases text with
      | nil => cases read
      | cons c behind =>
          rw [stringBody] at read
          rw [List.cons_append, stringBody]
          split at read
          case isTrue quote =>
            cases read
            rw [if_pos quote]
          case isFalse quote =>
          rw [if_neg quote]
          split at read
          case isTrue => cases read
          case isFalse printable =>
          rw [if_neg printable]
          split at read
          case isTrue escaped =>
            rw [if_pos escaped]
            simp only [Option.bind_eq_bind, Option.bind_eq_some_iff] at read ⊢
            obtain ⟨⟨d, afterwards⟩, taken, ⟨later, ended⟩, body, same⟩ := read
            cases same
            have some_ : afterwards ≠ [] := by
              rintro rfl
              cases fuel <;> cases body
            have whole : afterwards ≠ ['\\'] := by
              rintro rfl
              cases fuel <;> cases body
            exact ⟨_, escape_extend taken some_ whole tail, _, ih body more, rfl⟩
          case isFalse plain =>
            rw [if_neg plain]
            simp only [Option.bind_eq_bind, Option.bind_eq_some_iff] at read ⊢
            obtain ⟨⟨later, ended⟩, body, same⟩ := read
            cases same
            exact ⟨_, ih body more, rfl⟩

structure Extends (item item' : List Char → Option (α × List Char)) : Prop where
  empty : item [] = none
  extend : ∀ text held rest, item text = some (held, rest) → rest ≠ [] → ∀ tail,
    item' (text ++ tail) = some (held, rest ++ tail)

theorem elements_extend {item item' : List Char → Option (α × List Char)} {close : Char}
    (extends_ : Extends item item') {fuel fuel' : Nat} {held : List α}
    (read : elements item close fuel text = some (held, rest)) (more : fuel ≤ fuel')
    (tail : List Char) : elements item' close fuel' (text ++ tail) = some (held, rest ++ tail) := by
  induction fuel generalizing text held fuel' with
  | zero => cases read
  | succ fuel ih =>
      obtain ⟨fuel', rfl⟩ := Nat.exists_eq_succ_of_ne_zero
        (Nat.ne_of_gt (Nat.lt_of_lt_of_le (Nat.succ_pos _) more))
      have more : fuel ≤ fuel' := Nat.le_of_succ_le_succ more
      rw [elements] at read ⊢
      simp only [Option.bind_eq_bind, Option.bind_eq_some_iff] at read ⊢
      obtain ⟨⟨first, behind⟩, taken, read⟩ := read
      dsimp only at read
      split at read
      case h_1 => cases read
      case h_2 c afterwards shown =>
      have some_ : behind ≠ [] := by
        rintro rfl
        cases shown
      refine ⟨_, extends_.extend _ _ _ taken some_ tail, ?_⟩
      dsimp only
      rw [skip_extend (by simp [shown]), shown, List.cons_append]
      dsimp only
      split at read
      case isTrue closed =>
        cases read
        rw [if_pos closed]
      case isFalse going =>
      rw [if_neg going]
      split at read
      case isFalse => cases read
      case isTrue comma =>
      rw [if_pos comma]
      simp only [Option.bind_eq_some_iff] at read ⊢
      obtain ⟨⟨others, ended⟩, later, same⟩ := read
      cases same
      have visible : skip afterwards ≠ [] := by
        intro blank
        rw [blank] at later
        cases fuel with
        | zero => cases later
        | succ fuel => simp [elements, extends_.empty] at later
      rw [skip_extend visible]
      exact ⟨_, ih later more, rfl⟩

theorem enclosed_extend {item item' : List Char → Option (α × List Char)} {close : Char}
    (extends_ : Extends item item') {fuel fuel' : Nat} {held : List α}
    (read : enclosed item close fuel text = some (held, rest)) (more : fuel ≤ fuel')
    (tail : List Char) : enclosed item' close fuel' (text ++ tail) = some (held, rest ++ tail) := by
  rw [enclosed] at read ⊢
  split at read
  case h_1 => cases read
  case h_2 c behind shown =>
  rw [skip_extend (by simp [shown]), shown, List.cons_append]
  dsimp only
  split at read
  case isTrue closed =>
    cases read
    rw [if_pos closed]
  case isFalse going =>
  rw [if_neg going]
  exact elements_extend extends_ read more tail

theorem member_extend {fuel fuel' : Nat} (extends_ : Extends (value fuel) (value fuel'))
    (more : fuel ≤ fuel') :
    Extends (member (value fuel) fuel) (member (value fuel') fuel') where
  empty := rfl
  extend text held rest read some_ tail := by
    cases text with
    | nil => cases read
    | cons c behind =>
        rw [member] at read
        rw [List.cons_append, member]
        split at read
        case isTrue => cases read
        case isFalse quote =>
        rw [if_neg quote]
        simp only [Option.bind_eq_bind, Option.bind_eq_some_iff] at read ⊢
        obtain ⟨⟨key, afterwards⟩, named, read⟩ := read
        refine ⟨_, stringBody_extend named more tail, ?_⟩
        dsimp only at read ⊢
        split at read
        case h_2 => cases read
        case h_1 colon shown =>
        rw [skip_extend (by simp [shown]), shown]
        simp only [List.cons_append, Option.bind_eq_some_iff] at read ⊢
        obtain ⟨⟨value_, ended⟩, taken, same⟩ := read
        cases same
        have visible : skip colon ≠ [] := by
          intro blank
          rw [blank, extends_.empty] at taken
          cases taken
        rw [skip_extend visible]
        exact ⟨_, extends_.extend _ _ _ taken some_ tail, rfl⟩

theorem words_first {entry entry' : List Char × JsonValue} (member : entry ∈ words)
    (member' : entry' ∈ words) {c : Char} {tail : List Char} (front : entry.1 <+: c :: tail)
    (front' : entry'.1 <+: c :: tail) : entry = entry' := by
  simp only [words, List.mem_cons, List.not_mem_nil, or_false] at member member'
  rcases member with rfl | rfl | rfl | rfl | rfl | rfl <;>
    rcases member' with rfl | rfl | rfl | rfl | rfl | rfl <;>
      first
        | rfl
        | exact absurd ((List.cons_prefix_cons.mp front).1.trans
            (List.cons_prefix_cons.mp front').1.symm) (by decide)

theorem words_find {name : List Char} {found : JsonValue} (member : (name, found) ∈ words)
    {c : Char} {tail : List Char} (front : name <+: c :: tail) :
    words.find? (fun (name, _) => name <+: c :: tail) = some (name, found) := by
  cases other : words.find? _ with
  | none =>
      have missed := List.find?_eq_none.mp other _ member
      exact absurd front (by simpa using missed)
  | some entry =>
      have front' : entry.1 <+: c :: tail := by simpa using List.find?_some other
      exact congrArg some (words_first (List.mem_of_find?_eq_some other) member front' front)

theorem scalarValue_extend {held : JsonValue} (read : scalarValue text = some (held, rest))
    (some_ : rest ≠ []) (tail : List Char) :
    scalarValue (text ++ tail) = some (held, rest ++ tail) := by
  cases text with
  | nil =>
      rw [show scalarValue [] = none from rfl] at read
      cases read
  | cons c behind =>
    unfold scalarValue at read
    split at read
    case h_1 name found taken =>
      obtain ⟨rfl, rfl⟩ := Prod.mk.inj (Option.some.inj read)
      have front : name <+: c :: behind := by simpa using List.find?_some taken
      have member := List.mem_of_find?_eq_some taken
      have again := @words_find name found member c (behind ++ tail)
        (front.trans (List.prefix_append _ tail))
      rw [← List.cons_append] at again
      rw [scalarValue, again]
      dsimp only
      rw [List.drop_append_of_le_length front.length_le]
    case h_2 missed =>
      obtain ⟨number, taken, same⟩ := Option.map_eq_some_iff.mp read
      obtain ⟨rfl, rfl⟩ := Prod.mk.inj same
      set token := (c :: behind).takeWhile isNumeric with isToken
      set afterwards := (c :: behind).dropWhile isNumeric with isRest
      have split_ : c :: behind = token ++ afterwards := List.takeWhile_append_dropWhile.symm
      have numeric : ∀ d ∈ token, isNumeric d = true := fun d => List.mem_takeWhile_imp
      have closes : Closes (afterwards ++ tail) := by
        intro d first
        cases shown : afterwards with
        | nil => exact absurd shown some_
        | cons e later =>
            rw [shown] at first
            obtain rfl : e = d := Option.some.inj first
            have stopped := List.head?_dropWhile_not isNumeric (c :: behind)
            rw [← isRest, shown] at stopped
            exact stopped
      cases shown : token with
      | nil =>
          rw [shown] at taken
          cases taken
      | cons d digits =>
          have missed := @words_numeric d digits (afterwards ++ tail) (shown ▸ numeric)
            (by simp [← shown, taken])
          rw [split_, List.append_assoc, scalarValue, shown, missed, ← shown]
          dsimp only
          rw [(closes.number numeric).1, (closes.number numeric).2, taken]
          rfl

theorem value_extend {fuel fuel' : Nat} {held : JsonValue}
    (read : value fuel text = some (held, rest)) (more : fuel ≤ fuel')
    (ends : rest ≠ [] ∨ text.head? = some '{') (tail : List Char) :
    value fuel' (text ++ tail) = some (held, rest ++ tail) := by
  induction fuel generalizing text held rest fuel' tail with
  | zero => cases read
  | succ fuel ih =>
      obtain ⟨fuel', rfl⟩ := Nat.exists_eq_succ_of_ne_zero
        (Nat.ne_of_gt (Nat.lt_of_lt_of_le (Nat.succ_pos _) more))
      have more : fuel ≤ fuel' := Nat.le_of_succ_le_succ more
      have extends_ : Extends (value fuel) (value fuel') :=
        ⟨by cases fuel <;> rfl, fun text held rest read some_ tail => ih read more (.inl some_) tail⟩
      cases text with
      | nil => cases read
      | cons c behind =>
          rw [value] at read
          rw [List.cons_append, value]
          split at read
          case isTrue quote =>
            obtain ⟨⟨text, ended⟩, body, same⟩ := Option.map_eq_some_iff.mp read
            cases same
            rw [if_pos quote, stringBody_extend body more tail]
            rfl
          case isFalse quote =>
          rw [if_neg quote]
          split at read
          case isTrue brace =>
            obtain ⟨⟨members, ended⟩, body, same⟩ := Option.map_eq_some_iff.mp read
            cases same
            rw [if_pos brace, enclosed_extend (member_extend extends_ more) body more tail]
            rfl
          case isFalse brace =>
          rw [if_neg brace]
          split at read
          case isTrue bracket =>
            obtain ⟨⟨items, ended⟩, body, same⟩ := Option.map_eq_some_iff.mp read
            cases same
            rw [if_pos bracket, enclosed_extend extends_ body more tail]
            rfl
          case isFalse bracket =>
            rw [if_neg bracket]
            refine scalarValue_extend read (ends.resolve_right fun same => ?_) tail
            exact brace (Option.some.inj same)

theorem loads_cut {held : JsonValue} (reads : Reads text held) (object : text.head? = some '{')
    {front : List Char} (cut : front <+: text) (short : front ≠ text) : loads front = none := by
  obtain ⟨tail, rfl⟩ := cut
  have some_ : tail ≠ [] := by
    rintro rfl
    exact short (List.append_nil _).symm
  cases front with
  | nil => rfl
  | cons c behind =>
      obtain rfl : c = '{' := Option.some.inj object
      rw [loads, skip_cons rfl]
      cases read : value (('{' :: behind).length + 1) ('{' :: behind) with
      | none => rfl
      | some ended =>
          obtain ⟨other, rest⟩ := ended
          have whole := reads (('{' :: behind ++ tail).length + 1) (Nat.lt_succ_self _) []
            fun _ first => by cases first
          have more : ('{' :: behind).length + 1 ≤ ('{' :: behind ++ tail).length + 1 := by simp
          have longer := value_extend read more (.inr rfl) tail
          rw [List.append_nil, longer] at whole
          have ended := (Prod.mk.inj (Option.some.inj whole)).2
          exact absurd (List.append_eq_nil_iff.mp ended).2 some_

end JsonReader
