import Mathlib.Algebra.Order.Field.Basic
import Mathlib.Data.Rat.Defs
import Mathlib.Data.List.Forall2
import Mathlib.Data.Char

set_option autoImplicit false

-- A reader of JSON texts that takes and refuses what Python's json.loads does. Numbers are exact,
-- a surrogate without its partner becomes U+FFFD, and an object lists its members as they stand.
inductive JsonValue where
  | null
  | bool (value : Bool)
  | number (value : ℚ)
  | nan
  | infinity (negative : Bool)
  | string (text : List Char)
  | array (items : List JsonValue)
  | object (members : List (List Char × JsonValue))

namespace JsonValue

-- The last of the members of a name counts.
def member? (name : List Char) : JsonValue → Option JsonValue
  | object members => (members.reverse.find? fun (key, _) => key = name).map Prod.snd
  | _ => none

end JsonValue

namespace JsonReader

variable {α : Type}

def isBlank (c : Char) : Bool := c = ' ' || c = '\t' || c = '\n' || c = '\r'

def skip (text : List Char) : List Char := text.dropWhile isBlank

def isNumeric (c : Char) : Bool :=
  c.isDigit || c = '-' || c = '+' || c = '.' || c = 'e' || c = 'E'

section Numbers

def fraction : List Char → Option (List Char × List Char)
  | '.' :: rest =>
      let digits := rest.takeWhile Char.isDigit
      if digits = [] then none else some (digits, rest.dropWhile Char.isDigit)
  | rest => some ([], rest)

def digits? (text : List Char) : Option Nat :=
  if text ≠ [] ∧ text.all Char.isDigit then some (Nat.ofDigitChars 10 text 0) else none

def exponent : List Char → Option Int
  | [] => some 0
  | mark :: rest =>
      if mark ≠ 'e' ∧ mark ≠ 'E' then none
      else
        match rest with
        | '-' :: digits => (digits? digits).map fun power => -(power : Int)
        | '+' :: digits => (digits? digits).map Int.ofNat
        | digits => (digits? digits).map Int.ofNat

def unsigned (token : List Char) : Option ℚ := do
  let whole := token.takeWhile Char.isDigit
  -- No zeros in front.
  if whole = [] ∨ (whole.head? = some '0' ∧ whole.length ≠ 1) then none
  else
    let (decimals, rest) ← fraction (token.dropWhile Char.isDigit)
    let power ← exponent rest
    some ((Nat.ofDigitChars 10 (whole ++ decimals) 0 : ℚ) * 10 ^ (power - decimals.length))

def numberValue : List Char → Option ℚ
  | '-' :: token => (unsigned token).map fun value => -value
  | token => unsigned token

end Numbers

section Strings

def hexDigit? (c : Char) : Option Nat :=
  if c.isDigit then some (c.toNat - 48)
  else if 'a' ≤ c ∧ c ≤ 'f' then some (c.toNat - 87)
  else if 'A' ≤ c ∧ c ≤ 'F' then some (c.toNat - 55)
  else none

def codeUnit : List Char → Option (Nat × List Char)
  | a :: b :: c :: d :: rest => do
      let unit := (← hexDigit? a) * 4096 + (← hexDigit? b) * 256 + (← hexDigit? c) * 16 +
        (← hexDigit? d)
      some (unit, rest)
  | _ => none

def isHigh (unit : Nat) : Bool := 0xd800 ≤ unit && unit < 0xdc00

def isLow (unit : Nat) : Bool := 0xdc00 ≤ unit && unit < 0xe000

def scalar (unit : Nat) : Char :=
  if isHigh unit ∨ isLow unit then Char.ofNat 0xfffd else Char.ofNat unit

-- A high surrogate takes a low one in the escape behind it.
def unicodeEscape (text : List Char) : Option (Char × List Char) := do
  let (unit, rest) ← codeUnit text
  if isHigh unit then
    match rest with
    | '\\' :: 'u' :: behind =>
        match codeUnit behind with
        | some (low, rest') =>
            if isLow low then
              some (Char.ofNat (0x10000 + (unit - 0xd800) * 1024 + (low - 0xdc00)), rest')
            else some (scalar unit, rest)
        | none => none
    | _ => some (scalar unit, rest)
  else some (scalar unit, rest)

def escape : List Char → Option (Char × List Char)
  | 'u' :: rest => unicodeEscape rest
  | c :: rest =>
      if c = Char.ofNat 34 ∨ c = '\\' ∨ c = '/' then some (c, rest)
      else if c = 'b' then some (Char.ofNat 8, rest)
      else if c = 'f' then some (Char.ofNat 12, rest)
      else if c = 'n' then some ('\n', rest)
      else if c = 'r' then some ('\r', rest)
      else if c = 't' then some ('\t', rest)
      else none
  | [] => none

def stringBody : Nat → List Char → Option (List Char × List Char)
  | 0, _ => none
  | _, [] => none
  | fuel + 1, c :: rest =>
      if c = Char.ofNat 34 then some ([], rest)
      else if c.toNat < 32 then none
      else if c = '\\' then do
        let (read, rest) ← escape rest
        let (text, rest) ← stringBody fuel rest
        some (read :: text, rest)
      else do
        let (text, rest) ← stringBody fuel rest
        some (c :: text, rest)

end Strings

def elements (item : List Char → Option (α × List Char)) (close : Char) :
    Nat → List Char → Option (List α × List Char)
  | 0, _ => none
  | fuel + 1, text => do
      let (first, rest) ← item text
      match skip rest with
      | [] => none
      | c :: rest =>
          if c = close then some ([first], rest)
          else if c = ',' then do
            let (others, rest) ← elements item close fuel (skip rest)
            some (first :: others, rest)
          else none

def enclosed (item : List Char → Option (α × List Char)) (close : Char) (fuel : Nat)
    (text : List Char) : Option (List α × List Char) :=
  match skip text with
  | [] => none
  | c :: rest => if c = close then some ([], rest) else elements item close fuel (c :: rest)

def member (value : List Char → Option (JsonValue × List Char)) (fuel : Nat) :
    List Char → Option ((List Char × JsonValue) × List Char)
  | [] => none
  | c :: rest => do
      if c ≠ Char.ofNat 34 then none
      else
        let (key, rest) ← stringBody fuel rest
        match skip rest with
        | ':' :: rest =>
            let (held, rest) ← value (skip rest)
            some ((key, held), rest)
        | _ => none

def words : List (List Char × JsonValue) :=
  [(['n', 'u', 'l', 'l'], .null), (['t', 'r', 'u', 'e'], .bool true),
    (['f', 'a', 'l', 's', 'e'], .bool false),
    (['N', 'a', 'N'], .nan), (['I', 'n', 'f', 'i', 'n', 'i', 't', 'y'], .infinity false),
    (['-', 'I', 'n', 'f', 'i', 'n', 'i', 't', 'y'], .infinity true)]

def scalarValue (text : List Char) : Option (JsonValue × List Char) :=
  match words.find? fun (name, _) => name <+: text with
  | some (name, held) => some (held, text.drop name.length)
  | none =>
      (numberValue (text.takeWhile isNumeric)).map fun value =>
        (.number value, text.dropWhile isNumeric)

def value : Nat → List Char → Option (JsonValue × List Char)
  | 0, _ => none
  | _, [] => none
  | fuel + 1, c :: rest =>
      if c = Char.ofNat 34 then
        (stringBody fuel rest).map fun (text, rest) => (.string text, rest)
      else if c = '{' then
        (enclosed (member (value fuel) fuel) '}' fuel rest).map fun (members, rest) =>
          (.object members, rest)
      else if c = '[' then
        (enclosed (value fuel) ']' fuel rest).map fun (items, rest) => (.array items, rest)
      else scalarValue (c :: rest)

def loads (text : List Char) : Option JsonValue :=
  match value (text.length + 1) (skip text) with
  | some (value, rest) => if skip rest = [] then some value else none
  | none => none

end JsonReader
