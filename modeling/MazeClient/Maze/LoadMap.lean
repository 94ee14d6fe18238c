import MazeClient.Config.ConfigLoader
import MazeClient.Maze.Environment
import MazeClient.Shared.Rounding
import MazeClient.Shared.TextSearch

set_option autoImplicit false

namespace MazeClient

open Rounding TextSearch

-- `static_cast<int>`: a value no int holds gives the smallest one, as the usual processors do.
def toInt (value : ℚ) : Int :=
  let whole := value.num.tdiv value.den
  if -2147483648 ≤ whole ∧ whole ≤ 2147483647 then whole else -2147483648

def wrap (value : Int) : Int := Int.bmod value 4294967296

theorem wrap_eq {value : Int} (low : -2147483648 ≤ value) (high : value ≤ 2147483647) :
    wrap value = value := by
  unfold wrap
  rw [Int.bmod_def]
  omega

theorem wrap_le (value : Int) : wrap value ≤ 2147483647 := by
  unfold wrap
  rw [Int.bmod_def]
  omega

namespace MapFile

def isNumberChar (c : Char) : Bool := c.isDigit || c = '.' || c = '-'

def unsignedDouble (token : Text) : Option ℚ :=
  let whole := token.takeWhile Char.isDigit
  match token.dropWhile Char.isDigit with
  | [] => if whole = [] then none else some (Nat.ofDigitChars 10 whole 0)
  | c :: fraction =>
      if c = '.' ∧ fraction.all Char.isDigit ∧ whole ++ fraction ≠ [] then
        some ((Nat.ofDigitChars 10 (whole ++ fraction) 0 : ℚ) / 10 ^ fraction.length)
      else none

def signedDouble : Text → Option ℚ
  | '-' :: token => (unsignedDouble token).map fun value => -value
  | token => unsignedDouble token

-- std::stod on digits, points and signs, where it takes the whole token and throws nothing.
def stod (token : Text) : Option ℚ := (signedDouble token).filter fun value => FitsDouble value

def afterColon (text : Text) (key : String) : Option Text := do
  let pos ← find (quoted doubleQuote key.toList) text
  let colon ← find [':'] (pos.drop (quoted doubleQuote key.toList).length)
  return colon.drop 1

def findDouble (text : Text) (key : String) : ℚ :=
  match afterColon text key with
  | none => -1
  | some rest =>
      let token := (rest.dropWhile fun c => c = ' ' || c = '\t').takeWhile isNumberChar
      (stod token).getD (-1)

-- The same number through std::stod and `static_cast<float>`.
def findNumber (text : Text) (key : String) : ℚ := toFloat (toDouble (findDouble text key))

def findString (text : Text) (key : String) : Text :=
  match afterColon text key with
  | none => []
  | some rest =>
      match find [doubleQuote] rest with
      | none => []
      | some start =>
          match find [doubleQuote] (start.drop 1) with
          | none => []
          | some _ => (start.drop 1).takeWhile (· ≠ doubleQuote)

def braceBlock (text : Text) : Option Text := do
  let brace ← find ['{'] text
  let _ ← find ['}'] brace
  return brace.takeWhile (· ≠ '}') ++ ['}']

def blockOf (content : Text) (key : String) : Option Text := do
  braceBlock (← find (quoted doubleQuote key.toList) content)

def startPos (content : Text) (map : GridMap) : GridMap :=
  match blockOf content "start_pos" with
  | none => map
  | some block =>
      let sx := findDouble block "x"
      let sy := findDouble block "y"
      if 0 ≤ sx ∧ 0 ≤ sy then { map with startX := sx, startY := sy } else map

def endPos (content : Text) (map : GridMap) : GridMap :=
  match blockOf content "end_pos" with
  | none => map
  | some block =>
      let ex := findDouble block "x"
      let ey := findDouble block "y"
      if 0 ≤ ex ∧ 0 ≤ ey then { map with endX := ex, endY := ey } else map

-- The map id is read like findString, but a value that is missing leaves the old one.
def mapId (content : Text) (map : GridMap) : GridMap :=
  match afterColon content "map_id" with
  | none => map
  | some rest =>
      match find [doubleQuote] rest with
      | none => map
      | some start =>
          match find [doubleQuote] (start.drop 1) with
          | none => map
          | some _ =>
              { map with mapId := String.ofList ((start.drop 1).takeWhile (· ≠ doubleQuote)) }

def bounds (content : Text) (map : GridMap) : GridMap :=
  match blockOf content "bounds" with
  | none => map
  | some block =>
      let xMax := findDouble block "x_max"
      let yMax := findDouble block "y_max"
      let map := if 0 < xMax then { map with mapWidth := xMax } else map
      if 0 < yMax then { map with mapHeight := yMax } else map

def readGridPoint (content : Text) (key : String) : Option (Int × Int) := do
  let block ← blockOf content key
  return (toInt (findNumber block "x"), toInt (findNumber block "y"))

def hexValue (character : Char) : Int :=
  if '0' ≤ character ∧ character ≤ '9' then character.toNat - '0'.toNat
  else if 'a' ≤ character ∧ character ≤ 'f' then character.toNat - 'a'.toNat + 10
  else if 'A' ≤ character ∧ character ≤ 'F' then character.toNat - 'A'.toNat + 10
  else -1

-- One cell of two digits after the other, 00 or 01.
def readBitmap : Text → Option (List Bool)
  | high :: low :: rest =>
      if hexValue high ≠ 0 ∨ (hexValue low ≠ 0 ∧ hexValue low ≠ 1) then none
      else (readBitmap rest).map fun cells => decide (hexValue low = 1) :: cells
  | _ => some []

-- Every wall object counts whose coordinates are not negative.
def countWalls : Nat → Text → Nat
  | 0, _ => 0
  | fuel + 1, text =>
      match find ['{'] text with
      | none => 0
      | some object =>
          if ((find [']'] text).any fun close => object.length < close.length) then 0
          else
            match find ['}'] object with
            | none => 0
            | some close =>
                let wall := object.takeWhile (· ≠ '}') ++ ['}']
                let drawn := ["x1", "y1", "x2", "y2"].all fun key => 0 ≤ findNumber wall key
                (if drawn then 1 else 0) + countWalls fuel (close.drop 1)

def wallCount (content : Text) : Option Nat := do
  let walls ← find (quoted doubleQuote "walls".toList) content
  let start ← find ['['] walls
  return countWalls content.length start

def header (content : Text) (map : GridMap) : GridMap :=
  mapId content (endPos content (startPos content map))

def microunits (gridSize : ℚ) : Int := ⌊gridSize * 1000000 + 1 / 2⌋

-- `std::round` of a positive number of microunits that fits its type.
def isGridSize (gridSize : ℚ) : Bool :=
  0 < gridSize && 0 < microunits gridSize && microunits gridSize ≤ 4294967295

def encoding : String := "row-major-u8-0-open-1-blocked"

-- The part of LoadMapFromFile behind the grid size.
def loadGrid (content : Text) (map : GridMap) : Bool × GridMap :=
  let cols := toInt (findNumber content "grid_cols")
  let rows := toInt (findNumber content "grid_rows")
  let map := bounds content map
  -- A negative number of cells is one that no vector can hold.
  if cols ≤ 0 ∨ rows ≤ 0 ∨ wrap (cols * rows) < 0 then (false, map)
  else
    let map := { map with
      gridCols := cols
      gridRows := rows
      blocked := List.replicate (wrap (cols * rows)).toNat false }
    match readGridPoint content "start_grid" with
    | none => (false, map)
    | some (startGx, startGy) =>
      let map := { map with startGx, startGy }
      if startGx < 0 ∨ startGy < 0 then (false, map)
      else
        match readGridPoint content "goal_grid" with
        | none => (false, map)
        | some (endGx, endGy) =>
          let map := { map with endGx, endGy }
          if endGx < 0 ∨ endGy < 0 then (false, map)
          else
            let map := { map with hasAuthoritativeGrid := true }
            let bitmapHex := findString content "blocked_bitmap_hex"
            if bitmapHex.length ≠ map.blocked.length * 2 then (false, map)
            else
              match readBitmap bitmapHex with
              | none => (false, map)
              | some blocked =>
                let map := { map with blocked }
                match wallCount content with
                | none => (false, map)
                | some walls => (decide (0 < walls), map)

end MapFile

open MapFile in
def loadMapFromFile (files : String → Option Text) (path : String) (map : GridMap) :
    Bool × GridMap :=
  match files path with
  | none => (false, map)
  | some content =>
    if findString content "blocked_bitmap_encoding" ≠ encoding.toList then (false, map)
    else
      let map := header content map
      let gridSize := findDouble content "grid_size"
      if isGridSize gridSize then
        loadGrid content
          { map with gridSizeMicrounits := (microunits gridSize).toNat, gridSize }
      else (false, map)

end MazeClient
