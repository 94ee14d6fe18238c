import MazeClient.Config.ConfigLoader
import MazeClient.Generator.GenerateMap
import MazeClient.Shared.TextSearch

set_option autoImplicit false

namespace MazeClient

open TextSearch

-- What json.dump writes with an indent of 4; the strings of a map need no escapes.
namespace Json

def string (value : String) : Text := quoted doubleQuote value.toList

def int (value : Int) : Text :=
  if value < 0 then '-' :: Nat.toDigits 10 value.natAbs else Nat.toDigits 10 value.natAbs

-- One decimal at least, and none that is not needed.
def decimals (cents : Nat) : Text :=
  if cents % 10 = 0 then [(cents / 10).digitChar] else [(cents / 10).digitChar, (cents % 10).digitChar]

def cents (value : Nat) : Text := Nat.toDigits 10 (value / 100) ++ '.' :: decimals (value % 100)

-- The repr of a number of two decimals, which has no exponent below 10^16.
def float (value : ℚ) : Text :=
  let hundredths := ⌊value * 100⌋
  if hundredths < 0 then '-' :: cents hundredths.natAbs else cents hundredths.natAbs

def pad (level : Nat) : Text := List.replicate (4 * level) ' '

def lines (level : Nat) (close : Char) : List Text → Text
  | [] => pad level ++ [close]
  | [part] => pad (level + 1) ++ part ++ '\n' :: lines level close []
  | part :: others => pad (level + 1) ++ part ++ ',' :: '\n' :: lines level close others

def container (level : Nat) (start close : Char) (parts : List Text) : Text :=
  if parts = [] then [start, close] else start :: '\n' :: lines level close parts

def field (key : String) (value : Text) : Text := string key ++ ':' :: ' ' :: value

def object (level : Nat) (fields : List (String × Text)) : Text :=
  container level '{' '}' (fields.map fun (key, value) => field key value)

def array (level : Nat) (items : List Text) : Text := container level '[' ']' items

end Json

namespace WallSegment

def fields (segment : WallSegment) : List (String × Text) :=
  [("x1", Json.float segment.x1), ("y1", Json.float segment.y1), ("x2", Json.float segment.x2),
    ("y2", Json.float segment.y2),
    -- The thickness is an int.
    ("thickness", Json.int segment.thickness.num)]

def json (segment : WallSegment) : Text := Json.object 2 segment.fields

end WallSegment

namespace MapData

def point (x y : Text) : Text := Json.object 1 [("x", x), ("y", y)]

def hex (bytes : List UInt8) : Text :=
  bytes.flatMap fun byte => [(byte.toNat / 16).digitChar, (byte.toNat % 16).digitChar]

def fields (data : MapData) : List (String × Text) :=
  [("map_id", Json.string data.mapId),
    ("seed", Json.int data.seed),
    ("difficulty", Json.int data.difficulty),
    ("grid_cols", Json.int data.gridCols),
    ("grid_rows", Json.int data.gridRows),
    ("grid_size", Json.float data.gridSize),
    ("room_size", Json.int data.roomSize),
    ("room_dim", Json.int data.roomDim),
    ("bounds", Json.object 1
      [("x_min", Json.int 0), ("x_max", Json.int data.mapSize),
        ("y_min", Json.int 0), ("y_max", Json.int data.mapSize)]),
    ("start_pos", point (Json.float data.startPos.x) (Json.float data.startPos.y)),
    ("end_pos", point (Json.float data.endPos.x) (Json.float data.endPos.y)),
    ("start_grid", point (Json.int data.startGrid.1) (Json.int data.startGrid.2)),
    ("goal_grid", point (Json.int data.goalGrid.1) (Json.int data.goalGrid.2)),
    ("blocked_bitmap_encoding", Json.string "row-major-u8-0-open-1-blocked"),
    ("blocked_bitmap_hex", quoted doubleQuote (hex data.blockedBitmap)),
    ("wall_count", Json.int data.walls.length)]

def entries (data : MapData) : List (String × Text) :=
  data.fields ++ [("walls", Json.array 1 (data.walls.map WallSegment.json))]

def json (data : MapData) : Text := Json.object 0 data.entries

end MapData

end MazeClient
