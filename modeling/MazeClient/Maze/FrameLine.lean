import Mathlib.Data.Int.Log
import MazeClient.Generator.MapJson
import MazeClient.Maze.Environment
import MazeClient.Shared.Rounding

set_option autoImplicit false

namespace MazeClient

open Rounding TextSearch

def padded (width value : Nat) : Text :=
  let digits := Nat.toDigits 10 value
  List.replicate (width - digits.length) '0' ++ digits

theorem padded_isDigit {width value : Nat} {c : Char} (member : c ∈ padded width value) :
    c.isDigit = true := by
  rcases List.mem_append.mp member with zero | digit
  · rw [List.eq_of_mem_replicate zero]
    rfl
  · exact Nat.isDigit_of_mem_toDigits (by decide) (by decide) digit

theorem padded_value (width value : Nat) : Nat.ofDigitChars 10 (padded width value) 0 = value := by
  simp [padded, Nat.ofDigitChars_append]

theorem length_padded {width value bound : Nat} (some_ : 0 < bound) (wide : width ≤ bound)
    (small : value < 10 ^ bound) : (padded width value).length ≤ bound := by
  have digits := (Nat.length_toDigits_le_iff (by decide) some_).mpr small
  simp only [padded, List.length_append, List.length_replicate]
  omega

-- What a float is written as by an ostream that was left as it is: printf's %g.
namespace Ostream

def significant (value : ℚ) : Nat × Int :=
  let power := Int.log 10 value
  let digits := (roundHalfEven (value / 10 ^ (power - 5))).toNat
  if digits = 1000000 then (100000, power + 1) else (digits, power)

def pointed (whole fraction : Text) : Text :=
  let fraction := fraction.rdropWhile (· = '0')
  if fraction = [] then whole else whole ++ '.' :: fraction

def scientific (digits : Text) (power : Int) : Text :=
  pointed (digits.take 1) (digits.drop 1) ++
    'e' :: (if power < 0 then '-' else '+') :: padded 2 power.natAbs

def fixed (digits : Text) (power : Int) : Text :=
  if power < 0 then pointed ['0'] (List.replicate (power.natAbs - 1) '0' ++ digits)
  else pointed (digits.take (power.toNat + 1)) (digits.drop (power.toNat + 1))

def positive (value : ℚ) : Text :=
  let (digits, power) := significant value
  if power < -4 ∨ 6 ≤ power then scientific (Nat.toDigits 10 digits) power
  else fixed (Nat.toDigits 10 digits) power

def float (value : ℚ) : Text :=
  if value = 0 then ['0'] else if value < 0 then '-' :: positive (-value) else positive value

end Ostream

namespace Compact

def string (text : Text) : Text := quoted doubleQuote text

def member (key : String) (value : Text) : Text := string key.toList ++ ':' :: value

def object (fields : List (String × Text)) : Text :=
  '{' :: [','].intercalate (fields.map fun (key, value) => member key value) ++ ['}']

def array (items : List Text) : Text := '[' :: [','].intercalate items ++ [']']

end Compact

-- GetWorldX and GetWorldY: each operation is rounded to a float.
def GridMap.world (map : GridMap) (at_ : Int) : ℚ :=
  toFloat (toFloat (toFloat at_ + 1 / 2) * map.gridSize)

def vizAgent (environment : MazeEnv) (actions : List Int) (index : Nat) : Text :=
  let agent := environment.agents.getD index {}
  Compact.object
    [("id", Json.int agent.id),
      ("x", Ostream.float (environment.map.world agent.gridX)),
      ("y", Ostream.float (environment.map.world agent.gridY)),
      ("done", if agent.done then "true".toList else "false".toList),
      ("action_id", Json.int (actions.getD index 0))]

def buildVizJson (environment : MazeEnv) (frameId episodeNumber : Nat)
    (actions : List Int) : Text :=
  Compact.object
    [("type", Compact.string "frame_update".toList),
      ("frame_id", Json.int frameId),
      ("episode_id", Json.int episodeNumber),
      -- The id goes in as it is, without escapes.
      ("map_id", Compact.string environment.map.mapId.toList),
      ("agents", Compact.array
        ((List.range environment.agents.length).map (vizAgent environment actions)))]

end MazeClient
