import Mathlib.Tactic.FieldSimp
import MazeClient.Maze.FrameReading
import MazeClient.Maze.Invariant

set_option autoImplicit false

namespace MazeClient

open JsonReader Rounding

end MazeClient
