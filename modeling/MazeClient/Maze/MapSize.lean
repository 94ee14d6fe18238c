import MazeClient.Maze.Bitmap

set_option autoImplicit false

namespace MazeClient

namespace MapFile

end MapFile

end MazeClient
