import MazeClient.Session.ServerLog

set_option autoImplicit false

namespace MazeClient

open Wire

variable {responses : TaskResponses}

end MazeClient
