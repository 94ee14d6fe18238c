import MazeClient.Client.AllOrNothing
import MazeClient.Client.Cleanup
import MazeClient.Client.Drive
import MazeClient.Client.Exchange
import MazeClient.Client.Lifecycle
import MazeClient.Client.Order
import MazeClient.Client.Outcome
import MazeClient.Client.RunSession
import MazeClient.Client.Scope
import MazeClient.Client.SessionErasure
import MazeClient.Client.SessionRule
import MazeClient.Client.Stopping
import MazeClient.Client.TaskClient
import MazeClient.Client.Transport
import MazeClient.Client.World
import MazeClient.Config.ConfigLoader
import MazeClient.Config.ReplayConfig
import MazeClient.Generator.BlockedGrid
import MazeClient.Generator.Carving
import MazeClient.Generator.Corridors
import MazeClient.Generator.GenerateMap
import MazeClient.Generator.MapJson
import MazeClient.Generator.PerfectMaze
import MazeClient.Generator.Preview
import MazeClient.Generator.PreviewMap
import MazeClient.Generator.Reachable
import MazeClient.Generator.RoomGraph
import MazeClient.Generator.Solvable
import MazeClient.Generator.WallDrawing
import MazeClient.Generator.WallEdgeSet
import MazeClient.Generator.WallSegments
import MazeClient.Maze.Adapter
import MazeClient.Maze.AnyOrder
import MazeClient.Maze.Binding
import MazeClient.Maze.Bitmap
import MazeClient.Maze.Environment
import MazeClient.Maze.EpisodeEnd
import MazeClient.Maze.EpisodeFrames
import MazeClient.Maze.ExactlyOnce
import MazeClient.Maze.Frame
import MazeClient.Maze.FrameLine
import MazeClient.Maze.FramePositions
import MazeClient.Maze.FrameReading
import MazeClient.Maze.GeneratedMaps
import MazeClient.Maze.Invariant
import MazeClient.Maze.LoadGenerated
import MazeClient.Maze.LoadMap
import MazeClient.Maze.Loadable
import MazeClient.Maze.LocalFailures
import MazeClient.Maze.MapFields
import MazeClient.Maze.MapReading
import MazeClient.Maze.MapSize
import MazeClient.Maze.MapValue
import MazeClient.Maze.Masks
import MazeClient.Maze.Moves
import MazeClient.Maze.NumberReading
import MazeClient.Maze.OutcomeText
import MazeClient.Maze.Receipt
import MazeClient.Maze.Recording
import MazeClient.Maze.ReplayFiles
import MazeClient.Maze.ServedReplay
import MazeClient.Maze.ShortestSteps
import MazeClient.Maze.StepLimit
import MazeClient.Maze.StopRequest
import MazeClient.Maze.TapedSession
import MazeClient.Maze.Tapes
import MazeClient.Maze.Taping
import MazeClient.Maze.Tracking
import MazeClient.Maze.UpdateContract
import MazeClient.Maze.VizRecorder
import MazeClient.Protocol.Encoding
import MazeClient.Protocol.Messages
import MazeClient.Protocol.TaskRpc
import MazeClient.Replay.FramePages
import MazeClient.Replay.LineIndex
import MazeClient.Replay.Orphans
import MazeClient.Replay.Player
import MazeClient.Replay.PlayerBuffer
import MazeClient.Replay.RecordedLines
import MazeClient.Replay.Service
import MazeClient.Session.Agreement
import MazeClient.Session.Cursor
import MazeClient.Session.Network
import MazeClient.Session.ReplayIdentity
import MazeClient.Session.ServerCommand
import MazeClient.Session.ServerLog
import MazeClient.Shared.Deadline
import MazeClient.Shared.Erasure
import MazeClient.Shared.Fallible
import MazeClient.Shared.Grid
import MazeClient.Shared.JsonPrefix
import MazeClient.Shared.JsonReader
import MazeClient.Shared.JsonReading
import MazeClient.Shared.Lines
import MazeClient.Shared.Maintains
import MazeClient.Shared.Packed
import MazeClient.Shared.Program
import MazeClient.Shared.Rounding
import MazeClient.Shared.Search
import MazeClient.Shared.TextSearch
import MazeClient.Shared.Trail
import MazeClient.Shared.Utf8
import MazeClient.Shared.Window
import MazeClient.Shared.Wire
