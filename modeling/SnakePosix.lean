import SnakePosix.Server.Game
import SnakePosix.Foundation.Cyclic
import SnakePosix.Foundation.Exploration
import SnakePosix.Foundation.GuardedRuns
import SnakePosix.Foundation.Trails
import SnakePosix.Foundation.WriteLogs
import SnakePosix.Torus
import SnakePosix.MapProofs
import SnakePosix.RandomSearch
import SnakePosix.TickTurns
import SnakePosix.SnakePlacement
import SnakePosix.ChangelogReplay
import SnakePosix.SlotTurns
import SnakePosix.Snakes
import SnakePosix.GameRuns
import SnakePosix.SnakeRuns
import SnakePosix.ChangelogBound
import SnakePosix.TileCensus
import SnakePosix.TailFollowing
import SnakePosix.Foundation.Wire
import SnakePosix.Libsnake.SocketMessage
import SnakePosix.Foundation.ReadPrograms
import SnakePosix.Foundation.Pieces
import SnakePosix.Libsnake.Socket
import SnakePosix.Libsnake.SocketCalls
import SnakePosix.SocketPieces
import SnakePosix.SocketRoundTrip
import SnakePosix.MapSnapshot
import SnakePosix.Foundation.Monitors
import SnakePosix.Libsnake.Observers
import SnakePosix.GameEnd
import SnakePosix.Server.Room
import SnakePosix.Server.Network
import SnakePosix.SlotOwners
import SnakePosix.Server.ConnectionHandler
import SnakePosix.SharedRecords
import SnakePosix.Descriptors
import SnakePosix.Connections
import SnakePosix.SlotCalls
import SnakePosix.CanonicalBytes
import SnakePosix.Client.SocketClient
import SnakePosix.Client.Renderer
import SnakePosix.RendererShutdown
import SnakePosix.Client.Display
import SnakePosix.ScreenMirror
import SnakePosix.ReceivedBounds
import SnakePosix.Server.ClientConnection
import SnakePosix.MapMirror
import SnakePosix.Client.ShmClient
import SnakePosix.Steering
import SnakePosix.Libargs.Args
import SnakePosix.Server.ServerInit
import SnakePosix.AdmittedSettings
import SnakePosix.Foundation.LockOrder
import SnakePosix.Client.Locks
import SnakePosix.DeadlockFreedom
import SnakePosix.Client.SocketClientThreads
import SnakePosix.ConformingClient
import SnakePosix.Server.Main
import SnakePosix.GameLoop
import SnakePosix.Foundation.Marks
import SnakePosix.DigitStrings
import SnakePosix.MapFiles
import SnakePosix.Client.Terminal
import SnakePosix.PortPrompt
import SnakePosix.Foundation.LinkedNodes
import SnakePosix.Libsnake.Queue
import SnakePosix.QueueRefinement
import SnakePosix.Server.Sections
import SnakePosix.LockedSections
import SnakePosix.Client.ShmDisplay
import SnakePosix.SharedScreen
import SnakePosix.TileRanges
import SnakePosix.Client.RemoteDisplay
import SnakePosix.RemoteScreen
import SnakePosix.Foundation.Simulations
import SnakePosix.Foundation.Footprints
import SnakePosix.Arena
import SnakePosix.ArenaRefinement
import SnakePosix.PausedSnakes
import SnakePosix.SlotLeases
import SnakePosix.Client.Menus
import SnakePosix.HostedGames
import SnakePosix.Libsnake.ShmGameState
import SnakePosix.SharedRooms
import SnakePosix.Server.RecordArray
import SnakePosix.RecordPlaces
import SnakePosix.Departures
import SnakePosix.Conversations
import SnakePosix.Foundation.Histories
import SnakePosix.KeyMessages
import SnakePosix.Foundation.Allocations
import SnakePosix.Libsnake.MessageMemory
import SnakePosix.Client.SocketMemory
import SnakePosix.MessageLifetimes
import SnakePosix.Foundation.Probing
import SnakePosix.Libargs.HashMap
import SnakePosix.Libargs.ArgParser
import SnakePosix.OptionTables
import SnakePosix.HashedOptions
