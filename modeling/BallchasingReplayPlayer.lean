import BallchasingReplayPlayer.Lib.Machine
import BallchasingReplayPlayer.Lib.Simulation
import BallchasingReplayPlayer.Lib.FetchCache
import BallchasingReplayPlayer.Lib.ScopedHeap
import BallchasingReplayPlayer.Lib.LexicalPath
import BallchasingReplayPlayer.Lib.FixedPoint
import BallchasingReplayPlayer.Lib.Url
import BallchasingReplayPlayer.Lib.BigEndian
import BallchasingReplayPlayer.Lib.FieldReader
import BallchasingReplayPlayer.Websocket.Utf8
import BallchasingReplayPlayer.Websocket.Frame
import BallchasingReplayPlayer.Websocket.Processor
import BallchasingReplayPlayer.Websocket.Reading
import BallchasingReplayPlayer.Websocket.Assembly
import BallchasingReplayPlayer.Websocket.RoundTrip
import BallchasingReplayPlayer.Websocket.Accepted
import BallchasingReplayPlayer.Websocket.Connection
import BallchasingReplayPlayer.Websocket.Closing
import BallchasingReplayPlayer.Websocket.Sending
import BallchasingReplayPlayer.Websocket.Receiving
import BallchasingReplayPlayer.Plugin.Progress
import BallchasingReplayPlayer.Plugin.State
import BallchasingReplayPlayer.Plugin.Download
import BallchasingReplayPlayer.Plugin.Frames
import BallchasingReplayPlayer.Plugin.Focus
import BallchasingReplayPlayer.Plugin.Cache
import BallchasingReplayPlayer.Plugin.AtomicCache
import BallchasingReplayPlayer.Plugin.Overlay
import BallchasingReplayPlayer.Plugin.Containment
import BallchasingReplayPlayer.Plugin.Lifetime
import BallchasingReplayPlayer.Plugin.Messages
import BallchasingReplayPlayer.Plugin.CommandList
import BallchasingReplayPlayer.Plugin.Commands
import BallchasingReplayPlayer.Plugin.Accounting
import BallchasingReplayPlayer.Plugin.Settling
import BallchasingReplayPlayer.Plugin.Requests
import BallchasingReplayPlayer.Plugin.DownloadUrl
import BallchasingReplayPlayer.Server.Machine
import BallchasingReplayPlayer.Server.Invariants
import BallchasingReplayPlayer.Server.Threads
import BallchasingReplayPlayer.Server.Delivery
import BallchasingReplayPlayer.Server.Shutdown
import BallchasingReplayPlayer.Server.Clients
import BallchasingReplayPlayer.Server.Termination
import BallchasingReplayPlayer.Server.Restart
import BallchasingReplayPlayer.Server.Serving
import BallchasingReplayPlayer.Server.System
import BallchasingReplayPlayer.Server.Replies
import BallchasingReplayPlayer.Server.SharedCache
import BallchasingReplayPlayer.Server.PlainIds
import BallchasingReplayPlayer.Server.CommandLists
import BallchasingReplayPlayer.Server.Connections
