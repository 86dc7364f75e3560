import Courtside.Data.Dict
import Courtside.Data.SlidingWindow
import Courtside.Data.FirstMatch
import Courtside.Data.Rows
import Courtside.Data.Rounding
import Courtside.Data.Run
import Courtside.Data.Path
import Courtside.Data.Disk
import Courtside.Data.SameFiles
import Courtside.Data.Delimited
import Courtside.Data.Multipart
import Courtside.Data.Serial
import Courtside.Data.FirstError
import Courtside.Data.JsonString
import Courtside.Data.JsonNumber
import Courtside.Data.Json
import Courtside.Data.JsonPrefix
import Courtside.Detection.Distance
import Courtside.Detection.Video
import Courtside.Detection.Persons
import Courtside.Detection.Route
import Courtside.Events.Refinement
import Courtside.Events.Replay
import Courtside.Events.Ledger
import Courtside.Events.Shots
import Courtside.Events.Chunk
import Courtside.Events.Session
import Courtside.Events.Symmetry
import Courtside.Events.Guard
import Courtside.Events.Widening
import Courtside.Events.Locality
import Courtside.Events.Renumbering
import Courtside.Training.Extraction
import Courtside.Training.Interleaving
import Courtside.Training.Soundness
import Courtside.Training.Lossless
import Courtside.Training.ByName
import Courtside.Training.Rotation
import Courtside.Training.Labels
import Courtside.Training.LabelFormat
import Courtside.Training.Predictions
import Courtside.Training.UploadPaths
import Courtside.Roster.Upload
import Courtside.Roster.Recording
import Courtside.Roster.Wizard
import Courtside.Roster.Names
import Courtside.Clip.Buffer
import Courtside.Clip.Queues
import Courtside.Clip.LiveFrames
import Courtside.Bodies.Boundary
import Courtside.Bodies.Frames
import Courtside.Bodies.Player
import Courtside.Bodies.Game
import Courtside.Training.Atomicity
import Courtside.Roster.EndToEnd
import Courtside.Clip.EndToEnd
import Courtside.Account.Session
import Courtside.Account.Orphans
import Courtside.Account.Completions
import Courtside.Account.Network
import Courtside.Games.Store
import Courtside.Games.Shots
import Courtside.Games.Trim
import Courtside.Games.Stats
import Courtside.Games.Watch
import Courtside.Games.Arrival
import Courtside.Commentary.Prompt
import Courtside.Commentary.Playback
import Courtside.Commentary.ResultsFile
import Courtside.Commentary.Preparation
import Courtside.Commentary.Broadcast
