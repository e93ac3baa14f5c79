import AudioMulticast.Listening.Timeline
import AudioMulticast.Main
import AudioMulticast.Menu.Server
import AudioMulticast.Proofs.Broadcast.JudgedConfig
import AudioMulticast.Proofs.Broadcast.KeptPackets
import AudioMulticast.Proofs.Broadcast.Packetizing
import AudioMulticast.Proofs.Broadcast.ResendRounds
import AudioMulticast.Proofs.Link
import AudioMulticast.Proofs.Listening.RequestTargets
import AudioMulticast.Proofs.Listening.SharedReceiver
import AudioMulticast.Proofs.Listening.Subscription
import AudioMulticast.Proofs.Menu.PublishedMenu
import AudioMulticast.Proofs.Menu.SharedDial
import AudioMulticast.Proofs.Menu.TypedLine
import AudioMulticast.Proofs.Playback.DroppedPackets
import AudioMulticast.Proofs.Playback.DirectJump
import AudioMulticast.Proofs.Playback.GapPursuit
import AudioMulticast.Proofs.Playback.GapReports
import AudioMulticast.Proofs.Playback.PlayedStream
import AudioMulticast.Proofs.Playback.Replay
import AudioMulticast.Proofs.Playback.RequestTimes
import AudioMulticast.Proofs.Playback.ScheduleHistory
import AudioMulticast.Proofs.Playback.SharedReception
import AudioMulticast.Proofs.Stations.InsertedLooks
import AudioMulticast.Proofs.Stations.MenuTour
import AudioMulticast.Proofs.Stations.PreferredStation
import AudioMulticast.Proofs.Stations.RosterCalls
import AudioMulticast.Proofs.Stations.RosterHistory
import AudioMulticast.Proofs.Stations.TuningHistory
import AudioMulticast.Proofs.Text.ByteOrder
import AudioMulticast.Proofs.Wire.EmittedMessage
import AudioMulticast.Proofs.Wire.PacketCodec
import AudioMulticast.Proofs.Wire.RequestEntries
import AudioMulticast.Proofs.Wire.CanonicalMessage
import AudioMulticast.Proofs.Wire.RequestGroups
