import RtpCapture.Foundations.Traced
import RtpCapture.Foundations.ByteMemory
import RtpCapture.Foundations.Framing
import RtpCapture.Foundations.Binary32
import RtpCapture.Foundations.Records
import RtpCapture.Recorder.Clock
import RtpCapture.Recorder.Flv
import RtpCapture.Recorder.RTPDump
import RtpCapture.Recorder.Steps
import RtpCapture.Recorder.Depacketizer
import RtpCapture.Recorder.ReassemblyBuffer
import RtpCapture.Recorder.Sender
import RtpCapture.Recorder.Reassembly
import RtpCapture.Recorder.Assembly
import RtpCapture.Recorder.Simulation
import RtpCapture.Recorder.Progress
import RtpCapture.Recorder.AccessUnitBuffer
import RtpCapture.Recorder.AccessUnits
import RtpCapture.Recorder.ParameterSets
import RtpCapture.Recorder.NalWork
import RtpCapture.Recorder.OutputOrder
import RtpCapture.Recorder.Stream
import RtpCapture.Recorder.Outputs
import RtpCapture.Recorder.RoundTrip
import RtpCapture.Recorder.SteadyClock
import RtpCapture.Recorder.RecordedClock
import RtpCapture.Recorder.TagStamps
import RtpCapture.Recorder.ClockForm
import RtpCapture.Recorder.ClockJumps
import RtpCapture.Foundations.TwoRuns
import RtpCapture.Recorder.Retiming
import RtpCapture.Recorder.Interleaving
import RtpCapture.Recorder.ShiftedClock
import RtpCapture.Recorder.Writers
import RtpCapture.Recorder.CameraTypes
import RtpCapture.Recorder.PacketBytes
import RtpCapture.Recorder.RtpFormat
import RtpCapture.Recorder.WriteFailures
import RtpCapture.Recorder.StopReasons
import RtpCapture.Recorder.ParameterSetSizes
import RtpCapture.Recorder.SliceFraming
import RtpCapture.Recorder.Fragmentation
import RtpCapture.Recorder.RealTime
import RtpCapture.Flv.ByteStream
import RtpCapture.Flv.Encoder
import RtpCapture.Flv.SharedMessages
import RtpCapture.Flv.Decoder
import RtpCapture.Flv.ReadBack
import RtpCapture.Flv.RecordedFile
import RtpCapture.Foundations.Ownership
import RtpCapture.Foundations.Mailboxes
import RtpCapture.Foundations.Mutexes
import RtpCapture.Sessions.MemoryPool
import RtpCapture.Sessions.System
import RtpCapture.Sessions.Locks
import RtpCapture.Sessions.Delivery
import RtpCapture.Sessions.Calls
import RtpCapture.Sessions.InOrder
import RtpCapture.Sessions.Registry
import RtpCapture.Sessions.Blocks
import RtpCapture.Sessions.SessionIds
import RtpCapture.Sessions.Deadlock
import RtpCapture.Sessions.Ingestion
import RtpCapture.Sessions.Atomicity
import RtpCapture.Sessions.Recorders
import RtpCapture.Sessions.Rates
import RtpCapture.Sessions.CInterface
import RtpCapture.Sessions.FirstAdd
import RtpCapture.Sessions.Behaviours
import RtpCapture.Foundations.Measures
import RtpCapture.Foundations.RoundRobin
import RtpCapture.Sessions.PoolUse
import RtpCapture.Sessions.Draining
import RtpCapture.Recorder.Recovery
import RtpCapture.Recorder.AlikePackets
import RtpCapture.Sessions.Playback
import RtpCapture.Sessions.ThreadEnd
import RtpCapture.Sessions.EndToEnd
