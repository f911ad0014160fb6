import RtcTestbench.Lossless
import RtcTestbench.Mirror
import RtcTestbench.RoundTripTime
import RtcTestbench.XdpUmem
import RtcTestbench.Lib.Cells
import RtcTestbench.TxCompletion
import RtcTestbench.ProcLatency
import RtcTestbench.RxTimestamp
import RtcTestbench.TxLatency
import RtcTestbench.XdpGenerator
import RtcTestbench.XdpTxLatency
import RtcTestbench.Reflect
import RtcTestbench.InPlace
import RtcTestbench.XdpTraffic
import RtcTestbench.MirrorReport
import RtcTestbench.MirrorFilter
import RtcTestbench.Lib.Relay
import RtcTestbench.Schedule
import RtcTestbench.Burst
import RtcTestbench.Workload
import RtcTestbench.WorkloadStat
import RtcTestbench.TxSlots
import RtcTestbench.GeneratedFrames
import RtcTestbench.Lib.Rotation
import RtcTestbench.MonitorMark
import RtcTestbench.TxInFlight
import RtcTestbench.TimestampRequest
import RtcTestbench.LaunchTime
import RtcTestbench.Lib.Bpf
import RtcTestbench.SocketFilter
import RtcTestbench.InitialVectors
import RtcTestbench.LaunchOrder
import RtcTestbench.BatchSplit
import RtcTestbench.PacketSend
import RtcTestbench.SendReport
import RtcTestbench.Histogram
import RtcTestbench.BacklogAccess
import RtcTestbench.ConfigValue
import RtcTestbench.ConfigFile
import RtcTestbench.ChunkFit
import RtcTestbench.Lib.Bounds
import RtcTestbench.RxBounds
import RtcTestbench.Lib.Json
import RtcTestbench.StatJson
import RtcTestbench.LogReport
import RtcTestbench.CpuListText
import RtcTestbench.WorkloadInit
import RtcTestbench.RxLatency
import RtcTestbench.ClockReading
import RtcTestbench.EthercatRoundTrip
import RtcTestbench.SecureHeader
import RtcTestbench.Lib.Flow
import RtcTestbench.Lib.Slots
import RtcTestbench.Lib.HostWord
import RtcTestbench.IntactFrame
import RtcTestbench.IntactMirror
import RtcTestbench.IntactSender
import RtcTestbench.ClosedLoop
import RtcTestbench.PacketReceive
import RtcTestbench.XdpKern
import RtcTestbench.XdpDelivery
import RtcTestbench.XdpLoop
