import PhonoConsole.Lib.Machine
import PhonoConsole.SourceAgreement
import PhonoConsole.Distribution
import PhonoConsole.LoopSurvival
import PhonoConsole.IntentsApplied
import PhonoConsole.FailedRequest
import PhonoConsole.Rollback
import PhonoConsole.OlderWork
import PhonoConsole.StreamSource
import PhonoConsole.PublishedState
import PhonoConsole.Silent
import PhonoConsole.Release
import PhonoConsole.SourcePriority
import PhonoConsole.AppliedRoute
import PhonoConsole.Confirmation
import PhonoConsole.StartAfterStop
import PhonoConsole.LineSense
import PhonoConsole.Fanout
import PhonoConsole.Router
import PhonoConsole.Protocol
import PhonoConsole.Engine
import PhonoConsole.EngineMarks
import PhonoConsole.StickyMode
import PhonoConsole.Dashboard
import PhonoConsole.CommandLock
import PhonoConsole.LastCommand
import PhonoConsole.Captures
import PhonoConsole.Bluetooth
import PhonoConsole.PairingWindow
import PhonoConsole.Amplifier
import PhonoConsole.SafeVolume
import PhonoConsole.DetectorTrace
import PhonoConsole.Limiter
import PhonoConsole.ControlOrder
import PhonoConsole.TransportVolume
import PhonoConsole.HardwareVolume
import PhonoConsole.PlayCalls
import PhonoConsole.Subscriptions
import PhonoConsole.StreamStart
import PhonoConsole.SignalTrace
import PhonoConsole.ClockMapper
import PhonoConsole.ClockDrift
import PhonoConsole.ClockFit
import PhonoConsole.RestartBackoff
import PhonoConsole.PacketLimits
import PhonoConsole.PumpClock
import PhonoConsole.EngineLink
import PhonoConsole.EngineTimeline
import PhonoConsole.MaConnection
import PhonoConsole.OutputFile
import PhonoConsole.CaptureMonitor
import PhonoConsole.StartPacing
import PhonoConsole.Probe
import PhonoConsole.BluetoothText
import PhonoConsole.StateStore
