import Panda.Library.Transition
import Panda.Safety.PedalMotion
import Panda.Safety.Engagement
import Panda.Safety.TorqueRate
import Panda.Safety.AngleRate
import Panda.Safety.RealTimeLimit
import Panda.Safety.SteerRequest
import Panda.Safety.ModeSwitch
import Panda.Safety.HondaAeb
import Panda.Safety.LongitudinalWhitelist
import Panda.Safety.SteeringWhitelist
import Panda.Safety.PedalMemory
import Panda.Safety.PcmEngagement
import Panda.Safety.ButtonEngagement
import Panda.Safety.UncheckedEngagement
import Panda.Safety.Lag
import Panda.Safety.KnownInvalid
import Panda.Safety.StaleInputs
import Panda.Safety.BeyondLength
import Panda.Safety.Forwarding
import Panda.Main.Heartbeat
import Panda.Main.Mismatch
import Panda.Comms.Libc
import Panda.Comms.Wire
import Panda.Comms.Ring
import Panda.Comms.CanComms
import Panda.Comms.Receive
import Panda.Host.CanBuffer
import Panda.Comms.Unpack
import Panda.Comms.Pack
import Panda.Comms.Spi
import Panda.Host.Spi
import Panda.Comms.SpiTransfer
import Panda.Comms.SendMany
import Panda.Comms.CanCommon
import Panda.Comms.Fdcan
import Panda.Comms.DriverLog
import Panda.Comms.Conservation
import Panda.Comms.Checksums
import Panda.Comms.CanfdConfig
import Panda.Comms.TxQueues
import Panda.Comms.SpiAccess
import Panda.Comms.FlowControl
import Panda.Comms.SpiBounds
import Panda.Host.CanClient
import Panda.Host.Isolation
import Panda.Host.IsoTp
import Panda.Host.Segmentation
import Panda.Host.Line
import Panda.Host.IsoTpTransfer
import Panda.Host.IsoTpRoundTrip
import Panda.Host.StaleResponses
import Panda.Host.IsotpPy
import Panda.Host.IsotpPyRoundTrip
import Panda.Host.Xcp
import Panda.Host.XcpUpload
import Panda.Bootstub.Flasher
import Panda.Bootstub.FlashWrites
import Panda.Bootstub.SecureBoot
import Panda.Main.CanInterrupts
import Panda.Main.PowerSave
import Panda.Comms.Bxcan
import Panda.Comms.ClassicBounds
import Panda.Library.Recent
import Panda.Library.Crc
import Panda.Safety.TorqueRelease
import Panda.Safety.Symmetry
import Panda.Safety.AngleLockout
import Panda.Safety.HyundaiEngagement
import Panda.Safety.CounterSupervision
import Panda.Safety.MessageChecksums
import Panda.Main.Bootkick
import Panda.Host.Ccp
import Panda.Library.Memory
import Panda.Bootstub.FlashStatic
import Panda.Host.SocketCan
import Panda.Comms.SocketCanFormat
import Panda.Library.Loop
import Panda.Library.Probe
import Panda.Library.Fifo
import Panda.Comms.RingRefinement
import Panda.Main.Registers
import Panda.Main.RegisterMap
import Panda.Comms.CanCommsLoops
import Panda.Comms.Uart
import Panda.Comms.SpiTermination
import Panda.Library.Montgomery
import Panda.Library.BlockHash
import Panda.Library.TextbookRsa
import Panda.Bootstub.BigEndian
import Panda.Bootstub.Sha
import Panda.Bootstub.Rsa
import Panda.Bootstub.Signing
import Panda.Comms.TransmitGate
import Panda.Host.TxContexts
import Panda.Main.ModeOutputs
import Panda.Host.UdsClient
import Panda.Safety.CommandWhitelist
import Panda.Library.PackedStruct
import Panda.Comms.Health
import Panda.Host.Health
import Panda.Comms.BitTiming
import Panda.Comms.WireFrame
import Panda.Comms.TwoPandas
