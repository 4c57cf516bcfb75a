import Libtta.Library.Exec
import Libtta.Library.Parts
import Libtta.Library.Buffer
import Libtta.Library.Parity
import Libtta.Model.Types
import Libtta.Model.Os
import Libtta.Model.Codec
import Libtta.Model.Cc1120
import Libtta.Model.Link
import Libtta.Model.Core
import Libtta.Model.Tty
import Libtta.Library.Framing
import Libtta.Packet.Frame
import Libtta.Packet.Decoder
import Libtta.Receive.Reader
import Libtta.Receive.Checksum
import Libtta.Receive.Requests
import Libtta.Receive.Message
import Libtta.Receive.Rxfifo
import Libtta.Context.Walk
import Libtta.Context.Keeps
import Libtta.Context.Bounds
import Libtta.Model.Api
import Libtta.Context.Reachable
import Libtta.Context.Overrun
import Libtta.Context.Endpoint
import Libtta.Receive.Line
import Libtta.Receive.OneShot
import Libtta.Receive.RoundTrip
import Libtta.Receive.Stream
import Libtta.Receive.Oversize
import Libtta.Trace.Event
import Libtta.Trace.Device
import Libtta.Receive.Traced
import Libtta.Receive.Exits
import Libtta.Receive.Received
import Libtta.Send.Packet
import Libtta.Send.Attempts
import Libtta.Send.Copies
import Libtta.Send.Recovery
import Libtta.Context.Bus
import Libtta.Library.Ledger
import Libtta.Context.Owner
import Libtta.Context.OwnerRun
import Libtta.Send.ShortWrite
import Libtta.Radio.Radio
import Libtta.Radio.Receive
import Libtta.Radio.Poll
import Libtta.Radio.Timeout
import Libtta.Radio.Transmit
import Libtta.Radio.Leak
import Libtta.Radio.Arrival
import Libtta.Radio.Bounds
import Libtta.Radio.Calibration
import Libtta.Radio.RegisterFile
import Libtta.Exchange.SizeLimit
import Libtta.Exchange.Reply
import Libtta.Exchange.Confirmation
import Libtta.Exchange.Server
import Libtta.Exchange.Transaction
import Libtta.Exchange.Response
import Libtta.Exchange.Link
import Libtta.Exchange.Completeness
import Libtta.Exchange.Late
import Libtta.Exchange.Exits
import Libtta.Exchange.Failures
import Libtta.Exchange.Flushing
import Libtta.Receive.Drain
import Libtta.Library.Fifo
import Libtta.Model.Win32
import Libtta.Receive.SerialBuffer
import Libtta.Model.Data
import Libtta.Data.Bits
import Libtta.Library.Words
import Libtta.Data.Float
import Libtta.Library.Heap
import Libtta.Model.Memory
import Libtta.Memory.Message
import Libtta.Memory.Application
import Libtta.Memory.Context
import Libtta.Exchange.Session
import Libtta.Exchange.Bursts
import Libtta.Library.Cost
import Libtta.Exchange.Returns
import Libtta.Exchange.Duration
import Libtta.Context.Device
import Libtta.Model.Serial
import Libtta.Context.LineMode
import Libtta.Context.Settings
import Libtta.Model.Chip
import Libtta.Radio.Tuning
import Libtta.Radio.TuningRun
