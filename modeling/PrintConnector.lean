import PrintConnector.Device.Decoding
import PrintConnector.Http.Printer
import PrintConnector.Ipp.Response
import PrintConnector.Json.Parser
import PrintConnector.Json.Printer
import PrintConnector.Ppd.Statement.Printer
import PrintConnector.Rehearsal.Run
import PrintConnector.Scheduler.Session
import PrintConnector.Proofs.Pool.Balance
import PrintConnector.Proofs.Pool.Capacity
import PrintConnector.Proofs.Number.Numeral
import PrintConnector.Proofs.Http.Line
import PrintConnector.Proofs.Http.Head
import PrintConnector.Proofs.Http.Body
import PrintConnector.Proofs.Http.Stream
import PrintConnector.Proofs.Scheduler.Dialogue
import PrintConnector.Proofs.Cache.Copy
import PrintConnector.Proofs.Cache.Disk
import PrintConnector.Proofs.Pool.Exchange
import PrintConnector.Proofs.Service.Consistent
import PrintConnector.Proofs.Service.Entry
import PrintConnector.Proofs.Service.Call
import PrintConnector.Proofs.Service.Job
import PrintConnector.Proofs.Service.Run
import PrintConnector.Proofs.Device.Choice
import PrintConnector.Proofs.Ppd.Default
import PrintConnector.Proofs.Service.Move
import PrintConnector.Proofs.Service.Career
import PrintConnector.Proofs.Service.Harmless
import PrintConnector.Proofs.Service.Carry
import PrintConnector.Proofs.Service.Fresh
import PrintConnector.Proofs.Pool.Borrower
import PrintConnector.Proofs.Service.Lend
import PrintConnector.Proofs.Service.Refusal
import PrintConnector.Proofs.Service.Renewal
import PrintConnector.Proofs.Service.Stray
import PrintConnector.Proofs.Service.ShutDown
import PrintConnector.Proofs.Pool.Errand
import PrintConnector.Proofs.Pool.Retry
import PrintConnector.Proofs.Text.Blank
import PrintConnector.Proofs.Ppd.Statement
import PrintConnector.Proofs.Ppd.Constraint
import PrintConnector.Proofs.Pool.Reaper
import PrintConnector.Proofs.Service.Tidy
import PrintConnector.Proofs.Pool.Standing
import PrintConnector.Proofs.Service.Isolation
import PrintConnector.Proofs.Service.Line
import PrintConnector.Proofs.Service.Restart
import PrintConnector.Proofs.Service.Progress
import PrintConnector.Proofs.Pool.Drain
import PrintConnector.Proofs.Http.Truncated
import PrintConnector.Proofs.Ppd.Order
import PrintConnector.Proofs.Json.Number
import PrintConnector.Proofs.Json.Text
import PrintConnector.Proofs.Number.Decimal
import PrintConnector.Proofs.Number.Rounding
import PrintConnector.Proofs.Number.Double
import PrintConnector.Proofs.Number.Shortest
import PrintConnector.Proofs.Number.Neighbour
import PrintConnector.Proofs.Number.Halfway
import PrintConnector.Proofs.Number.Reread
import PrintConnector.Proofs.Device.Returned
import PrintConnector.Proofs.Device.RoundTrip
import PrintConnector.Proofs.Ppd.Outline
import PrintConnector.Proofs.Ppd.Reading
import PrintConnector.Proofs.Ppd.LineEnd
import PrintConnector.Proofs.Pool.Reconnect
import PrintConnector.Proofs.Text.Pattern
import PrintConnector.Proofs.Text.Percent
import PrintConnector.Proofs.Http.Request
import PrintConnector.Proofs.Scheduler.Download
import PrintConnector.Proofs.Http.Persistence
import PrintConnector.Proofs.Ppd.ColorModes
import PrintConnector.Proofs.Number.Closest
import PrintConnector.Proofs.Number.Arithmetic
import PrintConnector.Proofs.Ppd.Length
import PrintConnector.Proofs.Ppd.Dimension
import PrintConnector.Proofs.Ppd.ModelName
import PrintConnector.Proofs.Ppd.ShownModel
import PrintConnector.Proofs.Ppd.Toggle
import PrintConnector.Proofs.Ppd.WrittenSize
import PrintConnector.Proofs.Ppd.SheetSizes
import PrintConnector.Proofs.Ppd.WellFormed
import PrintConnector.Proofs.Ppd.VendorId
