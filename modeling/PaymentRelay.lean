import PaymentRelay.Settings.Environment
import PaymentRelay.Identity
import PaymentRelay.Bus.Message
import PaymentRelay.Payment.Slip
import PaymentRelay.Payment.Envelope
import PaymentRelay.Payment.Terms
import PaymentRelay.Payment.Errand
import PaymentRelay.Failure.Basic
import PaymentRelay.Call.Bridge
import PaymentRelay.Wallet.Client
import PaymentRelay.Main
import PaymentRelay.Proofs.Machine
import PaymentRelay.Proofs.Dict
import PaymentRelay.Proofs.Failure.Answer
import PaymentRelay.Proofs.Payment.Check
import PaymentRelay.Proofs.Http.Route
import PaymentRelay.Proofs.Http.Errand
import PaymentRelay.Proofs.Http.Refused
import PaymentRelay.Proofs.Text.Utf8
import PaymentRelay.Proofs.Json.Reading
import PaymentRelay.Proofs.Json.Values
import PaymentRelay.Proofs.Json.Fields
import PaymentRelay.Proofs.Json.Rereading
import PaymentRelay.Proofs.Json.Stable
import PaymentRelay.Proofs.Json.Agreement
import PaymentRelay.Proofs.Wire.Slip
import PaymentRelay.Proofs.Wire.PassThrough
import PaymentRelay.Proofs.Time.Timestamp
import PaymentRelay.Proofs.Wire.Format
import PaymentRelay.Proofs.Wire.Stability
import PaymentRelay.Proofs.Wire.Agreement
import PaymentRelay.Proofs.Wire.Envelope
import PaymentRelay.Proofs.Registry.Operation
import PaymentRelay.Proofs.Registry.Turn
import PaymentRelay.Proofs.Registry.Once
import PaymentRelay.Proofs.Registry.Conservation
import PaymentRelay.Proofs.Registry.Sweep
import PaymentRelay.Proofs.Registry.Share
import PaymentRelay.Proofs.Registry.Independence
import PaymentRelay.Proofs.Bridge.Act
import PaymentRelay.Proofs.Bridge.Sound
import PaymentRelay.Proofs.Bridge.Move
import PaymentRelay.Proofs.Bridge.Origin
import PaymentRelay.Proofs.Bridge.Calm
import PaymentRelay.Proofs.Bridge.Fate
import PaymentRelay.Proofs.Bridge.Settle
import PaymentRelay.Proofs.Bridge.Succession
import PaymentRelay.Proofs.Bridge.Beat
import PaymentRelay.Proofs.Bridge.Sweeping
import PaymentRelay.Proofs.Bridge.Steady
import PaymentRelay.Proofs.Bridge.Books
import PaymentRelay.Proofs.Bridge.Refusal
import PaymentRelay.Proofs.Hub.Act
import PaymentRelay.Proofs.Hub.Members
import PaymentRelay.Proofs.Hub.Receiver
import PaymentRelay.Proofs.Hub.Delivery
import PaymentRelay.Proofs.Hub.Closing
import PaymentRelay.Proofs.Relay.Frame
import PaymentRelay.Proofs.Bridge.Outcomes
import PaymentRelay.Proofs.Relay.Board
import PaymentRelay.Proofs.Relay.Seats
import PaymentRelay.Proofs.Relay.Office
import PaymentRelay.Proofs.Relay.Share
import PaymentRelay.Proofs.Relay.Separation
import PaymentRelay.Proofs.Relay.Requests
import PaymentRelay.Proofs.Relay.Alike
import PaymentRelay.Proofs.Relay.Noninterference
import PaymentRelay.Proofs.Relay.Connection
import PaymentRelay.Proofs.Relay.Outbound
import PaymentRelay.Proofs.Relay.Answers
import PaymentRelay.Proofs.Relay.Handover
import PaymentRelay.Proofs.Relay.Traffic
import PaymentRelay.Proofs.Relay.Notice
import PaymentRelay.Proofs.Relay.Refused
import PaymentRelay.Proofs.Relay.Beside
import PaymentRelay.Proofs.Relay.InStep
import PaymentRelay.Proofs.Relay.Circuit
import PaymentRelay.Proofs.Relay.Happening
import PaymentRelay.Proofs.Relay.History
import PaymentRelay.Proofs.Relay.Wallets
import PaymentRelay.Proofs.Wallet.Inquiry
import PaymentRelay.Proofs.Wallet.Terms
import PaymentRelay.Proofs.Wallet.Address
import PaymentRelay.Proofs.Call.Deadline
import PaymentRelay.Proofs.Call.Lineage
import PaymentRelay.Proofs.Call.Signals
import PaymentRelay.Proofs.Call.Tree
import PaymentRelay.Proofs.Call.Cancellation
import PaymentRelay.Proofs.Settings.Form
import PaymentRelay.Proofs.Settings.Setting
import PaymentRelay.Proofs.Settings.Loading
import PaymentRelay.Proofs.Failure.Violations
import PaymentRelay.Proofs.Hub.Broadcast
