import FlowBroker.CommandLine
import FlowBroker.Config
import FlowBroker.Decimal.Shortest
import FlowBroker.Event
import FlowBroker.FileTree
import FlowBroker.Flow.Error
import FlowBroker.Flow.Manager
import FlowBroker.Flow.Push
import FlowBroker.Http
import FlowBroker.Json
import FlowBroker.Json.Numeral
import FlowBroker.Json.Printer
import FlowBroker.Json.Reader
import FlowBroker.Json.Source
import FlowBroker.Log
import FlowBroker.Main
import FlowBroker.Plane.FlowTable
import FlowBroker.Plane.Instance
import FlowBroker.Plane.Remote
import FlowBroker.Plane.Selector
import FlowBroker.Plane.Strategy
import FlowBroker.Plane.Transport
import FlowBroker.Properties
import FlowBroker.Record.Error
import FlowBroker.Record.Source
import FlowBroker.Rehearsal
import FlowBroker.Roster
import FlowBroker.Run
import FlowBroker.Status
import FlowBroker.Text.Basic
import FlowBroker.Text.Glyphless
import FlowBroker.Transfer.Address
import FlowBroker.Transfer.Process
import FlowBroker.Transfer.Request
import FlowBroker.Transfer.Type
import FlowBroker.TypeSet
import FlowBroker.Url.Basic
import FlowBroker.Url.Domain
import FlowBroker.Url.Host
import FlowBroker.Url.Parser
import FlowBroker.Url.Path
import FlowBroker.Url.Percent
import FlowBroker.Url.Punycode
import FlowBroker.Uuid
import FlowBroker.Yaml.Cursor
import FlowBroker.Yaml.Lexer
import FlowBroker.Yaml.Node
import FlowBroker.Yaml.Scalar
import FlowBroker.Yaml.Source
import FlowBroker.Yaml.Token
import FlowBroker.Proofs.RegistryHistory
import FlowBroker.Proofs.Selection
import FlowBroker.Proofs.PushDispatch
import FlowBroker.Proofs.EmbeddedFlows
import FlowBroker.Proofs.ControllerOrder
import FlowBroker.Proofs.TurnTaking
import FlowBroker.Proofs.RecordMembers
import FlowBroker.Proofs.SoundConfig
import FlowBroker.Proofs.UuidText
import FlowBroker.Proofs.RecordRoundTrip
import FlowBroker.Proofs.ByteOrder
import FlowBroker.Proofs.PushOrPull
import FlowBroker.Proofs.Offers
import FlowBroker.Proofs.Wire
import FlowBroker.Proofs.ProgramRun
import FlowBroker.Proofs.SharedRegistry
import FlowBroker.Proofs.PairLoad
import FlowBroker.Proofs.OutcomeReduction
import FlowBroker.Proofs.TerminationFanout
import FlowBroker.Proofs.ProcessUrl
import FlowBroker.Proofs.OutcomeGrouping
import FlowBroker.Proofs.TransferTypeText
import FlowBroker.Proofs.Utf8Reading
import FlowBroker.Proofs.RemoteVerdict
import FlowBroker.Proofs.Spelling
import FlowBroker.Proofs.RecordSpelling
import FlowBroker.Proofs.FlowHistory
import FlowBroker.Proofs.TransferUrl
import FlowBroker.Proofs.OptionGroups
