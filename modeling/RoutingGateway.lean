import RoutingGateway.Configuration
import RoutingGateway.Container
import RoutingGateway.Coordinate
import RoutingGateway.Decimal.Binary64
import RoutingGateway.Decimal.Layout
import RoutingGateway.Decimal.Numeral
import RoutingGateway.Decimal.Shortest
import RoutingGateway.Engine
import RoutingGateway.Event
import RoutingGateway.FrontEnd
import RoutingGateway.GatewayError
import RoutingGateway.GreatCircle
import RoutingGateway.Http.Header
import RoutingGateway.Http.Message
import RoutingGateway.Http.Method
import RoutingGateway.Http.Request
import RoutingGateway.Http.RequestId
import RoutingGateway.Http.Response
import RoutingGateway.Http.Uri
import RoutingGateway.Json.Reader
import RoutingGateway.Json.Value
import RoutingGateway.Json.Writer
import RoutingGateway.Launch
import RoutingGateway.LittleEndian
import RoutingGateway.LogFilter
import RoutingGateway.Main
import RoutingGateway.Middleware
import RoutingGateway.Network.SocketAddress
import RoutingGateway.Parameters
import RoutingGateway.Path.Branch
import RoutingGateway.Path.Pattern
import RoutingGateway.Path.Table
import RoutingGateway.Proofs.Decimal.Numeral
import RoutingGateway.Proofs.Query.Grammar
import RoutingGateway.Proofs.Text.Separated
import RoutingGateway.Query.Pair
import RoutingGateway.Query.Reading
import RoutingGateway.Query.Value
import RoutingGateway.Refusal
import RoutingGateway.Router
import RoutingGateway.Server
import RoutingGateway.Service
import RoutingGateway.Text.Hex
import RoutingGateway.Text.Quoted
import RoutingGateway.Text.Shown
import RoutingGateway.Text.Split
import RoutingGateway.Validation
import RoutingGateway.Proofs.Query.Value
import RoutingGateway.Proofs.Query.Pair
import RoutingGateway.Proofs.Query.Reading
import RoutingGateway.Proofs.Query.Parser
import RoutingGateway.Proofs.Service.Pipeline
import RoutingGateway.Proofs.Path.BuiltIn
import RoutingGateway.Proofs.Server.Target
import RoutingGateway.Proofs.Json.Writer
import RoutingGateway.Proofs.Middleware
import RoutingGateway.Proofs.Server.Position
import RoutingGateway.Proofs.LittleEndian
import RoutingGateway.Proofs.GreatCircle
import RoutingGateway.Proofs.Query.Order
import RoutingGateway.Proofs.Service.Reply
import RoutingGateway.Proofs.Server.Decision
import RoutingGateway.Proofs.Query.Layouts
import RoutingGateway.Proofs.Server.Styles
import RoutingGateway.Proofs.Query.WellFormed
import RoutingGateway.Proofs.Query.Writing
import RoutingGateway.Proofs.Query.Places
import RoutingGateway.Proofs.Server.Stock
import RoutingGateway.Proofs.Http.Header
import RoutingGateway.Proofs.Http.Uri
import RoutingGateway.Proofs.Server.FrontEnd
import RoutingGateway.Proofs.Server.Agreement
import RoutingGateway.Proofs.Server.Traceable
import RoutingGateway.Proofs.GreatCircle.Document
import RoutingGateway.Proofs.Query.Entries
import RoutingGateway.Proofs.Service.Sizes
import RoutingGateway.Proofs.Server.Passage
import RoutingGateway.Proofs.Server.Place
import RoutingGateway.Proofs.Json.Document
import RoutingGateway.Proofs.GreatCircle.Verdict
import RoutingGateway.Proofs.Service.Telemetry
import RoutingGateway.Proofs.Path.Kind
import RoutingGateway.Proofs.Container
import RoutingGateway.Proofs.Http.Response
import RoutingGateway.Proofs.Path.Remnant
import RoutingGateway.Proofs.Text.Utf8
import RoutingGateway.Proofs.Router
import RoutingGateway.Proofs.Json.Reader
import RoutingGateway.Proofs.Server.Documents
import RoutingGateway.Proofs.Query.Scan
import RoutingGateway.Proofs.Service.Log
import RoutingGateway.Proofs.Configuration
