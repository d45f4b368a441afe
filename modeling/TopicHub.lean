import TopicHub.Cli.Args
import TopicHub.Cli.Run
import TopicHub.Cli.Similarity
import TopicHub.Config.DotEnv
import TopicHub.Config.Environment
import TopicHub.Config.Ini
import TopicHub.Config.Json5
import TopicHub.Config.Load
import TopicHub.Config.Ron
import TopicHub.Config.Ron.Reader
import TopicHub.Config.Ron.Scalar
import TopicHub.Config.Ron.Syntax
import TopicHub.Config.Ron.Value
import TopicHub.Config.Settings
import TopicHub.Config.Toml
import TopicHub.Config.Toml.Leaf
import TopicHub.Config.Toml.Moment
import TopicHub.Config.Toml.Syntax
import TopicHub.Config.Toml.Token
import TopicHub.Config.Tree
import TopicHub.Config.Yaml
import TopicHub.Decimal.Nearest
import TopicHub.Decimal.Notation
import TopicHub.Decimal.Plain
import TopicHub.Decimal.Shortest
import TopicHub.Fault
import TopicHub.Hub.Broker
import TopicHub.Hub.Dashboard
import TopicHub.Hub.Fanning
import TopicHub.Hub.Journal
import TopicHub.Hub.Operation
import TopicHub.Hub.Outlet
import TopicHub.Hub.Publisher
import TopicHub.Hub.Registry
import TopicHub.Hub.Server
import TopicHub.Hub.Session
import TopicHub.Hub.Topics
import TopicHub.Json.Cursor
import TopicHub.Json.Decode
import TopicHub.Json.Fault
import TopicHub.Json.Print
import TopicHub.Json.Read
import TopicHub.Json.Scalar
import TopicHub.Json.Value
import TopicHub.Logging.Level
import TopicHub.Main
import TopicHub.Naming.CamelCase
import TopicHub.Net.Address
import TopicHub.Net.Dial
import TopicHub.Net.Uri
import TopicHub.Numeric.Order
import TopicHub.Proofs.BandOrder
import TopicHub.Proofs.Broadcast
import TopicHub.Proofs.Dashboard
import TopicHub.Proofs.Decoding
import TopicHub.Proofs.Delivery
import TopicHub.Proofs.DocumentText
import TopicHub.Proofs.EventText
import TopicHub.Proofs.Frames
import TopicHub.Proofs.Handling
import TopicHub.Proofs.Interleaving
import TopicHub.Proofs.KeyRenaming
import TopicHub.Proofs.MessageText
import TopicHub.Proofs.Query
import TopicHub.Proofs.Registry
import TopicHub.Proofs.ScalarText
import TopicHub.Proofs.Sessions
import TopicHub.Proofs.Topics
import TopicHub.Protocol.Handshake
import TopicHub.Protocol.Message
import TopicHub.Suite.Broker
import TopicHub.Suite.Catalog
import TopicHub.Suite.Dashboard
import TopicHub.Suite.Support
import TopicHub.Suite.Transport
import TopicHub.Telemetry.Codec
import TopicHub.Telemetry.Event
import TopicHub.Telemetry.Reading
import TopicHub.Telemetry.Threshold
import TopicHub.Telemetry.Timestamp
import TopicHub.Text.Case
import TopicHub.Text.CaseData
import TopicHub.Text.Class
import TopicHub.Text.ClassData
import TopicHub.Text.Debug
import TopicHub.Text.FormEncoding
import TopicHub.Text.Ident
import TopicHub.Text.IdentData
import TopicHub.Text.Printable
import TopicHub.Text.PrintableData
import TopicHub.Text.Table
import TopicHub.Text.Utf8
import TopicHub.Yaml.Event
import TopicHub.Yaml.Node
import TopicHub.Yaml.Token
import TopicHub.Yaml.Token.Scalar
import TopicHub.Yaml.Token.Scan
import TopicHub.Yaml.Token.State
