import MailConnection.Account
import MailConnection.Account.Operation
import MailConnection.Account.Record
import MailConnection.Binary64
import MailConnection.ConnectionString.Decode
import MailConnection.ConnectionString.Encode
import MailConnection.ConnectionString.Parts
import MailConnection.Console.Arguments
import MailConnection.Console.Command
import MailConnection.Console.Form
import MailConnection.Console.Help
import MailConnection.Console.Outcome
import MailConnection.Console.Run
import MailConnection.Directory
import MailConnection.Environment
import MailConnection.FilePath
import MailConnection.Files
import MailConnection.Host
import MailConnection.Host.Ipv4
import MailConnection.Host.Ipv6
import MailConnection.NamedConnection
import MailConnection.Note
import MailConnection.Password
import MailConnection.Port
import MailConnection.Scheme
import MailConnection.Security
import MailConnection.Settings
import MailConnection.Settings.Source
import MailConnection.Text.Base64
import MailConnection.Text.Blank
import MailConnection.Text.CaseContext
import MailConnection.Text.Digit
import MailConnection.Text.Integer
import MailConnection.Text.Lowercase
import MailConnection.Text.Numeral
import MailConnection.Text.Percent
import MailConnection.Text.Printable
import MailConnection.Text.Quoted
import MailConnection.Text.Split
import MailConnection.Text.Utf8
import MailConnection.Validation
import MailConnection.Value
import MailConnection.Value.Display
import MailConnection.Value.Json
import MailConnection.Yaml.Content
import MailConnection.Yaml.Cursor
import MailConnection.Yaml.Moment
import MailConnection.Yaml.Node
import MailConnection.Yaml.Print
import MailConnection.Yaml.Problem
import MailConnection.Yaml.Scalar
import MailConnection.Yaml.Tag
import MailConnection.Yaml.Token
import MailConnection.Yaml.Token.Property
import MailConnection.Yaml.Token.Scalar
import MailConnection.Yaml.Token.Stream
import MailConnection.Main
import MailConnection.Proofs.ConnectionString.Reading
import MailConnection.Proofs.ConnectionString.Writing
import MailConnection.Proofs.ConnectionString.NormalForm
import MailConnection.Proofs.ConnectionString.Decoded
import MailConnection.Proofs.ConnectionString.Confinement
import MailConnection.Proofs.ConnectionString.Canonical
import MailConnection.Proofs.Account.InStep
import MailConnection.Proofs.Account.LastCall
import MailConnection.Proofs.Directory.Resolution
import MailConnection.Proofs.Account.Storage
import MailConnection.Proofs.Directory.Ownership
import MailConnection.Proofs.ConnectionString.Veil
import MailConnection.Proofs.Settings.Loading
import MailConnection.Proofs.Console.CommandLine
import MailConnection.Proofs.Console.Secrecy
import MailConnection.Proofs.Console.Ending
import MailConnection.Proofs.Text.Joined
import MailConnection.Proofs.Text.Runs
import MailConnection.Proofs.ConnectionString.Spelling
import MailConnection.Proofs.ConnectionString.UserInfo
import MailConnection.Proofs.Host.Literal
import MailConnection.Proofs.Host.Grammar
import MailConnection.Proofs.ConnectionString.Acceptance
import MailConnection.Proofs.ConnectionString.Encodability
import MailConnection.Proofs.Account.Assignments
import MailConnection.Proofs.Account.Interruption
import MailConnection.Proofs.Scheme.Codec
import MailConnection.Proofs.Console.Given
import MailConnection.Proofs.Console.Request
import MailConnection.Proofs.Directory.Order
import MailConnection.Proofs.Settings.Names
import MailConnection.Proofs.Console.Listing
import MailConnection.Proofs.Settings.FirstFile
import MailConnection.Proofs.NamedConnection.Usability
import MailConnection.Proofs.Account.Sameness
import MailConnection.Proofs.ConnectionString.Escaping
import MailConnection.Proofs.Password.Variables
