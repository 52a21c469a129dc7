import TokenEcho.Files.Tree
import TokenEcho.Main
import TokenEcho.Proofs.Text.CharClass
import TokenEcho.Proofs.Text.Slice
import TokenEcho.Proofs.Source.Place
import TokenEcho.Proofs.Source.Overflow
import TokenEcho.Proofs.Source.Checked
import TokenEcho.Proofs.Token.Grammar
import TokenEcho.Proofs.Token.Run
import TokenEcho.Proofs.Token.Places
import TokenEcho.Proofs.Token.Ranges
import TokenEcho.Proofs.Token.Quotes
import TokenEcho.Proofs.Token.Seam
import TokenEcho.Proofs.Token.Lookahead
import TokenEcho.Proofs.Token.Calls
import TokenEcho.Proofs.Token.Spacing
import TokenEcho.Proofs.Token.Checked
import TokenEcho.Proofs.Token.Limit
import TokenEcho.Proofs.Manifest.Lookup
import TokenEcho.Proofs.Session.Run
import TokenEcho.Proofs.Session.Early
import TokenEcho.Proofs.Session.Whole
import TokenEcho.Proofs.Session.Room
import TokenEcho.Proofs.Session.Presentation
import TokenEcho.Proofs.Session.Refusal
import TokenEcho.Proofs.Text.Encoding
import TokenEcho.Proofs.Text.Lines
import TokenEcho.Proofs.Diagnostic.Location
import TokenEcho.Proofs.Session.Retyping
import TokenEcho.Proofs.Source.LineEnds
import TokenEcho.Proofs.Text.Numeral
import TokenEcho.Proofs.Token.Closing
import TokenEcho.Proofs.Token.EchoLines
import TokenEcho.Proofs.Json.Reader
import TokenEcho.Proofs.Json.Lines
import TokenEcho.Proofs.Token.JsonText
import TokenEcho.Proofs.Files.Path
import TokenEcho.Proofs.Manifest.Search
import TokenEcho.Proofs.Source.Reading
import TokenEcho.Proofs.Diagnostic.Label
import TokenEcho.Proofs.CommandLine.Order
import TokenEcho.Proofs.Toml.Document
import TokenEcho.Proofs.Manifest.Fields
import TokenEcho.Proofs.Manifest.Understood
