import Stencil.Body
import Stencil.Calendar.Civil
import Stencil.Calendar.Format
import Stencil.Calendar.Moment
import Stencil.Calendar.Pattern
import Stencil.Codec.Base64
import Stencil.Codec.Form
import Stencil.Codec.Hex
import Stencil.Codec.Percent
import Stencil.Config.Basic
import Stencil.Config.Document
import Stencil.Decimal.Binary64
import Stencil.Decimal.Layout
import Stencil.Decimal.Rounding
import Stencil.Decimal.Shortest
import Stencil.Delimiters
import Stencil.Dict
import Stencil.Engine
import Stencil.Error
import Stencil.Filter
import Stencil.Json.Lexeme
import Stencil.Json.Range
import Stencil.Json.Tree
import Stencil.Json.Write
import Stencil.Linking
import Stencil.Names
import Stencil.Power
import Stencil.Printer
import Stencil.Render
import Stencil.Segments
import Stencil.Template
import Stencil.Text.Basic
import Stencil.Text.Blank
import Stencil.Text.EditDistance
import Stencil.Text.Numeral
import Stencil.Text.Quoted
import Stencil.Text.Search
import Stencil.Text.Shapeless
import Stencil.Text.Utf8
import Stencil.Token
import Stencil.Url.Basic
import Stencil.Url.Domain.Ascii
import Stencil.Url.Domain.Classes
import Stencil.Url.Domain.Compose
import Stencil.Url.Domain.Mapping
import Stencil.Url.Domain.Punycode
import Stencil.Url.Domain.Runs
import Stencil.Url.Host
import Stencil.Url.Ip
import Stencil.Url.Parse
import Stencil.Url.Path
import Stencil.UrlTemplate
import Stencil.Value
import Stencil.Value.Inspect
import Stencil.Proofs.ByteOrder
import Stencil.Proofs.Canonical
import Stencil.Proofs.Linked
import Stencil.Proofs.Meaning
import Stencil.Proofs.Inline
import Stencil.Proofs.Cycles
import Stencil.Proofs.AddressTemplate
import Stencil.Proofs.ByName
import Stencil.Proofs.Session
import Stencil.Proofs.ReadBack
import Stencil.Proofs.Nesting
import Stencil.Proofs.Decoding
import Stencil.Proofs.Outcomes
import Stencil.Proofs.Independence
import Stencil.Proofs.Denotation
import Stencil.Proofs.Encodings
import Stencil.Proofs.Delivery
import Stencil.Proofs.Textual
import Stencil.Proofs.Finding
import Stencil.Proofs.FilterChain
import Stencil.Proofs.FormReading
import Stencil.Proofs.AddressParts
import Stencil.Proofs.AddressTail
import Stencil.Proofs.QueryTemplate
import Stencil.Proofs.QueryTokens
import Stencil.Proofs.WritingBack
import Stencil.Proofs.Concatenation
import Stencil.Proofs.Unexpanding
import Stencil.Proofs.EditScripts
import Stencil.Proofs.Suggestions
import Stencil.Proofs.FilterSuggestions
import Stencil.Proofs.TokenRoutes
import Stencil.Proofs.WrittenConfig
import Stencil.Proofs.Appending
import Stencil.Proofs.Declarations
import Stencil.Proofs.Assembly
