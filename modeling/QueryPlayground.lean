import QueryPlayground.Binary64.Printing
import QueryPlayground.Text.Blank
import QueryPlayground.Text.Digit
import QueryPlayground.Text.Word
import QueryPlayground.Text.Lowercase
import QueryPlayground.Text.Quoted
import QueryPlayground.Binary64.Reading
import QueryPlayground.Json.Display
import QueryPlayground.Json.Reader
import QueryPlayground.Page.Model
import QueryPlayground.Page.Surface
import QueryPlayground.Engine.Payload
import QueryPlayground.Engine.Seed
import QueryPlayground.Service.Client
import QueryPlayground.Session.Playground
import QueryPlayground.Settings.Basic
import QueryPlayground.Files.Volume
import QueryPlayground.Main
import QueryPlayground.Proofs.Json.Numeral
import QueryPlayground.Proofs.Json.RoundTrip
import QueryPlayground.Proofs.Page.Literals
import QueryPlayground.Proofs.Page.Markup
import QueryPlayground.Proofs.Page.CacheEntry
import QueryPlayground.Proofs.Page.Traversal
import QueryPlayground.Proofs.Session.Answers
import QueryPlayground.Proofs.Session.Display
import QueryPlayground.Proofs.Session.Overlap
import QueryPlayground.Proofs.Page.Tags
import QueryPlayground.Proofs.Json.Blank
import QueryPlayground.Proofs.Page.Kinds
import QueryPlayground.Proofs.Page.Noninterference
import QueryPlayground.Proofs.Page.TableText
import QueryPlayground.Proofs.Session.Verdict
import QueryPlayground.Proofs.Settings.Members
import QueryPlayground.Proofs.Yaml.Names
import QueryPlayground.Proofs.Settings.Precedence
import QueryPlayground.Proofs.Binary64.Range
import QueryPlayground.Proofs.Settings.Timeout
import QueryPlayground.Proofs.Session.Courses
import QueryPlayground.Proofs.CommandLine.JsonOutput
import QueryPlayground.Proofs.Session.HealthCheck
import QueryPlayground.Proofs.Session.Escape
import QueryPlayground.Proofs.CommandLine.LoadFaults
import QueryPlayground.Proofs.Text.Trim
import QueryPlayground.Proofs.Service.Body
import QueryPlayground.Proofs.Session.Echo
import QueryPlayground.Proofs.Page.TokenGrammar
import QueryPlayground.Proofs.Page.Markers
import QueryPlayground.Proofs.Service.Report
import QueryPlayground.Proofs.Page.Segments
import QueryPlayground.Proofs.Page.SampleBlocks
import QueryPlayground.Proofs.Settings.Merging
import QueryPlayground.Proofs.Settings.Changes
import QueryPlayground.Proofs.Engine.Reach
import QueryPlayground.Proofs.Service.Endpoint
import QueryPlayground.Proofs.Settings.ModeValue
import QueryPlayground.Proofs.Settings.Startup
import QueryPlayground.Proofs.Binary64.Nearest
import QueryPlayground.Proofs.Binary64.Rounding
import QueryPlayground.Proofs.Binary64.Order
import QueryPlayground.Proofs.Session.Delay
import QueryPlayground.Proofs.Page.Elapsed
import QueryPlayground.Proofs.Session.Timing
