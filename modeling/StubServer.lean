import StubServer.Bindings
import StubServer.CommandLine.Options
import StubServer.CommandLine.Run
import StubServer.CommandLine.Sample
import StubServer.Config.Basic
import StubServer.Config.Document
import StubServer.Config.Load
import StubServer.Config.Validate
import StubServer.Draws
import StubServer.Fake.Catalogue
import StubServer.Fake.Dates
import StubServer.Fake.Draw
import StubServer.Fake.Making
import StubServer.Fake.Words
import StubServer.Http.Methods
import StubServer.Http.QueryString
import StubServer.Http.Request
import StubServer.Http.Response
import StubServer.Http.View
import StubServer.Json.Basic
import StubServer.Json.Document
import StubServer.Json.Parse
import StubServer.Json.Read
import StubServer.Main
import StubServer.Number.Binary
import StubServer.Number.Integer
import StubServer.Number.Shortest
import StubServer.Number.Text
import StubServer.Pattern.Basic
import StubServer.Pattern.CategoryTable
import StubServer.Pattern.CharClass
import StubServer.Pattern.Read
import StubServer.Pattern.ScriptTable
import StubServer.Proofs.Accounting
import StubServer.Proofs.Caching
import StubServer.Proofs.Candidates
import StubServer.Proofs.Capturing
import StubServer.Proofs.CaseFolding
import StubServer.Proofs.CheckDigit
import StubServer.Proofs.Clauses
import StubServer.Proofs.ComplexSegment
import StubServer.Proofs.Concatenation
import StubServer.Proofs.Congruence
import StubServer.Proofs.Conjunction
import StubServer.Proofs.Connectives
import StubServer.Proofs.ConstraintText
import StubServer.Proofs.CookieHeader
import StubServer.Proofs.Cutting
import StubServer.Proofs.DateWindow
import StubServer.Proofs.DrawBounds
import StubServer.Proofs.Drawing
import StubServer.Proofs.FaultPlaces
import StubServer.Proofs.Filling
import StubServer.Proofs.Framing
import StubServer.Proofs.FunctionNames
import StubServer.Proofs.Generators
import StubServer.Proofs.Grammar
import StubServer.Proofs.History
import StubServer.Proofs.Independence
import StubServer.Proofs.Iterations
import StubServer.Proofs.JsonText
import StubServer.Proofs.Lookup
import StubServer.Proofs.Matching
import StubServer.Proofs.Ordering
import StubServer.Proofs.Outcome
import StubServer.Proofs.PartialInputs
import StubServer.Proofs.PathSegments
import StubServer.Proofs.PatternSearch
import StubServer.Proofs.Picking
import StubServer.Proofs.Pieces
import StubServer.Proofs.PrintedTemplate
import StubServer.Proofs.Printing
import StubServer.Proofs.QueryEncoding
import StubServer.Proofs.QueryEscapes
import StubServer.Proofs.Records
import StubServer.Proofs.RepeatCount
import StubServer.Proofs.Reproducible
import StubServer.Proofs.RequestLine
import StubServer.Proofs.Restart
import StubServer.Proofs.Rotation
import StubServer.Proofs.RoundTrip
import StubServer.Proofs.RouteTemplate
import StubServer.Proofs.RuleSources
import StubServer.Proofs.ScopeHistory
import StubServer.Proofs.SegmentPattern
import StubServer.Proofs.Separators
import StubServer.Proofs.SharedView
import StubServer.Proofs.Spelling
import StubServer.Proofs.StaticText
import StubServer.Proofs.TemplateFailure
import StubServer.Proofs.TemplateShape
import StubServer.Proofs.Tightening
import StubServer.Proofs.TokenCursor
import StubServer.Proofs.Turns
import StubServer.Proofs.WellFormedAnswers
import StubServer.Rule.Basic
import StubServer.Rule.Document
import StubServer.Server
import StubServer.Store.Basic
import StubServer.Store.Select
import StubServer.Template.Arguments
import StubServer.Template.Compile
import StubServer.Template.Error
import StubServer.Template.Function
import StubServer.Template.Function.Array
import StubServer.Template.Function.Math
import StubServer.Template.Function.Request
import StubServer.Template.Function.Text
import StubServer.Template.Node
import StubServer.Template.Parse
import StubServer.Template.Render
import StubServer.Template.Rendering
import StubServer.Template.Scan
import StubServer.Template.Scopes
import StubServer.Template.Token
import StubServer.Template.Value
import StubServer.Text.Ascii
import StubServer.Text.Blank
import StubServer.Text.Case
import StubServer.Text.CaseTable
import StubServer.Text.CharTable
import StubServer.Text.Split
import StubServer.Text.Utf8
import StubServer.Time.Calendar
import StubServer.Time.Instant
import StubServer.Time.Read
import StubServer.Url.Basic
import StubServer.Url.Constraint
import StubServer.Url.Match
import StubServer.Url.Read
import StubServer.Yaml.Block
