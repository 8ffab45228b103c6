import AddonAtlas.Access.Entry
import AddonAtlas.Access.Map
import AddonAtlas.Access.Rule
import AddonAtlas.Addon.Collect
import AddonAtlas.Addon.Module
import AddonAtlas.Chart
import AddonAtlas.Command.Basic
import AddonAtlas.Command.Option
import AddonAtlas.Confidence
import AddonAtlas.Csv.Header
import AddonAtlas.Csv.Row
import AddonAtlas.Diagnostics
import AddonAtlas.Document.Json
import AddonAtlas.Document.Lookup
import AddonAtlas.Document.Plain
import AddonAtlas.Document.Reading
import AddonAtlas.Document.Value
import AddonAtlas.Files.Change
import AddonAtlas.Files.Difference
import AddonAtlas.Files.Lookup
import AddonAtlas.Files.Path
import AddonAtlas.Files.Resolve
import AddonAtlas.Files.Tree
import AddonAtlas.Files.Walk
import AddonAtlas.Foreign
import AddonAtlas.Log
import AddonAtlas.Main
import AddonAtlas.Markup.Attribute
import AddonAtlas.Markup.Comment
import AddonAtlas.Markup.Element
import AddonAtlas.Markup.Record
import AddonAtlas.Markup.Tag
import AddonAtlas.Model.Class
import AddonAtlas.Model.Map
import AddonAtlas.Number.Binary64
import AddonAtlas.Number.Reading
import AddonAtlas.Number.Shortest
import AddonAtlas.Proofs.Access.Cut
import AddonAtlas.Proofs.Access.Page
import AddonAtlas.Proofs.Access.RuleFile
import AddonAtlas.Proofs.Access.Table
import AddonAtlas.Proofs.Addon.Collect
import AddonAtlas.Proofs.Addon.Extension
import AddonAtlas.Proofs.Confidence
import AddonAtlas.Proofs.Csv.Plain
import AddonAtlas.Proofs.Csv.Row
import AddonAtlas.Proofs.Diagnostics
import AddonAtlas.Proofs.Document.Json
import AddonAtlas.Proofs.Document.Order
import AddonAtlas.Proofs.Files.Change
import AddonAtlas.Proofs.Files.Listing
import AddonAtlas.Proofs.Files.Lookup
import AddonAtlas.Proofs.Files.Plain
import AddonAtlas.Proofs.Files.Resolve
import AddonAtlas.Proofs.Files.Tree
import AddonAtlas.Proofs.Files.Walk
import AddonAtlas.Proofs.Log
import AddonAtlas.Proofs.Markup.Blanked
import AddonAtlas.Proofs.Markup.Comment
import AddonAtlas.Proofs.Markup.DataFile
import AddonAtlas.Proofs.Markup.Field
import AddonAtlas.Proofs.Markup.Forest
import AddonAtlas.Proofs.Markup.Nest
import AddonAtlas.Proofs.Markup.Record
import AddonAtlas.Proofs.Markup.Reference
import AddonAtlas.Proofs.Markup.Sibling
import AddonAtlas.Proofs.Markup.Span
import AddonAtlas.Proofs.Markup.Tag
import AddonAtlas.Proofs.Model.Assignment
import AddonAtlas.Proofs.Model.Class
import AddonAtlas.Proofs.Model.Delegation
import AddonAtlas.Proofs.Model.File
import AddonAtlas.Proofs.Model.Header
import AddonAtlas.Proofs.Model.Hotspot
import AddonAtlas.Proofs.Model.Join
import AddonAtlas.Proofs.Model.Map
import AddonAtlas.Proofs.Number.Order
import AddonAtlas.Proofs.Number.Sum
import AddonAtlas.Proofs.Number.Whole
import AddonAtlas.Proofs.Report.Page
import AddonAtlas.Proofs.Report.Score
import AddonAtlas.Proofs.Report.Stamp
import AddonAtlas.Proofs.Report.Time
import AddonAtlas.Proofs.Route.Argument
import AddonAtlas.Proofs.Route.Decorator
import AddonAtlas.Proofs.Run.Again
import AddonAtlas.Proofs.Run.Confidence
import AddonAtlas.Proofs.Run.Draft
import AddonAtlas.Proofs.Run.Frame
import AddonAtlas.Proofs.Run.Inventory
import AddonAtlas.Proofs.Run.Load
import AddonAtlas.Proofs.Run.Refusal
import AddonAtlas.Proofs.Run.Report
import AddonAtlas.Proofs.Run.Repository
import AddonAtlas.Proofs.Run.Scan
import AddonAtlas.Proofs.Run.Summary
import AddonAtlas.Proofs.Run.Total
import AddonAtlas.Proofs.Screen.File
import AddonAtlas.Proofs.Settings.Basic
import AddonAtlas.Proofs.Settings.Own
import AddonAtlas.Proofs.Source.Bracket
import AddonAtlas.Proofs.Source.Field
import AddonAtlas.Proofs.Source.Listing
import AddonAtlas.Proofs.Source.Literal
import AddonAtlas.Proofs.Source.Passage
import AddonAtlas.Proofs.Survey.Agree
import AddonAtlas.Proofs.Survey.Chart
import AddonAtlas.Proofs.Survey.Discover
import AddonAtlas.Proofs.Survey.Pool
import AddonAtlas.Proofs.Survey.Sample
import AddonAtlas.Proofs.Survey.Size
import AddonAtlas.Proofs.Tally
import AddonAtlas.Proofs.Text.Blank
import AddonAtlas.Proofs.Text.Join
import AddonAtlas.Proofs.Text.Order
import AddonAtlas.Proofs.Text.Scan
import AddonAtlas.Proofs.Text.Start
import AddonAtlas.Report.Page
import AddonAtlas.Report.Stamp
import AddonAtlas.Report.Time
import AddonAtlas.Route.Entry
import AddonAtlas.Route.Map
import AddonAtlas.Run.Basic
import AddonAtlas.Run.Fault
import AddonAtlas.Run.Load
import AddonAtlas.Run.Scan
import AddonAtlas.Screen.Entry
import AddonAtlas.Screen.Map
import AddonAtlas.Service.Basic
import AddonAtlas.Settings.Basic
import AddonAtlas.Settings.Limit
import AddonAtlas.Source.Bracket
import AddonAtlas.Source.Field
import AddonAtlas.Source.Literal
import AddonAtlas.Summary
import AddonAtlas.Survey.BuiltIn
import AddonAtlas.Survey.Plugin
import AddonAtlas.Tally
import AddonAtlas.Text.Blank
import AddonAtlas.Text.Case
import AddonAtlas.Text.CaseTable
import AddonAtlas.Text.Digit
import AddonAtlas.Text.Order
import AddonAtlas.Text.Printable
import AddonAtlas.Text.Quoted
import AddonAtlas.Text.Range
import AddonAtlas.Text.Scan
import AddonAtlas.Text.Utf8
import AddonAtlas.Text.Word
import AddonAtlas.Yaml.Block
import AddonAtlas.Yaml.Cursor
import AddonAtlas.Yaml.Data
import AddonAtlas.Yaml.Fault
import AddonAtlas.Yaml.Kind
import AddonAtlas.Yaml.Moment
import AddonAtlas.Yaml.Node
import AddonAtlas.Yaml.Plain
import AddonAtlas.Yaml.Quoted
import AddonAtlas.Yaml.Scalar
import AddonAtlas.Yaml.Tag
import AddonAtlas.Yaml.Token
import AddonAtlas.Yaml.Value
