import ComponentBook.Text.Quoted
import ComponentBook.Text.Word
import ComponentBook.Text.Digit
import ComponentBook.Text.Lines
import ComponentBook.Text.Caseless
import ComponentBook.Script.ComponentName
import ComponentBook.Script.DocComment
import ComponentBook.Script.Example
import ComponentBook.Script.Literal
import ComponentBook.Property.Basic
import ComponentBook.Property.ObjectDeclaration
import ComponentBook.Property.AssignedDefault
import ComponentBook.Property.InterfaceDeclaration
import ComponentBook.Property.Extraction
import ComponentBook.Component.Basic
import ComponentBook.Text.Dedent
import ComponentBook.Component.Usage
import ComponentBook.Markdown.Page
import ComponentBook.Markdown.Description
import ComponentBook.Index.Grouping
import ComponentBook.Template.Basic
import ComponentBook.Template.Parse
import ComponentBook.Index.Page
import ComponentBook.Disk.Basic
import ComponentBook.Number.Reading
import ComponentBook.Number.Shortest
import ComponentBook.Watch.Run
import ComponentBook.World.Basic
import ComponentBook.Settings.Loading
import ComponentBook.World.Opening
import ComponentBook.Json.Writing
import ComponentBook.Service.Answer
import ComponentBook.CommandLine.Run
import ComponentBook.Main
import ComponentBook.Script.Place
import ComponentBook.Proofs.Batch.HandEdited
import ComponentBook.Proofs.Batch.Stability
import ComponentBook.Proofs.Batch.Confinement
import ComponentBook.Proofs.Batch.Retention
import ComponentBook.Proofs.Markdown.Canonical
import ComponentBook.Proofs.Text.Order
import ComponentBook.Proofs.Disk.Directory
import ComponentBook.Proofs.Store.Agreement
import ComponentBook.Proofs.Batch.Conversation
import ComponentBook.Proofs.World.Conversation
import ComponentBook.Proofs.Batch.Contract
import ComponentBook.Proofs.Disk.Sound
import ComponentBook.Proofs.Store.Steady
import ComponentBook.Proofs.World.Pages
import ComponentBook.Proofs.Service.Serving
import ComponentBook.Proofs.Service.Conversation
import ComponentBook.Proofs.Service.Mirror
import ComponentBook.Proofs.Watch.Looking
import ComponentBook.Proofs.Watch.Documenting
import ComponentBook.Proofs.Batch.Order
import ComponentBook.Proofs.Batch.PageStructure
import ComponentBook.Proofs.Component.ZonesRoundTrip
import ComponentBook.Proofs.Component.HiddenScript
import ComponentBook.Proofs.Property.ObjectRoundTrip
import ComponentBook.Proofs.Property.InterfaceRoundTrip
import ComponentBook.Proofs.Markup.Spans
import ComponentBook.Proofs.Script.Bracket
import ComponentBook.Proofs.Markdown.PlacedLines
import ComponentBook.Proofs.Markdown.Joined
import ComponentBook.Proofs.Index.Layout
import ComponentBook.Proofs.Markdown.PropertyTable
import ComponentBook.Proofs.Property.DefaultExpression
import ComponentBook.Proofs.Store.IndexListing
import ComponentBook.Proofs.Property.CommentedScript
import ComponentBook.Proofs.Property.TypedEntry
import ComponentBook.Proofs.Property.MemberPlace
import ComponentBook.Proofs.Property.LiteralType
import ComponentBook.Proofs.Property.MemberLines
import ComponentBook.Proofs.Script.DecoratedLines
import ComponentBook.Proofs.Script.ComponentName
import ComponentBook.Proofs.Property.AssignedDefault
import ComponentBook.Proofs.Source.Finding
import ComponentBook.Proofs.Property.TaggedComment
import ComponentBook.Proofs.Component.UsageDefaults
import ComponentBook.Proofs.Property.Merging
import ComponentBook.Proofs.Number.Written
import ComponentBook.Proofs.Settings.Refusal
import ComponentBook.Proofs.Source.Membership
import ComponentBook.Proofs.Git.Naming
import ComponentBook.Proofs.Batch.Staged
import ComponentBook.Proofs.Script.Rounds
import ComponentBook.Proofs.Component.StyleLanguage
