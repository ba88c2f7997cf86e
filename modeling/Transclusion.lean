import Transclusion.Command.Config
import Transclusion.Command.Expand
import Transclusion.Command.Line
import Transclusion.Files.Path
import Transclusion.Files.Resolver
import Transclusion.Files.System
import Transclusion.Fixup.Context
import Transclusion.Fixup.Options
import Transclusion.Fragment.ElementPointer
import Transclusion.Fragment.Error
import Transclusion.Fragment.Expression
import Transclusion.Fragment.Identifier
import Transclusion.Fragment.Integrity
import Transclusion.Fragment.NamespaceBinding
import Transclusion.Fragment.ParseType
import Transclusion.Fragment.Registry
import Transclusion.Fragment.Scheme
import Transclusion.Fragment.Search
import Transclusion.Fragment.Term
import Transclusion.Fragment.TextRange
import Transclusion.Inclusion.Attributes
import Transclusion.Inclusion.Control
import Transclusion.Inclusion.Error
import Transclusion.Inclusion.Expansion
import Transclusion.Inclusion.Loop
import Transclusion.Inclusion.Resolver
import Transclusion.Inclusion.Selection
import Transclusion.Main
import Transclusion.Markup.Builder
import Transclusion.Markup.Document
import Transclusion.Markup.Element
import Transclusion.Markup.Equality
import Transclusion.Markup.Error
import Transclusion.Markup.Event
import Transclusion.Markup.Forest
import Transclusion.Markup.Name
import Transclusion.Markup.Nodes
import Transclusion.Markup.Reading
import Transclusion.Markup.Reference
import Transclusion.Markup.Tag
import Transclusion.Markup.Writing
import Transclusion.Number.Decimal
import Transclusion.Number.Double
import Transclusion.Number.Shortest
import Transclusion.Table
import Transclusion.Text.Blank
import Transclusion.Text.Cased
import Transclusion.Text.Composition
import Transclusion.Text.Cut
import Transclusion.Text.Digest
import Transclusion.Text.Encoding
import Transclusion.Text.Indent
import Transclusion.Text.Index
import Transclusion.Text.Letter
import Transclusion.Text.LowerCase
import Transclusion.Text.Mark
import Transclusion.Text.Numeral
import Transclusion.Text.Ranges
import Transclusion.Text.Utf8
import Transclusion.Text.Word
import Transclusion.Toml.Item
import Transclusion.Toml.Reading
import Transclusion.Toml.Scalar
import Transclusion.Uri.Basic
import Transclusion.Uri.Direction
import Transclusion.Uri.DomainChar
import Transclusion.Uri.Escape
import Transclusion.Uri.FilePath
import Transclusion.Uri.Host
import Transclusion.Uri.Joiner
import Transclusion.Uri.Label
import Transclusion.Uri.Path
import Transclusion.Uri.Punycode
import Transclusion.Uri.Reading
import Transclusion.Uri.Resolve
import Transclusion.XPath.Axes
import Transclusion.XPath.Error
import Transclusion.XPath.Evaluation
import Transclusion.XPath.Expr
import Transclusion.XPath.Function
import Transclusion.XPath.NodeRef
import Transclusion.XPath.Parser
import Transclusion.XPath.Token
import Transclusion.XPath.Value
import Transclusion.Proofs.Table
import Transclusion.Proofs.Markup.GivenPrefixes
import Transclusion.Proofs.Inclusion.Effects
import Transclusion.Proofs.Inclusion.Calls
import Transclusion.Proofs.Inclusion.StackDiscipline
import Transclusion.Proofs.Markup.Moves
import Transclusion.Proofs.Markup.Merged
import Transclusion.Proofs.Markup.Names
import Transclusion.Proofs.Inclusion.Expanded
import Transclusion.Proofs.Inclusion.Depth
import Transclusion.Proofs.Inclusion.Endless
import Transclusion.Proofs.Markup.Arena
import Transclusion.Proofs.Markup.ArenaBuilder
import Transclusion.Proofs.Markup.Escapes
import Transclusion.Proofs.Markup.WrittenTags
import Transclusion.Proofs.Markup.WrittenElements
import Transclusion.Proofs.Markup.WrittenLeaves
import Transclusion.Proofs.Markup.Building
import Transclusion.Proofs.Markup.FaithfulCopies
import Transclusion.Proofs.Markup.LastingCopies
import Transclusion.Proofs.Markup.Kinds
import Transclusion.Proofs.Markup.Counting
import Transclusion.Proofs.Fragment.Copies
import Transclusion.Proofs.Inclusion.Sites
import Transclusion.Proofs.Inclusion.Ending
import Transclusion.Proofs.Fixup.TopElements
import Transclusion.Proofs.Markup.Excerpt
import Transclusion.Proofs.Inclusion.Web
import Transclusion.Proofs.Inclusion.WholeInclusion
import Transclusion.Proofs.Inclusion.RecordedBase
import Transclusion.Proofs.Fragment.LoopCheck
import Transclusion.Proofs.Fragment.BareIds
import Transclusion.Proofs.Fragment.FallThrough
import Transclusion.Proofs.Inclusion.Mirroring
import Transclusion.Proofs.Inclusion.InPlace
import Transclusion.Proofs.Fixup.Attributes
import Transclusion.Proofs.Markup.Languages
import Transclusion.Proofs.Fixup.Carried
import Transclusion.Proofs.Fragment.CarriedSelections
import Transclusion.Proofs.Inclusion.Tracing
import Transclusion.Proofs.Inclusion.KeptLanguage
import Transclusion.Proofs.Markup.Recast
import Transclusion.Proofs.Markup.DeepEquality
import Transclusion.Proofs.Markup.ReadBack
import Transclusion.Proofs.Markup.RoundTrip
import Transclusion.Proofs.Fixup.BoundNames
import Transclusion.Proofs.Fixup.AttributeEdits
import Transclusion.Proofs.Markup.ReadNames
import Transclusion.Proofs.Markup.ReadDocuments
import Transclusion.Proofs.Markup.Nesting
import Transclusion.Proofs.Markup.LexicalScoping
import Transclusion.Proofs.Markup.Merging
import Transclusion.Proofs.Inclusion.Twins
import Transclusion.Proofs.Inclusion.FailedInclude
import Transclusion.Proofs.Inclusion.FallbackLanguage
import Transclusion.Proofs.Markup.Retopped
import Transclusion.Proofs.XPath.NodeSets
import Transclusion.Proofs.XPath.NodesButIds
import Transclusion.Proofs.XPath.UnreadIds
import Transclusion.Proofs.Fragment.UnreadIds
import Transclusion.Proofs.Inclusion.SetXmlId
import Transclusion.Proofs.Inclusion.Invariants
import Transclusion.Proofs.Inclusion.WrittenOutput
import Transclusion.Proofs.XPath.Grammar
import Transclusion.Proofs.XPath.ReadPhrases
import Transclusion.Proofs.XPath.Acceptance
import Transclusion.Proofs.Fragment.IntegrityItems
import Transclusion.Proofs.Fragment.WrittenTerms
import Transclusion.Proofs.Fragment.ShortForms
import Transclusion.Proofs.Fragment.RangeGrammar
import Transclusion.Proofs.Fragment.RangeCuts
import Transclusion.Proofs.Fragment.LineReferences
import Transclusion.Proofs.Fragment.SearchGrammar
import Transclusion.Proofs.Fragment.SearchedBlocks
import Transclusion.Proofs.Fragment.SelectedTexts
import Transclusion.Proofs.Fragment.ChildSequences
import Transclusion.Proofs.Fragment.NamedElements
import Transclusion.Proofs.Inclusion.OpaqueTexts
import Transclusion.Proofs.Text.Indentation
import Transclusion.Proofs.Markup.AnchoredNames
import Transclusion.Proofs.XPath.LinkedAxes
import Transclusion.Proofs.XPath.AxisPartition
import Transclusion.Proofs.XPath.PathComposition
import Transclusion.Proofs.XPath.TokenEnds
import Transclusion.Proofs.XPath.TokenSpacing
import Transclusion.Proofs.Inclusion.OutermostControls
import Transclusion.Proofs.Inclusion.Walking
import Transclusion.Proofs.Fixup.FixedDocuments
import Transclusion.Proofs.Inclusion.RenamedTops
import Transclusion.Proofs.Uri.DomainNames
