import Marginalia.CommandLine.Arguments
import Marginalia.CommandLine.Program
import Marginalia.CommandLine.Standard
import Marginalia.Dict
import Marginalia.Disk.Basic
import Marginalia.Disk.Lemmas
import Marginalia.Disk.Write
import Marginalia.Encoding.Basic
import Marginalia.Encoding.Codec
import Marginalia.Encoding.Utf8
import Marginalia.Failure
import Marginalia.Highlighter.Basic
import Marginalia.Highlighter.Lines
import Marginalia.Highlighter.Wrapper
import Marginalia.Html
import Marginalia.Language.Basic
import Marginalia.Language.Divider
import Marginalia.Language.Registry
import Marginalia.Layout
import Marginalia.Main
import Marginalia.Markup.Basic
import Marginalia.Markup.Block
import Marginalia.Markup.Emphasis
import Marginalia.Markup.Extension
import Marginalia.Markup.Fence
import Marginalia.Markup.Inline
import Marginalia.Markup.Line
import Marginalia.Markup.Reference
import Marginalia.Markup.Table
import Marginalia.Notice
import Marginalia.Page.Basic
import Marginalia.Page.Colours
import Marginalia.Page.Stylesheet
import Marginalia.Path
import Marginalia.Proofs.CollectionOrder
import Marginalia.Proofs.DiskUpdate
import Marginalia.Proofs.DiskWalk
import Marginalia.Proofs.DividerRoundTrip
import Marginalia.Proofs.DividerSplit
import Marginalia.Proofs.HighlighterRun
import Marginalia.Proofs.HtmlText
import Marginalia.Proofs.LineRendering
import Marginalia.Proofs.LinkedWalks
import Marginalia.Proofs.NormalPaths
import Marginalia.Proofs.PagePlaces
import Marginalia.Proofs.PageRows
import Marginalia.Proofs.PagesBelow
import Marginalia.Proofs.LinkTargets
import Marginalia.Proofs.PathCharacters
import Marginalia.Proofs.PathNames
import Marginalia.Proofs.ReadableText
import Marginalia.Proofs.RegistryRows
import Marginalia.Proofs.RunEffect
import Marginalia.Proofs.RunFailures
import Marginalia.Proofs.RunInvariants
import Marginalia.Proofs.RunProgress
import Marginalia.Proofs.RunRecord
import Marginalia.Proofs.RunSteps
import Marginalia.Proofs.SectionAlignment
import Marginalia.Proofs.SectionBlocks
import Marginalia.Proofs.SectionPass
import Marginalia.Proofs.TextLines
import Marginalia.Proofs.Utf8RoundTrip
import Marginalia.Run.Basic
import Marginalia.Run.Context
import Marginalia.Section.Basic
import Marginalia.SelfTest
import Marginalia.Settings.Basic
import Marginalia.Settings.EnvFile
import Marginalia.Shell.Arithmetic
import Marginalia.Shell.Basic
import Marginalia.Shell.Builtin
import Marginalia.Shell.Calculation
import Marginalia.Shell.Characters
import Marginalia.Shell.Columns
import Marginalia.Shell.Condition
import Marginalia.Shell.Conversion
import Marginalia.Shell.Copying
import Marginalia.Shell.Counting
import Marginalia.Shell.Decimal
import Marginalia.Shell.Dump
import Marginalia.Shell.Editor.Basic
import Marginalia.Shell.Editor.Grammar
import Marginalia.Shell.Editor.Program
import Marginalia.Shell.Editor.Run
import Marginalia.Shell.Expansion
import Marginalia.Shell.Fields
import Marginalia.Shell.Files
import Marginalia.Shell.Grammar
import Marginalia.Shell.Interpreter
import Marginalia.Shell.Launch
import Marginalia.Shell.Machine
import Marginalia.Shell.Naming
import Marginalia.Shell.Pattern
import Marginalia.Shell.Printing
import Marginalia.Shell.Programs
import Marginalia.Shell.Regex
import Marginalia.Shell.Request
import Marginalia.Shell.Rule.Basic
import Marginalia.Shell.Rule.Flow
import Marginalia.Shell.Rule.Grammar
import Marginalia.Shell.Rule.Pattern
import Marginalia.Shell.Rule.Program
import Marginalia.Shell.Rule.Run
import Marginalia.Shell.Rule.Sheet
import Marginalia.Shell.Rule.Split
import Marginalia.Shell.Rule.Table
import Marginalia.Shell.Rule.Token
import Marginalia.Shell.Rule.Value
import Marginalia.Shell.Script
import Marginalia.Shell.Search
import Marginalia.Shell.Signal
import Marginalia.Shell.Sorting
import Marginalia.Shell.Token
import Marginalia.Text.Basic
import Marginalia.Text.Blank
import Marginalia.Text.Digit
import Marginalia.Text.Lowercase
import Marginalia.Text.Printable
import Marginalia.Text.Quoted
import Marginalia.Text.Word
import Marginalia.Proofs.FailFast
import Marginalia.Proofs.PageCharacters
import Marginalia.Proofs.PageLinks
import Marginalia.Proofs.SharedPages
import Marginalia.Proofs.RunReport
import Marginalia.Proofs.SourcesSpared
import Marginalia.Proofs.DiskGrowth
import Marginalia.Proofs.SecondTraversal
import Marginalia.Proofs.DiskRepeat
import Marginalia.Proofs.SecondRun
import Marginalia.Proofs.LiteratePrinting
import Marginalia.Proofs.SelfTestVerdict
import Marginalia.Proofs.DividerInterleaving
import Marginalia.Proofs.SectionUpdate
import Marginalia.Proofs.SessionRecord
import Marginalia.Proofs.EncodingRoundTrip
import Marginalia.Proofs.QuietRuns
import Marginalia.Proofs.DividerInverse
import Marginalia.Proofs.TextSearch
import Marginalia.Proofs.CommentLines
import Marginalia.Proofs.LineEndings
import Marginalia.Proofs.RegistryLookup
import Marginalia.Proofs.MenuReading
import Marginalia.Proofs.ListSettings
import Marginalia.Proofs.DividerSymbols
import Marginalia.Proofs.ProbeRecovery
