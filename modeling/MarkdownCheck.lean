import MarkdownCheck.Check.Blank
import MarkdownCheck.Check.Bullet
import MarkdownCheck.Check.Fence
import MarkdownCheck.Check.Heading
import MarkdownCheck.Check.Line
import MarkdownCheck.Check.Link
import MarkdownCheck.Check.ListBlock
import MarkdownCheck.Config
import MarkdownCheck.Document
import MarkdownCheck.Fault
import MarkdownCheck.Issue
import MarkdownCheck.Options
import MarkdownCheck.Proofs.BlankLines
import MarkdownCheck.Proofs.BlankRuns
import MarkdownCheck.Proofs.BreakPlaces
import MarkdownCheck.Proofs.BreakingOff
import MarkdownCheck.Proofs.CodeContents
import MarkdownCheck.Proofs.ConfigIssues
import MarkdownCheck.Proofs.ConfigMeaning
import MarkdownCheck.Proofs.ConfigReading
import MarkdownCheck.Proofs.ConfigRoundTrip
import MarkdownCheck.Proofs.EmptyLineBetween
import MarkdownCheck.Proofs.Evaluation
import MarkdownCheck.Proofs.FenceNumbers
import MarkdownCheck.Proofs.Grouping
import MarkdownCheck.Proofs.Isolation
import MarkdownCheck.Proofs.LevelIndents
import MarkdownCheck.Proofs.LineEnds
import MarkdownCheck.Proofs.LineInFront
import MarkdownCheck.Proofs.LineShapes
import MarkdownCheck.Proofs.ListPlaces
import MarkdownCheck.Proofs.ListWalk
import MarkdownCheck.Proofs.LogMessages
import MarkdownCheck.Proofs.LogStory
import MarkdownCheck.Proofs.NestedLists
import MarkdownCheck.Proofs.Numerals
import MarkdownCheck.Proofs.OptionValues
import MarkdownCheck.Proofs.OutermostLists
import MarkdownCheck.Proofs.Outline
import MarkdownCheck.Proofs.QuotedNames
import MarkdownCheck.Proofs.QuotedText
import MarkdownCheck.Proofs.RepeatedBlanks
import MarkdownCheck.Proofs.ReportedLines
import MarkdownCheck.Proofs.ReversedLinks
import MarkdownCheck.Proofs.Seam
import MarkdownCheck.Proofs.SettingScope
import MarkdownCheck.Proofs.StyleInference
import MarkdownCheck.Proofs.Switches
import MarkdownCheck.Proofs.TokenLines
import MarkdownCheck.Proofs.TokenScope
import MarkdownCheck.Proofs.TrimmedLines
import MarkdownCheck.Proofs.Trimming
import MarkdownCheck.Proofs.UnknownNames
import MarkdownCheck.Proofs.UpperCase
import MarkdownCheck.Report
import MarkdownCheck.Report.Log
import MarkdownCheck.Rule
import MarkdownCheck.Rule.Table
import MarkdownCheck.Style
import MarkdownCheck.Text.Basic
import MarkdownCheck.Text.CodeRange
import MarkdownCheck.Text.DecimalDigit
import MarkdownCheck.Text.Lines
import MarkdownCheck.Text.Numeral
import MarkdownCheck.Text.Printable
import MarkdownCheck.Text.Quoted
import MarkdownCheck.Text.UpperCase
import MarkdownCheck.Token
import MarkdownCheck.Value
import MarkdownCheck.Value.Reading
import MarkdownCheck.Word
