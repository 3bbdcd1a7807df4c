import ChartDialogue.Chart.Arrow
import ChartDialogue.Chart.Definition
import ChartDialogue.Chart.Graph
import ChartDialogue.Chart.Line
import ChartDialogue.Config.Basic
import ChartDialogue.Config.Load
import ChartDialogue.Corpus.Category
import ChartDialogue.Corpus.Compile
import ChartDialogue.Corpus.Load
import ChartDialogue.Corpus.Writer
import ChartDialogue.Dict
import ChartDialogue.Engine.Basic
import ChartDialogue.Engine.Reply
import ChartDialogue.Engine.Request
import ChartDialogue.Files.Disk
import ChartDialogue.Json.Forms
import ChartDialogue.Json.Parser
import ChartDialogue.Json.Value
import ChartDialogue.Matching.Layout
import ChartDialogue.Matching.Pattern
import ChartDialogue.Matching.Program
import ChartDialogue.Matching.Request
import ChartDialogue.Matching.Similarity
import ChartDialogue.Proofs.Chart.ArrowLines
import ChartDialogue.Proofs.Chart.Branching
import ChartDialogue.Proofs.Chart.Drawing
import ChartDialogue.Proofs.Chart.Expressions
import ChartDialogue.Proofs.Chart.History
import ChartDialogue.Proofs.Chart.Lines
import ChartDialogue.Proofs.Chart.QuotedEnds
import ChartDialogue.Proofs.Chart.Reading
import ChartDialogue.Proofs.Chart.SideBySide
import ChartDialogue.Proofs.Chart.Texts
import ChartDialogue.Proofs.Chart.WholeLines
import ChartDialogue.Proofs.Corpus.Allocation
import ChartDialogue.Proofs.Corpus.Compiled
import ChartDialogue.Proofs.Corpus.Concatenation
import ChartDialogue.Proofs.Corpus.Exported
import ChartDialogue.Proofs.Corpus.Folder
import ChartDialogue.Proofs.Corpus.FreeNumber
import ChartDialogue.Proofs.Corpus.Names
import ChartDialogue.Proofs.Corpus.Outline
import ChartDialogue.Proofs.Corpus.OutlineText
import ChartDialogue.Proofs.Corpus.RoundTrip
import ChartDialogue.Proofs.Corpus.Written
import ChartDialogue.Proofs.Distinct
import ChartDialogue.Proofs.Engine.ConditionalStage
import ChartDialogue.Proofs.Engine.FreshStars
import ChartDialogue.Proofs.Engine.Isolation
import ChartDialogue.Proofs.Engine.PlainStages
import ChartDialogue.Proofs.Engine.Reloading
import ChartDialogue.Proofs.Engine.Remembered
import ChartDialogue.Proofs.Engine.SameWords
import ChartDialogue.Proofs.Engine.Stages
import ChartDialogue.Proofs.Files.Paths
import ChartDialogue.Proofs.Json.Forms
import ChartDialogue.Proofs.Json.Records
import ChartDialogue.Proofs.Matching.Agreement
import ChartDialogue.Proofs.Matching.BinaryPercentage
import ChartDialogue.Proofs.Matching.Cache
import ChartDialogue.Proofs.Matching.Closest
import ChartDialogue.Proofs.Matching.ExactCandidate
import ChartDialogue.Proofs.Matching.Expression
import ChartDialogue.Proofs.Matching.FewestEdits
import ChartDialogue.Proofs.Matching.Foldings
import ChartDialogue.Proofs.Matching.GreedyCut
import ChartDialogue.Proofs.Matching.Scores
import ChartDialogue.Proofs.Matching.Search
import ChartDialogue.Proofs.Matching.Segmentation
import ChartDialogue.Proofs.Matching.Threshold
import ChartDialogue.Proofs.Matching.WholeMatch
import ChartDialogue.Proofs.Text.CaseFold
import ChartDialogue.Proofs.Text.Lowercase
import ChartDialogue.Proofs.Text.LowercaseAgain
import ChartDialogue.Proofs.Text.Reading
import ChartDialogue.Proofs.Text.Replacing
import ChartDialogue.Proofs.Text.Tables
import ChartDialogue.Proofs.Text.Trimmed
import ChartDialogue.Proofs.Text.Ways
import ChartDialogue.Proofs.Text.Words
import ChartDialogue.Proofs.Users.Branches
import ChartDialogue.Proofs.Users.Markup
import ChartDialogue.Proofs.Users.Rendering
import ChartDialogue.Proofs.Users.Separation
import ChartDialogue.Proofs.Users.Stars
import ChartDialogue.Text.Basic
import ChartDialogue.Text.CaseFold
import ChartDialogue.Text.CharClass
import ChartDialogue.Text.CharTable
import ChartDialogue.Text.Lowercase
import ChartDialogue.Text.Scan
import ChartDialogue.Text.Word
import ChartDialogue.Toml.Parser
import ChartDialogue.Toml.Value
import ChartDialogue.Users.State
import ChartDialogue.Users.Template
