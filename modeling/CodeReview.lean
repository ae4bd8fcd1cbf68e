import CodeReview.Main
import CodeReview.Page
import CodeReview.Proofs.Assistant.Answer
import CodeReview.Proofs.Assistant.Secret
import CodeReview.Proofs.Assistant.Sessions
import CodeReview.Proofs.Chunk
import CodeReview.Proofs.CommandLine.Again
import CodeReview.Proofs.CommandLine.Refusal
import CodeReview.Proofs.Page.Visits
import CodeReview.Proofs.Report.Name
import CodeReview.Proofs.Report.ReadBack
import CodeReview.Proofs.Review.Coherent
import CodeReview.Proofs.Review.Remarks
import CodeReview.Proofs.Rule.Count
import CodeReview.Proofs.Rule.Embedding
import CodeReview.Proofs.Rule.LineEnd
import CodeReview.Proofs.Score.Bounded
import CodeReview.Record
import CodeReview.Text.CharClass
import CodeReview.Proofs.Chunk.Fewest
import CodeReview.Proofs.Text.Letters
import CodeReview.Proofs.Rule.Shape
import CodeReview.Proofs.Rule.Located
import CodeReview.Proofs.Rule.BareNumber
import CodeReview.Proofs.Rule.Word
import CodeReview.Proofs.Rule.Query
import CodeReview.Proofs.Rule.Density
import CodeReview.Proofs.Rule.Independent
import CodeReview.Proofs.Score.Costlier
import CodeReview.Proofs.Review.Lowest
import CodeReview.Proofs.Page.Preselected
import CodeReview.Proofs.CommandLine.Shown
import CodeReview.Proofs.Settings.Key
import CodeReview.Proofs.Logger
