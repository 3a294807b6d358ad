import SeqChart.Main
import SeqChart.RoundTrip
import SeqChart.Session
import SeqChart.Proofs.Grammar.Syntax
import SeqChart.Proofs.Reading.Lexis
import SeqChart.Proofs.Reading.Series
import SeqChart.Proofs.Reading.Head
import SeqChart.Proofs.Reading.Arc
import SeqChart.Proofs.Reading.Chart
import SeqChart.Proofs.Chart.Same
import SeqChart.Proofs.Chart.Proper
import SeqChart.Proofs.Reading.Image
import SeqChart.Proofs.Writing.Words
import SeqChart.Proofs.Writing.Head
import SeqChart.Proofs.Writing.Rows
import SeqChart.Proofs.Writing.Chart
import SeqChart.Proofs.Chart.Check
import SeqChart.Proofs.Writing.Render
import SeqChart.Proofs.RoundTrip
import SeqChart.Proofs.Chart.Flatten
import SeqChart.Proofs.Writing.Flat
import SeqChart.Proofs.Flattening
import SeqChart.Proofs.Acceptance
import SeqChart.Proofs.Chart.Typed
import SeqChart.Proofs.Gate
import SeqChart.Proofs.Sources
import SeqChart.Proofs.Chart.Outline
import SeqChart.Proofs.Relabelling
import SeqChart.Proofs.Grammar.Runs
import SeqChart.Proofs.Grammar.Owners
import SeqChart.Proofs.Reading.Placement
import SeqChart.Proofs.Comments
import SeqChart.Proofs.Grammar.Levels
import SeqChart.Proofs.Reading.Depth
import SeqChart.Proofs.Writing.Translate
import SeqChart.Proofs.DepthLimits
import SeqChart.Proofs.Grammar.Extension
import SeqChart.Proofs.Reading.Locality
import SeqChart.Proofs.Truncation
import SeqChart.Proofs.Writing.Canonical
import SeqChart.Proofs.Chart.Flat
import SeqChart.Proofs.Stability
import SeqChart.Proofs.Text.Folding
import SeqChart.Proofs.Data.Plain
import SeqChart.Proofs.Chart.Keys
import SeqChart.Proofs.Chart.Codec
import SeqChart.Proofs.Unloading
import SeqChart.Proofs.Quoting
import SeqChart.Proofs.Reading.Faults
import SeqChart.Proofs.ErrorPlaces
import SeqChart.Proofs.Grammar.Exchange
import SeqChart.Proofs.Reading.Openings
import SeqChart.Proofs.Grammar.Sites
import SeqChart.Proofs.Semicolons
import SeqChart.Proofs.Grammar.Completion
import SeqChart.Proofs.Grammar.TooDeep
import SeqChart.Proofs.Reading.Wants
import SeqChart.Proofs.Reading.RowWants
import SeqChart.Proofs.Reading.ChartWants
import SeqChart.Proofs.Reading.Barred
import SeqChart.Proofs.ViablePrefix
import SeqChart.Proofs.Reading.Rounds
import SeqChart.Proofs.Progress
import SeqChart.Proofs.Text.Control
import SeqChart.Proofs.Data.Json
import SeqChart.Proofs.Command.Arguments
import SeqChart.Proofs.Command.Disk
import SeqChart.Proofs.CommandLine
import SeqChart.Proofs.Session
