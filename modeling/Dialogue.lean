import Dialogue.Main
import Dialogue.Session.Codec
import Dialogue.Proofs.Flow.Sound
import Dialogue.Proofs.Flow.Resolve
import Dialogue.Proofs.Pass.Moves
import Dialogue.Proofs.Pass.Route
import Dialogue.Proofs.Pass.Effect
import Dialogue.Proofs.Session.Turn
import Dialogue.Proofs.Session.Rest
import Dialogue.Proofs.Session.Coherence
import Dialogue.Proofs.Pass.Walk
import Dialogue.Proofs.Session.Walks
import Dialogue.Proofs.Session.Twins
import Dialogue.Proofs.Session.Resume
import Dialogue.Proofs.Session.Events
import Dialogue.Proofs.Session.Passes
import Dialogue.Proofs.Session.Guards
import Dialogue.Proofs.Flow.Reach
import Dialogue.Proofs.Session.Reach
import Dialogue.Proofs.Session.Log
import Dialogue.Proofs.Session.Replay
import Dialogue.Proofs.Session.Plan
import Dialogue.Proofs.Session.Restore
import Dialogue.Proofs.Session.Defects
import Dialogue.Proofs.Session.Matching
import Dialogue.Proofs.Session.Afresh
import Dialogue.Proofs.Flow.WellFormed
import Dialogue.Proofs.Flow.Order
import Dialogue.Proofs.Session.Order
import Dialogue.Proofs.Session.Answers
import Dialogue.Proofs.Session.Refusals
import Dialogue.Proofs.Session.Options
import Dialogue.Proofs.Pass.Endings
import Dialogue.Proofs.Session.Findings
import Dialogue.Proofs.Session.Policy
import Dialogue.Proofs.Session.DeadEnds
import Dialogue.Proofs.Flow.Complete
import Dialogue.Proofs.Session.Complete
import Dialogue.Proofs.Flow.Blanks
import Dialogue.Proofs.Session.Blanks
import Dialogue.Proofs.Json.Scan
import Dialogue.Proofs.Json.Print
import Dialogue.Proofs.Json.Decode
import Dialogue.Proofs.Json.Record
import Dialogue.Proofs.Rule.Codec
import Dialogue.Proofs.Flow.Document
import Dialogue.Proofs.Session.Codec
import Dialogue.Proofs.Trace.Codec
import Dialogue.Proofs.Json.Value
import Dialogue.Proofs.Trace.File
import Dialogue.Proofs.Session.Reload
import Dialogue.Proofs.Session.Recording
import Dialogue.Proofs.Console.Play
import Dialogue.Proofs.Json.Fields
import Dialogue.Proofs.Json.Likeness
import Dialogue.Proofs.Json.Carries
import Dialogue.Proofs.Json.Rearranged
import Dialogue.Proofs.Rule.Rearranged
import Dialogue.Proofs.Flow.Rearranged
import Dialogue.Proofs.Flow.Distance
import Dialogue.Proofs.Flow.FirstDefect
import Dialogue.Proofs.Flow.Lookup
import Dialogue.Proofs.Flow.Outputs
import Dialogue.Proofs.Pass.Loop
import Dialogue.Proofs.Session.StepLimit
import Dialogue.Proofs.Rule.Log
import Dialogue.Proofs.Text.Trimmed
import Dialogue.Proofs.Text.Lowered
import Dialogue.Proofs.Rule.Affixes
import Dialogue.Proofs.Rule.Lists
import Dialogue.Proofs.Number.Rounding
import Dialogue.Proofs.Number.Numeral
import Dialogue.Proofs.Number.Double
import Dialogue.Proofs.Rule.Comparison
