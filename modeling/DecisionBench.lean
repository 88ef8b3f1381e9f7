import DecisionBench.Main
import DecisionBench.Rehearsal.Stage
import DecisionBench.Proofs.TimedBatch
import DecisionBench.Proofs.DryRun
import DecisionBench.Proofs.Agreement
import DecisionBench.Proofs.Shadow
import DecisionBench.Proofs.LoadStatement
import DecisionBench.Proofs.Disabling
import DecisionBench.Proofs.Reference
import DecisionBench.Proofs.Reopening
import DecisionBench.Proofs.GeneratedFiles
import DecisionBench.Proofs.Itinerary
import DecisionBench.Proofs.Route
import DecisionBench.Proofs.Closing
import DecisionBench.Proofs.ReportLeft
import DecisionBench.Proofs.Precedence
import DecisionBench.Proofs.Monitoring
import DecisionBench.Proofs.Blame
import DecisionBench.Proofs.ReportText
import DecisionBench.Proofs.Cataloguing
import DecisionBench.Proofs.HintedText
import DecisionBench.Proofs.Loading
import DecisionBench.Proofs.ConnectionUrl
import DecisionBench.Proofs.Scripting
import DecisionBench.Proofs.Attempts
import DecisionBench.Proofs.Sampling
import DecisionBench.Proofs.Leasing
import DecisionBench.Proofs.RequestedIds
import DecisionBench.Proofs.DelimiterSpelling
import DecisionBench.Proofs.TemporaryTables
import DecisionBench.Proofs.ViewCreation
import DecisionBench.Proofs.DatabaseName
import DecisionBench.Proofs.TimeLimits
import DecisionBench.Proofs.StatusFile
