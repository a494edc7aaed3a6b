import Findings.Main
import Findings.Proofs.AssocLists
import Findings.Proofs.Backlog.Stock
import Findings.Proofs.Keyed
import Findings.Proofs.Backlog.Refinement
import Findings.Proofs.Backlog.Soundness
import Findings.Proofs.Backlog.Atomicity
import Findings.Proofs.QueryCalls
import Findings.Proofs.Report.Given
import Findings.Proofs.Linking.Filing
import Findings.Proofs.Linking.Claiming
import Findings.Proofs.Linking.Matching
import Findings.Proofs.Report.Records
import Findings.Proofs.Report.Digits
import Findings.Proofs.Linking.Clean
import Findings.Proofs.Report.Traces
import Findings.Proofs.Report.Written
import Findings.Proofs.Report.Requests
import Findings.Proofs.Report.OwnRules
import Findings.Proofs.Report.ShellFindings
import Findings.Proofs.Report.Containment
import Findings.Proofs.Report.Opening
import Findings.Proofs.Report.Silence
import Findings.Proofs.Linking.Canonical
import Findings.Proofs.Linking.Coarsening
import Findings.Proofs.Linking.Replacements
import Findings.Proofs.Linking.Reordering
import Findings.Proofs.Linking.Silence
import Findings.Proofs.Linking.Successive
import Findings.Proofs.Command.Agreement
import Findings.Proofs.Command.RuleFiles
import Findings.Proofs.QueryFailures
import Findings.Proofs.Report.Statuses
import Findings.Proofs.Cleanup.Rounds
import Findings.Proofs.QueryRoundTrip
import Findings.Proofs.Report.Recognisers
import Findings.Proofs.PathRules.Standard
import Findings.Proofs.Report.ScanApart
import Findings.Proofs.Report.Spellings
