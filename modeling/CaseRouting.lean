import CaseRouting.Assembly
import CaseRouting.CommandLine.Arguments
import CaseRouting.Main
import CaseRouting.Proofs.Assembly.Bindings
import CaseRouting.Proofs.Exchange
import CaseRouting.Proofs.Files.Write
import CaseRouting.Proofs.Gateway.Interchange
import CaseRouting.Proofs.Gateway.Lifecycle
import CaseRouting.Proofs.Instant.Reported
import CaseRouting.Proofs.Session
import CaseRouting.Proofs.Settings.SheetFile
import CaseRouting.Proofs.Settings.Token
import CaseRouting.Proofs.Sheet.Access
import CaseRouting.Proofs.Sheet.Relabeling
import CaseRouting.Proofs.Sheet.RoundTrip
import CaseRouting.Proofs.Sheet.Run
import CaseRouting.Proofs.Table.Command
import CaseRouting.Proofs.TestCase.Editing
import CaseRouting.Proofs.TestCase.Thinning
import CaseRouting.Proofs.TestCase.TitleSearch
import CaseRouting.Proofs.Tracker.Resource
import CaseRouting.Proofs.Tracker.Search
import CaseRouting.Proofs.Tracker.Update
import CaseRouting.Proofs.UseCase.Trace
import CaseRouting.Session
import CaseRouting.UseCase
