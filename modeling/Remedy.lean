import Remedy.Main
import Remedy.Proofs.Finding.Order
import Remedy.Proofs.Fix.Columns
import Remedy.Proofs.Fix.Strands
import Remedy.Proofs.Machine.Task
import Remedy.Proofs.Baseline.Steps
import Remedy.Proofs.Baseline.Once
import Remedy.Proofs.Baseline.Escalation
import Remedy.Proofs.Text.Utf8
import Remedy.Proofs.Tree.Way
import Remedy.Proofs.Tree.Standing
import Remedy.Proofs.Git.Listing
import Remedy.Proofs.Git.Decoding
import Remedy.Proofs.Git.Links
import Remedy.Proofs.Git.Repository
import Remedy.Proofs.Baseline.Clearance
import Remedy.Proofs.Baseline.Passage
import Remedy.Proofs.Baseline.RoundTrip
import Remedy.Proofs.Baseline.Untracked
import Remedy.Proofs.Git.Keeper
import Remedy.Proofs.Baseline.Gate
import Remedy.Proofs.Fix.Failing
import Remedy.Proofs.Fix.Independence
import Remedy.Proofs.Finding.RoundTrip
import Remedy.Proofs.Fix.Exactness
import Remedy.Proofs.Fix.Preview
import Remedy.Proofs.Command.Comparison
import Remedy.Proofs.Fix.Pairs
import Remedy.Proofs.Finding.Stopping
import Remedy.Proofs.Finding.Growth
import Remedy.Proofs.Fix.Template
import Remedy.Proofs.Baseline.Verdict
import Remedy.Proofs.Baseline.Leftovers
import Remedy.Proofs.Baseline.Restoration
import Remedy.Proofs.Tree.Rewriting
import Remedy.Proofs.Fix.Report
import Remedy.Proofs.Git.Ancestry
import Remedy.Proofs.Git.Divergence
import Remedy.Proofs.Text.Slicing
import Remedy.Proofs.Text.Tokens
import Remedy.Proofs.Finding.Deeds
import Remedy.Proofs.Fix.Bounds
import Remedy.Proofs.Fix.Keeping
import Remedy.Proofs.Fix.Survival
import Remedy.Proofs.Fix.Counting
