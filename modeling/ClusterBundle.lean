import ClusterBundle.Main
import ClusterBundle.Text.Utf8.Lemmas
import ClusterBundle.Proofs.Script.Install
import ClusterBundle.Proofs.Script.Workload
import ClusterBundle.Proofs.Script.Monitoring
import ClusterBundle.Proofs.Script.Run
import ClusterBundle.Proofs.Script.Reach
import ClusterBundle.Proofs.Run.Gates
import ClusterBundle.Proofs.File.Components
import ClusterBundle.Proofs.File.Walk
import ClusterBundle.Proofs.File.Change
import ClusterBundle.Proofs.File.Access
import ClusterBundle.Proofs.Bundle.Access
import ClusterBundle.Proofs.Run.Confinement
import ClusterBundle.Proofs.Secrecy.Alike
import ClusterBundle.Proofs.Secrecy.Run
import ClusterBundle.Proofs.File.Located
import ClusterBundle.Proofs.Bundle.Room
import ClusterBundle.Proofs.Script.Outputs
import ClusterBundle.Proofs.Run.Clearance
import ClusterBundle.Proofs.Run.Isolation
import ClusterBundle.Proofs.Session.Basic
import ClusterBundle.Proofs.Session.Accounting
import ClusterBundle.Proofs.Bundle.Content
import ClusterBundle.Proofs.Session.Refinement
import ClusterBundle.Proofs.Cluster.Names
import ClusterBundle.Proofs.Run.Writings
import ClusterBundle.Proofs.Run.Places
import ClusterBundle.Proofs.File.Closed
import ClusterBundle.Proofs.File.Nested
import ClusterBundle.Proofs.Bundle.Growth
import ClusterBundle.Proofs.Bundle.Settle
import ClusterBundle.Proofs.Bundle.Again
import ClusterBundle.Proofs.Script.Again
import ClusterBundle.Proofs.Run.Tidy
import ClusterBundle.Proofs.Run.Again
import ClusterBundle.Proofs.Script.Records
import ClusterBundle.Proofs.Script.Completeness
import ClusterBundle.Proofs.Text.Blank
import ClusterBundle.Proofs.Script.Steps
import ClusterBundle.Proofs.Run.Absence
import ClusterBundle.Proofs.CommandLine.Exit
import ClusterBundle.Proofs.Json.Reads
import ClusterBundle.Proofs.Json.Strings
import ClusterBundle.Proofs.Json.Numbers
import ClusterBundle.Proofs.Json.Pretty
import ClusterBundle.Proofs.Run.Summary
import ClusterBundle.Proofs.File.Sound
import ClusterBundle.Proofs.Bundle.Attempt
import ClusterBundle.Proofs.Bundle.Atomic
import ClusterBundle.Proofs.Bundle.Refusal
import ClusterBundle.Proofs.Text.Order
import ClusterBundle.Proofs.Json.Conform
import ClusterBundle.Proofs.Script.Discovery
import ClusterBundle.Proofs.Run.Monitoring
import ClusterBundle.Proofs.Script.Namespace
import ClusterBundle.Proofs.Cluster.Listing
import ClusterBundle.Proofs.Script.Inventory
import ClusterBundle.Proofs.Bundle.Extension
import ClusterBundle.Proofs.Script.Sections
import ClusterBundle.Proofs.Bundle.Directory
import ClusterBundle.Proofs.Script.FanOut
import ClusterBundle.Proofs.Script.Filling
import ClusterBundle.Proofs.Script.PodDirectories
import ClusterBundle.Proofs.Json.Listing
import ClusterBundle.Proofs.Cluster.Reordering
import ClusterBundle.Proofs.Script.Reordering
import ClusterBundle.Proofs.Cluster.CommandLine
import ClusterBundle.Proofs.Console.Unstyled
import ClusterBundle.Proofs.Console.Colour
import ClusterBundle.Proofs.Url.HostName
import ClusterBundle.Proofs.Url.RulesAddress
import ClusterBundle.Proofs.Bundle.Inside
import ClusterBundle.Proofs.Console.Truncation
