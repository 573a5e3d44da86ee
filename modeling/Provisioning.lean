import Provisioning.Web.Address
import Provisioning.Watch
import Provisioning.Json.Writer
import Provisioning.Json.Reader
import Provisioning.Choice
import Provisioning.Report
import Provisioning.Text.Case
import Provisioning.Object.Managed
import Provisioning.Document.Group
import Provisioning.Document.Service
import Provisioning.Document.Form
import Provisioning.Document.GroupReport
import Provisioning.Binding.Pool
import Provisioning.Binding.Service
import Provisioning.Binding.Group
import Provisioning.Plane.Store
import Provisioning.Plane.Rehearsal
import Provisioning.Lifecycle.Operations
import Provisioning.Plane.Remote
import Provisioning.Yaml.Reader
import Provisioning.Command.Run
import Provisioning.Main
import Provisioning.Proofs.Resource.Id
import Provisioning.Proofs.Text.LowerCase
import Provisioning.Proofs.Lifecycle.Ends
import Provisioning.Proofs.Object.Lawful
import Provisioning.Proofs.Plane.Frame
import Provisioning.Proofs.Plane.Reads
import Provisioning.Proofs.Plane.Writes
import Provisioning.Proofs.Lifecycle.Apply
import Provisioning.Proofs.Lifecycle.Kinds
import Provisioning.Proofs.Lifecycle.Identity
import Provisioning.Proofs.Lifecycle.Conflict
import Provisioning.Proofs.Document.GroupReport
import Provisioning.Proofs.Binding.Places
import Provisioning.Proofs.Binding.Group.Diff
import Provisioning.Proofs.Choice
import Provisioning.Proofs.Dictionary
import Provisioning.Proofs.Traversal
import Provisioning.Proofs.Binding.Group.Flatten
import Provisioning.Proofs.Binding.Group.Canonical
import Provisioning.Proofs.Binding.Group.RoundTrip
import Provisioning.Proofs.Binding.Faithful
import Provisioning.Proofs.Binding.Group.Faithful
import Provisioning.Proofs.Binding.Service.Diff
import Provisioning.Proofs.Binding.Service.Flatten
import Provisioning.Proofs.Binding.Service.Faithful
import Provisioning.Proofs.Lifecycle.Convergence
import Provisioning.Proofs.Lifecycle.Run
import Provisioning.Proofs.Wait
import Provisioning.Proofs.Watch.Timing
import Provisioning.Proofs.Wait.Timing
import Provisioning.Proofs.Lifecycle.Creation
import Provisioning.Proofs.Lifecycle.Result
import Provisioning.Proofs.Lifecycle.Changes
import Provisioning.Proofs.Lifecycle.Announced
import Provisioning.Proofs.Lifecycle.Residue
import Provisioning.Proofs.Lifecycle.Deletion
import Provisioning.Proofs.Lifecycle.Absence
import Provisioning.Proofs.Lifecycle.Deadline
import Provisioning.Proofs.Lifecycle.Removal
import Provisioning.Proofs.Lifecycle.Refusal
import Provisioning.Proofs.Binding.Group.FixedPoint
import Provisioning.Proofs.Binding.Service.FixedPoint
import Provisioning.Proofs.Lifecycle.Drift
import Provisioning.Proofs.Lifecycle.Secrets
import Provisioning.Proofs.Plane.History
import Provisioning.Proofs.Plane.Secrecy
import Provisioning.Proofs.Json.Says
import Provisioning.Proofs.Json.Strings
import Provisioning.Proofs.Json.Numbers
import Provisioning.Proofs.Json.Values
import Provisioning.Proofs.Document.Reading
import Provisioning.Proofs.Command.Rebuilt
import Provisioning.Proofs.Command.Processes
import Provisioning.Proofs.Command.LifeCycle
import Provisioning.Proofs.Command.RecordFile
import Provisioning.Proofs.Json.Members
import Provisioning.Proofs.Document.Survival
import Provisioning.Proofs.Command.Reread
import Provisioning.Proofs.Binding.Group.Places
import Provisioning.Proofs.Binding.Service.Places
import Provisioning.Proofs.Lifecycle.Differences
import Provisioning.Proofs.Binding.Group.Tables
import Provisioning.Proofs.Binding.Group.References
import Provisioning.Proofs.Lifecycle.Priors
import Provisioning.Proofs.State
import Provisioning.Proofs.Object.Reading
import Provisioning.Proofs.Object.Survival
import Provisioning.Proofs.Object.Decoded
import Provisioning.Proofs.Object.Projections
import Provisioning.Proofs.Wait.Labels
import Provisioning.Proofs.Report
import Provisioning.Proofs.Web.Address
import Provisioning.Proofs.Plane.Remote
