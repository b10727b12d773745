import AttributeRelease.FileTree
import AttributeRelease.Main
import AttributeRelease.Proofs.Outcome
import AttributeRelease.Proofs.NameMap
import AttributeRelease.Proofs.Tree.Order
import AttributeRelease.Proofs.Config.RuleForm
import AttributeRelease.Proofs.Text.Reader
import AttributeRelease.Proofs.Time.Calendar
import AttributeRelease.Proofs.Time.Rfc3339
import AttributeRelease.Proofs.Attribute.Form
import AttributeRelease.Proofs.CommandLine.Run
import AttributeRelease.Proofs.FileTree
import AttributeRelease.Proofs.Config.Form
import AttributeRelease.Proofs.Request.Lookup
import AttributeRelease.Proofs.Regex.Search
import AttributeRelease.Proofs.Regex.Sequence
import AttributeRelease.Proofs.Regex.Lockstep
import AttributeRelease.Proofs.Regex.Enclosure
import AttributeRelease.Proofs.Regex.Anchoring
import AttributeRelease.Proofs.Rule.Selection
import AttributeRelease.Proofs.Rule.Node
import AttributeRelease.Proofs.Rule.Inquiry
import AttributeRelease.Proofs.Rule.Agreement
import AttributeRelease.Proofs.Rule.Verdict
import AttributeRelease.Proofs.Rule.Gain
import AttributeRelease.Proofs.Rule.LateFact
import AttributeRelease.Proofs.Engine.Entries
import AttributeRelease.Proofs.Engine.Release
import AttributeRelease.Proofs.Engine.Failure
import AttributeRelease.Proofs.Engine.Session
import AttributeRelease.Proofs.Engine.Registry
import AttributeRelease.Proofs.Engine.Order
import AttributeRelease.Proofs.Engine.Scriptless
import AttributeRelease.Proofs.Engine.Interference
import AttributeRelease.Proofs.Engine.Projection
import AttributeRelease.Proofs.Engine.Withholding
import AttributeRelease.Proofs.Config.Merge
import AttributeRelease.Proofs.Config.Loading
import AttributeRelease.Proofs.Compile.Clause
import AttributeRelease.Proofs.Compile.Reference
import AttributeRelease.Proofs.Compile.Acceptance
import AttributeRelease.Proofs.Compile.Inlining
import AttributeRelease.Proofs.Compile.Termination
import AttributeRelease.Proofs.Compile.WellFormed
import AttributeRelease.Proofs.Rule.Algebra
import AttributeRelease.Proofs.Rule.Applicability
import AttributeRelease.Proofs.Engine.Denial
import AttributeRelease.Proofs.Rule.Requested
import AttributeRelease.Proofs.Rule.ScriptSelection
import AttributeRelease.Proofs.Rule.RuleAlgebra
import AttributeRelease.Proofs.Config.Setting
import AttributeRelease.Proofs.Request.FirstAnswer
import AttributeRelease.Proofs.Compile.Blame
