import HtGate.Main
import HtGate.Web.Api
import HtGate.Proofs.Breakdown
import HtGate.Proofs.Directive.Merging
import HtGate.Proofs.DocRoot
import HtGate.Proofs.FrontEnds
import HtGate.Proofs.Keeping
import HtGate.Proofs.Precedence
import HtGate.Proofs.Address.Networks
import HtGate.Proofs.Access.Authentication
import HtGate.Proofs.Access.Effect
import HtGate.Proofs.Access.NestedUser
import HtGate.Proofs.Access.Splicing
import HtGate.Proofs.Directive.Accounting
import HtGate.Proofs.Directive.Concatenation
import HtGate.Proofs.Directive.Stopping
import HtGate.Proofs.Report.Markup
import HtGate.Proofs.Access.Formula
import HtGate.Proofs.Access.HostSets
import HtGate.Proofs.Access.Challenge
import HtGate.Proofs.Duration.Written
import HtGate.Proofs.Lifetimes
import HtGate.Proofs.Paths
import HtGate.Proofs.Directive.AccessLine
import HtGate.Proofs.Directive.Layout
import HtGate.Proofs.Line.Dispatch
import HtGate.Proofs.Line.Unquoting
