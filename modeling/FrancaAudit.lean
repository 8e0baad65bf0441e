import FrancaAudit.CommandLine.Directory
import FrancaAudit.Json.Double
import FrancaAudit.Main
import FrancaAudit.Proofs.Check.Initializer
import FrancaAudit.Proofs.Model.Inheritance
import FrancaAudit.Proofs.Model.Place
import FrancaAudit.Proofs.Model.Subexpression
import FrancaAudit.Snapshot.Writing
import FrancaAudit.Proofs.Check.Visibility
import FrancaAudit.Proofs.Model.Dangling
import FrancaAudit.Proofs.Check.Behaviour
import FrancaAudit.Proofs.Check.Accepted
import FrancaAudit.Proofs.Check.ConstantValue
import FrancaAudit.Proofs.Check.EnumeratorValue
import FrancaAudit.Proofs.Check.NumberType
import FrancaAudit.Proofs.Check.Inheritance
import FrancaAudit.Proofs.Check.Overload
import FrancaAudit.Proofs.Check.ElementOrder
import FrancaAudit.Proofs.Check.WithoutSpans.Finding
import FrancaAudit.Proofs.Snapshot.RoundTrip
import FrancaAudit.Proofs.Check.Pass
import FrancaAudit.Proofs.Check.EmptyType
import FrancaAudit.Proofs.Check.UnknownTag
import FrancaAudit.Proofs.Check.Typing
import FrancaAudit.Proofs.Check.Guard
import FrancaAudit.Proofs.Check.Expansion
import FrancaAudit.Proofs.Check.EnumeratorNumber
import FrancaAudit.Proofs.Check.Walk
import FrancaAudit.Proofs.Check.Alias
import FrancaAudit.Proofs.Check.ByteBuffer
import FrancaAudit.Proofs.Check.ArrayConstant
import FrancaAudit.Proofs.Check.ArgumentName
import FrancaAudit.Proofs.Check.CompoundValue
import FrancaAudit.Proofs.Precedence.Stability
import FrancaAudit.Proofs.Log.Directive
import FrancaAudit.Proofs.Settings.Directive
import FrancaAudit.Proofs.Check.Compatibility
import FrancaAudit.Proofs.Check.Interval
import FrancaAudit.Proofs.Model.Distance
import FrancaAudit.Proofs.Precedence.Insertion
import FrancaAudit.Proofs.Check.SharedName
