import InterfaceCheck.Ty.Build
import InterfaceCheck.Ty.Display
import InterfaceCheck.Ty.Dump
import InterfaceCheck.Ty.Traversal
import InterfaceCheck.Interface.Check
import InterfaceCheck.Report.Layout
import InterfaceCheck.Proofs.ClauseOrder
import InterfaceCheck.Proofs.ClauseParts
import InterfaceCheck.Proofs.Colour
import InterfaceCheck.Proofs.Comparison
import InterfaceCheck.Proofs.Completeness
import InterfaceCheck.Proofs.Flags
import InterfaceCheck.Proofs.Location
import InterfaceCheck.Proofs.Shortest
import InterfaceCheck.Proofs.UnionBase
import InterfaceCheck.Proofs.Literal
import InterfaceCheck.Proofs.Dump
import InterfaceCheck.Proofs.DumpFlags
import InterfaceCheck.Proofs.Messages
import InterfaceCheck.Proofs.Unseen
