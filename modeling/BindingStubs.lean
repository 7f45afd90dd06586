import BindingStubs.Main
import BindingStubs.Proofs.ClassSection.Headers
import BindingStubs.Proofs.Description.Inheritance
import BindingStubs.Proofs.Documentation.Closing
import BindingStubs.Proofs.Documentation.Names
import BindingStubs.Proofs.Format.BuildSeparators
import BindingStubs.Proofs.Format.BuiltTrees
import BindingStubs.Proofs.Format.Grouping
import BindingStubs.Proofs.Format.Keywords
import BindingStubs.Proofs.Inference.AssignedBodies
import BindingStubs.Proofs.Inference.Imports
import BindingStubs.Proofs.Method.Signing
import BindingStubs.Proofs.Method.Texts
import BindingStubs.Proofs.Property.Flags
import BindingStubs.Proofs.Registry
import BindingStubs.Proofs.Signature.CodeNames
import BindingStubs.Proofs.Signature.FirstParameter
import BindingStubs.Proofs.Signature.Hints
import BindingStubs.Proofs.Signature.Mergeable
import BindingStubs.Proofs.Source.Arguments
import BindingStubs.Proofs.Source.Comments
import BindingStubs.Proofs.Source.Joining
import BindingStubs.Proofs.Source.Recovery
import BindingStubs.Proofs.Stub.ImportBlock
import BindingStubs.Proofs.Stub.Operations
import BindingStubs.Proofs.Stub.Packages
import BindingStubs.Proofs.TypeExpr.Unions
import BindingStubs.Proofs.TypeTable.Places
import BindingStubs.TypeTable.Shipped
