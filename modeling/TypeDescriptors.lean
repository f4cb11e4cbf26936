import TypeDescriptors.BaseType
import TypeDescriptors.ClassName
import TypeDescriptors.ClassTable
import TypeDescriptors.ClassTable.History
import TypeDescriptors.ClassType
import TypeDescriptors.CommandLine.Report
import TypeDescriptors.Defect
import TypeDescriptors.Erasure
import TypeDescriptors.FieldType
import TypeDescriptors.FieldType.Construction
import TypeDescriptors.FieldType.Shape
import TypeDescriptors.Grammar.Field
import TypeDescriptors.Grammar.Language
import TypeDescriptors.Grammar.Method
import TypeDescriptors.Grammar.Reader
import TypeDescriptors.Grammar.Slots
import TypeDescriptors.Kind
import TypeDescriptors.Log
import TypeDescriptors.Main
import TypeDescriptors.Main.Arguments
import TypeDescriptors.Malformed
import TypeDescriptors.MethodType
import TypeDescriptors.Obtainable
import TypeDescriptors.Outline
import TypeDescriptors.Proofs.Acceptance
import TypeDescriptors.Proofs.ArgumentLists
import TypeDescriptors.Proofs.BlockDepth
import TypeDescriptors.Proofs.Body
import TypeDescriptors.Proofs.Canonical
import TypeDescriptors.Proofs.Completion
import TypeDescriptors.Proofs.Descriptors
import TypeDescriptors.Proofs.Diagnosis
import TypeDescriptors.Proofs.Dimensions
import TypeDescriptors.Proofs.Displays
import TypeDescriptors.Proofs.Endings
import TypeDescriptors.Proofs.Faults
import TypeDescriptors.Proofs.InternalNames
import TypeDescriptors.Proofs.Interning
import TypeDescriptors.Proofs.MethodFaults
import TypeDescriptors.Proofs.MethodRoundTrip
import TypeDescriptors.Proofs.Overflow
import TypeDescriptors.Proofs.Progress
import TypeDescriptors.Proofs.Reports
import TypeDescriptors.Proofs.Representation
import TypeDescriptors.Proofs.Requests
import TypeDescriptors.Proofs.ReturnType
import TypeDescriptors.Proofs.RoundTrip
import TypeDescriptors.Proofs.RuntimeClasses
import TypeDescriptors.Proofs.Segmentation
import TypeDescriptors.Proofs.SlotAgreement
import TypeDescriptors.Proofs.StrictMethod
import TypeDescriptors.Proofs.UnbalancedBodies
import TypeDescriptors.Proofs.WellFormedness
import TypeDescriptors.RuntimeClass
import TypeDescriptors.Session
import TypeDescriptors.Signature
import TypeDescriptors.Signature.Survey
import TypeDescriptors.Text.GraphemeExtend
import TypeDescriptors.Text.Length
import TypeDescriptors.Text.Quoted
import TypeDescriptors.Text.Unprintable
import TypeDescriptors.TypeRequest
