import ScriptCore.Binary32.Basic
import ScriptCore.Binary32.Round
import ScriptCore.BinaryFormat
import ScriptCore.Call
import ScriptCore.Capability.File
import ScriptCore.Capability.FileSystem
import ScriptCore.Capability.Host
import ScriptCore.Capability.Instance
import ScriptCore.Capability.MethodTable
import ScriptCore.Capability.Path
import ScriptCore.Capability.Probe
import ScriptCore.Decimal.Basic
import ScriptCore.Decimal.Fixed
import ScriptCore.Decimal.Notation
import ScriptCore.Decimal.Reader
import ScriptCore.Decimal.Shortest
import ScriptCore.Engine.Basic
import ScriptCore.Engine.Session
import ScriptCore.Error
import ScriptCore.Evaluation
import ScriptCore.Operator
import ScriptCore.Output
import ScriptCore.Policy
import ScriptCore.Proofs.ConstructionNotes
import ScriptCore.Proofs.CorrectRounding
import ScriptCore.Proofs.DecimalReading
import ScriptCore.Proofs.FileReads
import ScriptCore.Proofs.IntegerArithmetic
import ScriptCore.Proofs.LenientEvaluation
import ScriptCore.Proofs.MethodCalls
import ScriptCore.Proofs.MethodTables
import ScriptCore.Proofs.MismatchPolicy
import ScriptCore.Proofs.NumberText
import ScriptCore.Proofs.ObjectReferences
import ScriptCore.Proofs.OrderingOperators
import ScriptCore.Proofs.OutputBuffer
import ScriptCore.Proofs.PathLookup
import ScriptCore.Proofs.SettingsGrammar
import ScriptCore.Proofs.ShortestDecimal
import ScriptCore.Proofs.StrictEvaluation
import ScriptCore.Proofs.TextArithmetic
import ScriptCore.Proofs.TypeNames
import ScriptCore.Proofs.Utf8Decoding
import ScriptCore.Proofs.ValueEquality
import ScriptCore.Proofs.ValueOrder
import ScriptCore.Proofs.Widening
import ScriptCore.Rounding
import ScriptCore.Settings
import ScriptCore.Text.Blank
import ScriptCore.Text.GraphemeExtend
import ScriptCore.Text.Printable
import ScriptCore.Text.Quoted
import ScriptCore.Text.Utf8
import ScriptCore.Value.Basic
import ScriptCore.Value.Order
import ScriptCore.Value.Text
import ScriptCore.Word
