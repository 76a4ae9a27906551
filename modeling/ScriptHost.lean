import ScriptHost.Binary.Double
import ScriptHost.Binary.Format
import ScriptHost.Binary.Shortest
import ScriptHost.Binary.Text
import ScriptHost.BoundedStack
import ScriptHost.Builtin
import ScriptHost.Call.Depth
import ScriptHost.Call.Entry
import ScriptHost.Call.Script
import ScriptHost.Call.Trampoline
import ScriptHost.Converter
import ScriptHost.Decimal.Basic
import ScriptHost.Decimal.OfBinary
import ScriptHost.Decimal.Read
import ScriptHost.Diagnostic
import ScriptHost.Error
import ScriptHost.Heap
import ScriptHost.Host.ParamType
import ScriptHost.Host.ToHost
import ScriptHost.Host.ToScript
import ScriptHost.Host.Type
import ScriptHost.Keyed
import ScriptHost.Member
import ScriptHost.Method.Basic
import ScriptHost.Method.Binding
import ScriptHost.Method.HostCode
import ScriptHost.Module
import ScriptHost.Number
import ScriptHost.Numeral
import ScriptHost.Numeric.Conversion
import ScriptHost.Numeric.Kind
import ScriptHost.Numeric.Primitive
import ScriptHost.Numeric.Read
import ScriptHost.Operator
import ScriptHost.Program.Eval
import ScriptHost.Program.Expr
import ScriptHost.Proofs.AccessMode
import ScriptHost.Proofs.Arity
import ScriptHost.Proofs.Balance
import ScriptHost.Proofs.Border
import ScriptHost.Proofs.Budget
import ScriptHost.Proofs.ClosedTypes
import ScriptHost.Proofs.ConverterRegistry
import ScriptHost.Proofs.DirectEvaluation
import ScriptHost.Proofs.FirstFailure
import ScriptHost.Proofs.Fuel
import ScriptHost.Proofs.Growth
import ScriptHost.Proofs.HostTyping
import ScriptHost.Proofs.Indifference
import ScriptHost.Proofs.Inference
import ScriptHost.Proofs.KeptPlan
import ScriptHost.Proofs.MemberRegistry
import ScriptHost.Proofs.Outcome
import ScriptHost.Proofs.PlainBinding
import ScriptHost.Proofs.ProtectedCall
import ScriptHost.Proofs.Quiet
import ScriptHost.Proofs.Reentrant
import ScriptHost.Proofs.ResultAssembly
import ScriptHost.Proofs.Rethrow
import ScriptHost.Proofs.RoundTrip
import ScriptHost.Proofs.Routing
import ScriptHost.Proofs.Trampoline
import ScriptHost.Registration
import ScriptHost.Session.Basic
import ScriptHost.Settings
import ScriptHost.Spelling
import ScriptHost.Table
import ScriptHost.Text.Blank
import ScriptHost.Text.UpperCase
import ScriptHost.Text.Visible
import ScriptHost.TypeRegistry
import ScriptHost.Value.Basic
import ScriptHost.Value.Coercion
import ScriptHost.Value.Equality
import ScriptHost.View
import ScriptHost.Proofs.NumeralGrammar
import ScriptHost.Proofs.NumeralText
import ScriptHost.Proofs.BoxedComparison
import ScriptHost.Proofs.DoublePatterns
import ScriptHost.Proofs.ExactConversion
import ScriptHost.Proofs.NumericOrder
import ScriptHost.Proofs.ProtectedArguments
import ScriptHost.Proofs.CaughtFailure
import ScriptHost.Proofs.CheckedRounding
import ScriptHost.Proofs.Coordinates
import ScriptHost.Proofs.ArrayConstructor
import ScriptHost.Proofs.FilledArrays
import ScriptHost.Proofs.NumeralsInBase
import ScriptHost.Proofs.TableHistory
import ScriptHost.Proofs.StackHistory
import ScriptHost.Proofs.RawEquality
import ScriptHost.Proofs.FlatValues
import ScriptHost.Proofs.FlatSessions
import ScriptHost.Proofs.FlatPrograms
import ScriptHost.Proofs.FlatCalls
