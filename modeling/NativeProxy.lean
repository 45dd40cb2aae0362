import NativeProxy.EntryPoint
import NativeProxy.TestObjects
import NativeProxy.Vm.Script
import NativeProxy.Proofs.Signature.RoundTrip
import NativeProxy.Proofs.Signature.Keys
import NativeProxy.Proofs.Execution
import NativeProxy.Proofs.Persistence
import NativeProxy.Proofs.Runs
import NativeProxy.Proofs.Pending
import NativeProxy.Proofs.Quiescence
import NativeProxy.Proofs.ExceptionConversion
import NativeProxy.Proofs.Faults
import NativeProxy.Proofs.ArgumentPassing
import NativeProxy.Proofs.CallFaults
import NativeProxy.Proofs.Slots
import NativeProxy.Proofs.StoredResults
import NativeProxy.Proofs.Calls
import NativeProxy.Proofs.Lookups
import NativeProxy.Proofs.ResultPassing
import NativeProxy.Proofs.RefusedFrames
import NativeProxy.Proofs.EntryPoints
import NativeProxy.Proofs.ColorClass
import NativeProxy.Proofs.ReachedCalls
import NativeProxy.Proofs.Rethrowing
import NativeProxy.Proofs.Text.Utf16
import NativeProxy.Proofs.Text.ModifiedUtf8
import NativeProxy.Proofs.TextRoundTrip
import NativeProxy.Proofs.ColorRoundTrip
import NativeProxy.Proofs.IgnoringColors
import NativeProxy.Proofs.ColorlessInterfaces
import NativeProxy.Proofs.Agreement
import NativeProxy.Proofs.ColorReads
import NativeProxy.Proofs.Overloads
import NativeProxy.Proofs.Backtrace
import NativeProxy.Proofs.Overrides
import NativeProxy.Proofs.ArgumentChecking
import NativeProxy.Proofs.UnsupportedArguments
import NativeProxy.Proofs.TestObjects.Description
import NativeProxy.Proofs.TestObjects.Refinement
import NativeProxy.Proofs.Caches
import NativeProxy.Proofs.Preparation
import NativeProxy.Proofs.Signature.Boundaries
