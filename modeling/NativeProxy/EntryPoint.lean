import NativeProxy.Backtrace
import NativeProxy.Exceptions

/-!
# Entry points

A native method called by the virtual machine must not unwind into it, and reports a failure by a
pending exception. `guarded` runs the body of such a method and turns a fault or a panic into an
exception, unless one is pending already. `prepareLibrary` is the entry point that prepares the
library.
-/

namespace NativeProxy

/-- How the body of an entry point ends if no fault stops it. -/
inductive Completion (α : Type) where
  | value (result : α)
  | panic (payload : Fault.Payload)

namespace Native

/-- Keeps the call stack of a panic until the panic is reported. -/
def captureStack : Native Unit := do
  let stack := (← read).captureStack (← get).history
  modifyShared ({ · with panicStack := some stack })

/-- Takes the call stack that belongs to a fault; only panics have one. -/
def takeStack (fault : Fault) : Native (Option String) := do
  match fault with
  | .panicked _ =>
    let stack := (← get).shared.panicStack
    modifyShared ({ · with panicStack := none })
    return stack
  | _ => return none

/-- The message of the exception that reports a fault, with the call stack of a panic. -/
def exceptionMessage (fault : Fault) (stack : Option String) : String :=
  match stack with
  | some stack => Backtrace.extendMessage fault.message stack
  | none => fault.message

/-- Throws the exception that reports a fault: the very throwable the fault stems from, or a new
one. -/
def throwFault (fault : Fault) (stack : Option String) : Jni Unit :=
  match fault with
  | .thrown _ _ throwable => Jni.throwObject throwable.object
  | fault => Jni.throwNew fault.exceptionClass (exceptionMessage fault stack)

/-- Reports a fault to the virtual machine. An exception that is pending already is left alone. -/
def report (fault : Fault) : Native Unit := do
  let stack ← takeStack fault
  let pending ← Jni.exceptionCheck.run
  match pending with
  | .ok false =>
    let thrown ← (throwFault fault stack).run
    match thrown with
    | .ok () => return ()
    | .error failure =>
      log .error ("Unable to throw " ++ fault.message ++ " into the JVM: " ++ failure.message)
  | _ => return ()

/-- Runs the body of an entry point. After a fault or a panic the result is `fallback`, which the
virtual machine ignores. -/
def guarded {α : Type} (fallback : α) (body : Jni (Completion α)) : Native α := do
  let outcome ← body.run
  match outcome with
  | .ok (.value result) => return result
  | .ok (.panic payload) =>
    captureStack
    report (.ofPanic payload)
    return fallback
  | .error fault =>
    report fault
    releaseAll fault.refs
    return fallback

end Native

namespace Jni

/-- Installs the log configuration at a path, or the default one for the empty path. -/
def installLogging (path : String) : Jni Unit := do
  unless path = "" do
    match (← read).loadLogConfig path with
    | some reason => throw (.config reason)
    | none => return ()

end Jni

/-- Prepares the library: installs the log configuration whose path is given as a string of the
virtual machine, and records the machine. -/
def prepareLibrary (path : Option Object) : Native Unit :=
  Native.guarded () do
    let text ← Jni.readText path
    Jni.installLogging text
    Jni.registerVm
    Native.log .info "AID JNI native library version 0.1.0 initialized"
    return .value ()

end NativeProxy
