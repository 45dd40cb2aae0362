import NativeProxy.Conversion
import NativeProxy.Proxy.Bind

/-!
# Calling through a proxy

A call is checked first and refused without touching the virtual machine where it does not fit
the description of its method. An accepted call runs in its own frame of local references: the
arguments are converted, the method is called once, an exception is taken and becomes the fault,
and the result is converted back. The stored result of a method never outlives a failed call.
-/

namespace NativeProxy

namespace Proxy

/-- One call, inside its frame. -/
def callOnce (target : Object) (method : Method) (id : MethodId) (args : List Value) :
    Jni Value := do
  let raws ← Jni.convertArguments method args
  let reply ← Jni.attempt (Jni.call target id method.signature.result.callKind raws)
  Jni.failOnException
  let raw ← Jni.resume reply
  Jni.convertResult method raw

/-- Leaves no exception pending after a failure, whatever step failed; a pending exception takes
precedence over the fault that brought it to light. -/
def settle (operation : Jni Value) : Jni Value := do
  let outcome ← Jni.attempt operation
  match outcome with
  | .ok value => return value
  | .error fault =>
    let pending ← Jni.releasingOnFault fault.refs Jni.takeException
    match pending with
    | some exception =>
      Native.releaseAll fault.refs
      throw exception
    | none => throw fault

def callMethod (proxy : Proxy) (index : Nat) (args : List Value) : Jni Value := do
  match proxy.method? index with
  | none => throw (.unknownMethod proxy.interface.name ("#" ++ toString index))
  | some method =>
    match (proxy.binding? index).bind Binding.method with
    | none => throw (.unresolvedMethod proxy.interface.name method.text)
    | some id =>
      Jni.resume (method.checkArguments args proxy.config.policy)
      Jni.withFrame proxy.config.frameCapacity Value.refs
        (settle (callOnce proxy.target.object method id args))

/-- Makes one call; a failure drops the stored result of the method. -/
def dispatch (proxy : Proxy) (index : Nat) (args : List Value) :
    Native (Except Fault Value × Proxy) := do
  let outcome ← (proxy.callMethod index args).run
  match outcome with
  | .ok _ => return (outcome, proxy)
  | .error _ => return (outcome, ← proxy.store index none)

def stores (proxy : Proxy) (index : Nat) : Bool :=
  (proxy.method? index).any Method.isStored

/-- Calls a method and returns its result, which is also stored if the method says so. -/
def invoke (proxy : Proxy) (index : Nat) (args : List Value) :
    Native (Except Fault Value × Proxy) := do
  let (outcome, proxy) ← proxy.dispatch index args
  match outcome with
  | .error _ => return (outcome, proxy)
  | .ok value =>
    if proxy.stores index then return (outcome, ← proxy.store index (some value))
    else return (outcome, proxy)

def call (proxy : Proxy) (name signature : String) (args : List Value) :
    Native (Except Fault Value × Proxy) :=
  match proxy.indexOf name signature with
  | .error fault => return (.error fault, proxy)
  | .ok index => proxy.invoke index args

/-- The refusal to hand out a stored result of a method that stores none. -/
def expectStored (method : Method) : Except Fault Unit :=
  if method.isStored then .ok ()
  else .error (.callMode method.text "result is returned by value, not cached")

/-- The refusal to report failures of a method as a flag that reports them as faults. -/
def expectFlag (method : Method) : Except Fault Unit :=
  if method.flagsFailure then .ok ()
  else .error (.callMode method.text "failures are reported as errors, not as a flag")

/-- Checks the method with an index, if there is one. -/
def expect (proxy : Proxy) (index : Nat) (demand : Method → Except Fault Unit) :
    Except Fault Unit :=
  match proxy.method? index with
  | some method => demand method
  | none => .ok ()

/-- Calls a method that stores its results and stores the result. -/
def invokeStored (proxy : Proxy) (index : Nat) (args : List Value) :
    Native (Except Fault Value × Proxy) := do
  match proxy.expect index expectStored with
  | .error fault => return (.error fault, proxy)
  | .ok () =>
    let (outcome, proxy) ← proxy.dispatch index args
    match outcome with
    | .error _ => return (outcome, proxy)
    | .ok value => return (outcome, ← proxy.store index (some value))

/-- Calls a method that flags its failures and says whether it succeeded. The result and the
fault are dropped, the fault after it was logged. -/
def invokeFlag (proxy : Proxy) (index : Nat) (args : List Value) : Native (Bool × Proxy) := do
  let (outcome, proxy) ← match proxy.expect index expectFlag with
    | .error fault => pure (.error fault, proxy)
    | .ok () => proxy.dispatch index args
  match outcome with
  | .ok value =>
    Native.releaseAll value.refs
    return (true, proxy)
  | .error fault =>
    if fault.isCallMode then
      Native.log .error (proxy.interface.name ++ ": " ++ fault.message)
    else
      Native.log .debug (proxy.interface.name ++ ": call #" ++ toString index ++ " failed: " ++
        fault.message)
    Native.releaseAll fault.refs
    return (false, proxy)

/-- Releases what the caller of a method holds once it is done with the outcome: faults and
results that the proxy does not store. -/
def discard (proxy : Proxy) (index : Nat) : Except Fault Value → Native Unit
  | .error fault => Native.releaseAll fault.refs
  | .ok value =>
    if proxy.stores index then return ()
    else Native.releaseAll value.refs

end Proxy

end NativeProxy
