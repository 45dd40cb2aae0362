import NativeProxy.Caches

/-!
# Thrown exceptions

Turning an exception of the virtual machine into a fault. A throwable is described by the name of
its class and by its message, followed by the same for its causes. The accessors that tell these
may throw themselves: then the exception thrown last is described instead, by the same rule, and
the description of the first one fails with that fault.
-/

namespace NativeProxy

namespace RawValue

/-- The reference a call returned; a value of any other type is a fault. -/
def reference? : RawValue → Except Fault (Option Object)
  | reference object => .ok object
  | value => .error (.jni (.wrongValueType "object" value.typeName))

end RawValue

namespace Jni

/-- The fault of a throwable, given a way to find its class name and its message. -/
def faultOf (exception : Throwable) (describe : Jni (String × String)) : Jni Fault := do
  let (className, message) ← describe
  let ref ← newGlobalRef (.throwable exception)
  return .thrown className message ref

/-- Calls an accessor of a throwable or of its class. If it throws, the fault of what it threw is
found by `failure` and fails the operation. -/
def consult (receiver : Object) (accessor : MethodId) (failure : Option (Jni Fault)) :
    Jni (Option Object) := do
  let reply ← attempt (access receiver accessor [])
  let pending ← takePending
  match pending, failure with
  | some _, some describe => throw (← describe)
  | _, _ =>
    let value ← resume reply
    resume value.reference?

/-- The class name and the message of a throwable, causes included, in the order in which the
accessors are called: class, name, message, cause, and the same for the cause. -/
def describe (core : CoreClasses) : Throwable → Jni (String × String)
  | ⟨identity, className, message, cause, classFailure, nameFailure, messageFailure,
      causeFailure⟩ => do
    let exception : Throwable :=
      ⟨identity, className, message, cause, classFailure, nameFailure, messageFailure,
        causeFailure⟩
    let _ ← consult (.throwable exception) core.getClass (match classFailure with
      | none => none
      | some thrown => some (faultOf thrown (describe core thrown)))
    let name ← consult (.classOf exception) core.getName (match nameFailure with
      | none => none
      | some thrown => some (faultOf thrown (describe core thrown)))
    let nameText ← readText name
    let own ← consult (.throwable exception) core.getMessage (match messageFailure with
      | none => none
      | some thrown => some (faultOf thrown (describe core thrown)))
    let ownText ← match own with
      | none => pure "null"
      | some text => readText (some text)
    let _ ← consult (.throwable exception) core.getCause (match causeFailure with
      | none => none
      | some thrown => some (faultOf thrown (describe core thrown)))
    match cause with
    | none => return (nameText, ownText)
    | some inner =>
      let (innerName, innerText) ← describe core inner
      return (nameText, ownText ++ "\nCaused by: " ++ innerName ++ ": " ++ innerText)
termination_by structural exception => exception

/-- The fault of an exception that was taken. Looking the core classes up may itself have left an
exception behind; the first accessor call brings it to light, unless that call throws one of its
own, and it is then reported instead. -/
def convert (exception : Throwable) : Jni Fault := do
  let core ← coreClasses
  match (← get).pending, exception.classFailure with
  | some _, none =>
    let reply ← attempt (access (.throwable exception) core.getClass [])
    match ← takePending with
    | some left => throw (← faultOf left (describe core left))
    | none =>
      let _ ← resume reply
      faultOf exception (describe core exception)
  | _, _ => faultOf exception (describe core exception)

/-- Takes the pending exception as a fault, if there is one. -/
def takeException : Jni (Option Fault) := do
  match ← takePending with
  | none => return none
  | some exception => return some (← convert exception)

def failOnException : Jni Unit := do
  if let some fault ← takeException then throw fault

end Jni

end NativeProxy
