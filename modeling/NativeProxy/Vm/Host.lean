import NativeProxy.Vm.Event

/-!
# The host

Everything outside the library whose behaviour is not known in advance: the virtual machine
behind the function table, the log configuration files and the unwinder that captures call
stacks. Answers are functions of the history, so a host is free to answer the same request
differently each time; the laws of the library hold for every host.
-/

namespace NativeProxy

/-- The answer to a lookup or a creation: it succeeds, it yields null, or it throws. -/
inductive Reply where
  | given
  | null
  | throws (exception : Throwable)
deriving Repr

/-- The answer of a function that returns a status code, zero being success. An exception may be
left behind by either. -/
structure Status where
  code : Int := 0
  exception : Option Throwable := none
deriving Repr

inductive Outcome where
  | returns (value : RawValue)
  | throws (exception : Throwable)
deriving Repr

inductive StatusRequest where
  | pushLocalFrame
  | getJavaVm
  | threadEnv
  | attachThread
  | throwObject
  | throwNew
deriving DecidableEq, Repr

/-- The behaviour of everything outside the library. -/
structure Host where
  provides : Function → Bool
  classOf : Object → String
  findClass : History → (className : String) → Reply
  findMethod : History → MethodId → Reply
  newString : History → Units → Reply
  newColor : History → Rgba → Reply
  status : History → StatusRequest → Status
  /-- The answer to a call that the receiver itself does not settle. -/
  invoke : History → (receiver : Object) → MethodId → (args : List RawValue) → Outcome
  /-- The failure of loading the log configuration at a path, if it fails. -/
  loadLogConfig : (path : String) → Option String
  /-- The text of the call stack of a panic. -/
  captureStack : History → String

namespace Outcome

/-- The outcome of an accessor: its failure, or its answer. -/
def ofAccessor (failure : Option Throwable) (answer : Option Object) : Outcome :=
  match failure with
  | some exception => throws exception
  | none => returns (.reference answer)

end Outcome

namespace Object

/-- The answer of an object that describes itself: throwables, their classes and colours. -/
def respond? (receiver : Object) (methodName : String) : Option Outcome :=
  match receiver with
  | throwable exception =>
    if methodName = "getClass" then
      some (.ofAccessor exception.classFailure (some (classOf exception)))
    else if methodName = "getMessage" then
      some (.ofAccessor exception.messageFailure (exception.message.map string))
    else if methodName = "getCause" then
      some (.ofAccessor exception.causeFailure (exception.cause.map throwable))
    else none
  | classOf exception =>
    if methodName = "getName" then
      some (.ofAccessor exception.nameFailure (exception.className.map string))
    else none
  | color answer =>
    if methodName = "getRGBComponents" then
      match answer with
      | .components values => some (.ofAccessor none (some (floats values)))
      | .null => some (.ofAccessor none none)
      | .throws exception => some (.ofAccessor (some exception) none)
    else none
  | _ => none

end Object

end NativeProxy
