import NativeProxy.Vm.Session

/-!
# Requests

The functions of the virtual machine as operations. Many of them look at the pending exception
right after the function returned and fail if there is one, whoever threw it; the exception
stays pending. Lookups and creations that yield null fail too.
-/

namespace NativeProxy

namespace Reply

def isGiven : Reply → Bool
  | given => true
  | _ => false

/-- The exception of a reply that throws. -/
def exception? : Reply → Option Throwable
  | throws exception => some exception
  | _ => none

end Reply

namespace Jni

def exceptionCheck : Jni Bool := do
  request .exceptionCheck .exceptionCheck fun _ _ => ()
  return (← get).pending.isSome

/-- The pending exception, which stays pending. -/
def exceptionOccurred : Jni (Option Throwable) := do
  request .exceptionOccurred .exceptionOccurred fun _ _ => ()
  return (← get).pending

def exceptionClear : Jni Unit := do
  request .exceptionClear .exceptionClear fun _ _ => ()
  modify fun session => { session with pending := none }

/-- Takes the pending exception: looks for one, fetches it and clears it. -/
def takePending : Jni (Option Throwable) := do
  if ← exceptionCheck then
    let exception ← exceptionOccurred
    exceptionClear
    return exception
  else
    return none

def check : Jni Unit := do
  if ← exceptionCheck then fail .exceptionThrown

/-- Asks for something that may be refused by null or by an exception. -/
def acquire (function : Function) (event : Event) (answer : Host → History → Reply)
    (refusal : JniFault) : Jni Unit := do
  let reply ← request function event answer
  if let some exception := reply.exception? then Native.raise exception
  check
  unless reply.isGiven do fail refusal

def findClass (className : String) : Jni Unit :=
  acquire .findClass (.findClass className) (fun host history => host.findClass history className)
    (.nullPointer "FindClass result")

/-- Looks a method up on a class. -/
def findMethod (method : MethodId) : Jni MethodId := do
  acquire .getMethodId (.getMethodId method) (fun host history => host.findMethod history method)
    (.methodNotFound method.name method.signature)
  return method

def newString (text : String) : Jni Object := do
  let units := Units.ofText text
  acquire .newStringUtf (.newString units) (fun host history => host.newString history units)
    (.nullPointer "NewStringUTF result")
  return .string units

def newColor (color : Rgba) : Jni Object := do
  acquire .newObject (.newColor color) (fun host history => host.newColor history color)
    (.nullPointer "NewObjectA result")
  return .color (.components color.components)

def classOf (object : Object) : Jni String :=
  request .getObjectClass (.getObjectClass object) fun host _ => host.classOf object

/-- The text of a string; null and any other object are refused. -/
def readText (object : Option Object) : Jni String := do
  findClass Descriptor.stringClass
  match object with
  | none => fail (.nullPointer "get_object_class")
  | some object =>
    let _ ← classOf object
    request .isAssignableFrom (.checkString object) fun _ _ => ()
    unless object.isString do fail .callFailed
    request .getStringUtfChars (.readString object) fun _ _ => ()
    check
    return object.units.toText

/-- Calls a method and leaves `event` behind. A receiver that describes itself settles the answer,
for any other the host does. -/
def invoke (event : Event) (receiver : Object) (method : MethodId) (kind : CallKind)
    (args : List RawValue) : Jni RawValue := do
  let outcome ← request (.call kind) event fun host history =>
    (receiver.respond? method.name).getD (host.invoke history receiver method args)
  match outcome with
  | .returns value =>
    check
    return kind.narrow value
  | .throws exception =>
    Native.raise exception
    check
    return kind.default

/-- Calls a method that a proxy bound. -/
def call (receiver : Object) (method : MethodId) (kind : CallKind) (args : List RawValue) :
    Jni RawValue :=
  invoke (.call receiver method kind args) receiver method kind args

/-- Calls a method of the classes that every proxy relies on; these all return references. -/
def access (receiver : Object) (method : MethodId) (args : List RawValue) : Jni RawValue :=
  invoke (.access receiver method args) receiver method .reference args

def arrayLength (array : Object) : Jni Nat :=
  request .getArrayLength (.arrayLength array) fun _ _ => array.elements.length

/-- The elements of an array of floating-point numbers. -/
def readFloats (array : Object) : Jni (List Binary32) := do
  request .getFloatArrayRegion (.readFloats array) fun _ _ => ()
  check
  return array.elements

def throwObject (object : Object) : Jni Unit := do
  let code ← requestStatus .throwObject .throwObject (.throwObject object)
  unless code = 0 do fail (.throwFailed code)
  if let some exception := object.throwable? then Native.raise exception

/-- The name of a class the way the class itself tells it, with dots. -/
def dottedName (className : String) : String :=
  className.map fun c => if c = '/' then '.' else c

/-- Throws a new exception of the given class with the given message. -/
def throwNew (className message : String) : Jni Unit := do
  findClass className
  let position := (← get).history.length
  let code ← requestStatus .throwNew .throwNew (.throwNew className message)
  unless code = 0 do fail (.throwFailed code)
  Native.raise {
    identity := .raised position
    className := some (Units.ofText (dottedName className))
    message := some (Units.ofText message) }

/-- The virtual machine behind the function table. -/
def getJavaVm : Jni VmHandle := do
  let request := (← get).history.length
  let code ← requestStatus .getJavaVm .getJavaVm .getJavaVm
  unless code = 0 do fail .callFailed
  return ⟨request⟩

def newGlobalRef (object : Object) : Jni GlobalRef := do
  let _ ← getJavaVm
  request .newGlobalRef (.newGlobalRef object) fun _ history => ⟨history.length, object⟩

end Jni

namespace Native

/-- Releases a global reference. Where the thread cannot be attached or the function is missing,
the reference is lost. -/
def release (ref : GlobalRef) : Native Unit := do
  let code ← status .threadEnv .threadEnv
  let attached ← if code = 0 then pure true else attach
  if attached then
    let _ ← (Jni.request .deleteGlobalRef (.deleteGlobalRef ref) fun _ _ => ()).run

/-- Releases global references from first to last. -/
def releaseAll (refs : List GlobalRef) : Native Unit :=
  refs.forM release

end Native

namespace Jni

/-- Runs an operation, and releases references if it fails. -/
def releasingOnFault {α : Type} (refs : List GlobalRef) (operation : Jni α) : Jni α := do
  let outcome ← attempt operation
  match outcome with
  | .ok _ => pure ()
  | .error _ => Native.releaseAll refs
  resume outcome

/-- Runs an operation inside its own frame of local references. An operation whose frame cannot be
made does not run; where the frame cannot be removed, the outcome is lost and `held` says which
references a result holds. -/
def withFrame {α : Type} (capacity : Int) (held : α → List GlobalRef) (operation : Jni α) :
    Jni α := do
  let code ← requestStatus .pushLocalFrame .pushLocalFrame (.pushFrame capacity)
  unless code = 0 do fail .callFailed
  let outcome ← attempt operation
  let popped ← attempt (request .popLocalFrame .popFrame fun _ _ => ())
  match popped with
  | .ok () => resume outcome
  | .error fault =>
    Native.releaseAll (match outcome with
      | .ok result => held result
      | .error lost => lost.refs)
    throw fault

end Jni

end NativeProxy
