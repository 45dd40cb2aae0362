import NativeProxy.Vm.RawValue

/-!
# Functions and events

The functions that native code finds in the function table of the virtual machine, and the
events that their uses leave behind. The list of all events is the history; the machine may let
every answer depend on it.
-/

namespace NativeProxy

inductive Function where
  | pushLocalFrame
  | popLocalFrame
  | findClass
  | getMethodId
  | getObjectClass
  | isAssignableFrom
  | newStringUtf
  | getStringUtfChars
  | newObject
  | call (kind : CallKind)
  | getArrayLength
  | getFloatArrayRegion
  | newGlobalRef
  | deleteGlobalRef
  | exceptionCheck
  | exceptionOccurred
  | exceptionClear
  | throwObject
  | throwNew
  | getJavaVm
deriving DecidableEq, Repr

def Function.name : Function → String
  | pushLocalFrame => "PushLocalFrame"
  | popLocalFrame => "PopLocalFrame"
  | findClass => "FindClass"
  | getMethodId => "GetMethodID"
  | getObjectClass => "GetObjectClass"
  | isAssignableFrom => "IsAssignableFrom"
  | newStringUtf => "NewStringUTF"
  | getStringUtfChars => "GetStringUTFChars"
  | newObject => "NewObjectA"
  | call .reference => "CallObjectMethodA"
  | call (.primitive .boolean) => "CallBooleanMethodA"
  | call (.primitive .byte) => "CallByteMethodA"
  | call (.primitive .char) => "CallCharMethodA"
  | call (.primitive .short) => "CallShortMethodA"
  | call (.primitive .int) => "CallIntMethodA"
  | call (.primitive .long) => "CallLongMethodA"
  | call (.primitive .float) => "CallFloatMethodA"
  | call (.primitive .double) => "CallDoubleMethodA"
  | call (.primitive .void) => "CallVoidMethodA"
  | getArrayLength => "GetArrayLength"
  | getFloatArrayRegion => "GetFloatArrayRegion"
  | newGlobalRef => "NewGlobalRef"
  | deleteGlobalRef => "DeleteGlobalRef"
  | exceptionCheck => "ExceptionCheck"
  | exceptionOccurred => "ExceptionOccurred"
  | exceptionClear => "ExceptionClear"
  | throwObject => "Throw"
  | throwNew => "ThrowNew"
  | getJavaVm => "GetJavaVM"

/-- A method that a lookup found: the class it was looked up on, its name and its signature
text. -/
structure MethodId where
  owner : String
  name : String
  signature : String
deriving DecidableEq, Repr

/-- One use of the virtual machine. A `call` goes through a method bound by a proxy, an `access`
through a method of the classes every proxy relies on. -/
inductive Event where
  | pushFrame (capacity : Int)
  | popFrame
  | findClass (className : String)
  | getMethodId (method : MethodId)
  | getObjectClass (object : Object)
  | checkString (object : Object)
  | newString (units : Units)
  | readString (object : Object)
  | newColor (color : Rgba)
  | call (receiver : Object) (method : MethodId) (kind : CallKind) (args : List RawValue)
  | access (receiver : Object) (method : MethodId) (args : List RawValue)
  | arrayLength (array : Object)
  | readFloats (array : Object)
  | newGlobalRef (object : Object)
  | deleteGlobalRef (ref : GlobalRef)
  | exceptionCheck
  | exceptionOccurred
  | exceptionClear
  | throwObject (object : Object)
  | throwNew (className : String) (message : String)
  | getJavaVm
  | threadEnv
  | attachThread
deriving Repr

/-- All uses of the virtual machine, oldest first. -/
abbrev History := List Event

namespace History

/-- The number of global references that were made and not yet released. -/
def liveRefs (history : History) : Int :=
  history.foldl (fun count event => match event with
    | .newGlobalRef _ => count + 1
    | .deleteGlobalRef _ => count - 1
    | _ => count) 0

end History

end NativeProxy
