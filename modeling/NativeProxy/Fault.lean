import NativeProxy.Vm.Object

/-!
# Faults

Every way in which an operation can fail, one constructor per cause, with its wording
(`Fault.message`) and the exception it becomes when it crosses back into the virtual machine
(`Fault.exceptionClass`, with the wording as message).
-/

namespace NativeProxy

/-- A failure of the native interface of the virtual machine itself. -/
inductive JniFault where
  | wrongValueType (expected actual : String)
  | invalidConstructorType
  | methodNotFound (name signature : String)
  | fieldNotFound (name signature : String)
  | exceptionThrown
  | missingFunction (name : String)
  | nullPointer (context : String)
  | nullDereference (context : String)
  | throwFailed (code : Int)
  | callFailed
deriving DecidableEq, Repr

def JniFault.message : JniFault → String
  | wrongValueType expected actual =>
    "Invalid JValue type cast: " ++ expected ++ ". Actual type: " ++ actual
  | invalidConstructorType => "Invalid constructor return type (must be void)"
  | methodNotFound name signature => "Method not found: " ++ name ++ " " ++ signature
  | fieldNotFound name signature => "Field not found: " ++ name ++ " " ++ signature
  | exceptionThrown => "Java exception was thrown"
  | missingFunction name => "JNIEnv null method pointer for " ++ name
  | nullPointer context => "Null pointer in " ++ context
  | nullDereference context => "Null pointer deref in " ++ context
  | throwFailed code => "Throw failed with error code " ++ toString code
  | callFailed => "JNI call failed"

/-- Why an operation failed. Methods and selectors are given by their text. A fault that stems
from a thrown exception keeps the throwable alive. -/
inductive Fault where
  | config (text : String)
  | nullPointer (text : String)
  | internal (text : String)
  | malformedSignature (signature reason : String)
  | unknownMethod (interface selector : String)
  | unresolvedMethod (interface selector : String)
  | argumentCount (method : String) (expected found : Nat)
  | argumentType (method : String) (index : Nat) (expected found : String)
  | unsupportedConversion (method : String) (index : Nat) (nativeType : String)
  | callMode (method reason : String)
  | resultType (method expected : String)
  | jni (cause : JniFault)
  | panicked (text : String)
  | thrown (className message : String) (throwable : GlobalRef)
deriving Repr

namespace Fault

def message : Fault → String
  | config text => "Configuration Error: " ++ text
  | nullPointer text => text
  | internal text => "AID Internal Error: " ++ text
  | malformedSignature signature reason =>
    "Malformed JVM signature '" ++ signature ++ "': " ++ reason
  | unknownMethod interface selector => interface ++ ": no method " ++ selector
  | unresolvedMethod interface selector => interface ++ ": method " ++ selector ++ " is not bound"
  | argumentCount method expected found =>
    method ++ ": expected " ++ toString expected ++ " arguments, got " ++ toString found
  | argumentType method index expected found =>
    method ++ ": argument " ++ toString index ++ " expects " ++ expected ++ ", got " ++ found
  | unsupportedConversion method index nativeType =>
    method ++ ": no conversion for argument " ++ toString index ++ " of native type " ++ nativeType
  | callMode method reason => method ++ ": " ++ reason
  | resultType method expected => method ++ ": unexpected result, expected " ++ expected
  | jni cause => cause.message
  | panicked text => text
  | thrown className message _ => className ++ ": " ++ message

/-- The class of the exception that reports a fault to the virtual machine. -/
def exceptionClass : Fault → String
  | nullPointer _ => "java/lang/NullPointerException"
  | config _ | argumentCount .. | argumentType .. | callMode .. =>
    "java/lang/IllegalArgumentException"
  | unknownMethod .. | unresolvedMethod .. => "java/lang/NoSuchMethodError"
  | unsupportedConversion .. => "java/lang/UnsupportedOperationException"
  | _ => "java/lang/RuntimeException"

def isThrown : Fault → Bool
  | thrown .. => true
  | _ => false

/-- Whether the fault reports a call that the description of its method does not allow. -/
def isCallMode : Fault → Bool
  | callMode .. => true
  | _ => false

def refs : Fault → List GlobalRef
  | thrown _ _ throwable => [throwable]
  | _ => []

/-- The value a panic carried: text, or anything else. -/
inductive Payload where
  | text (content : String)
  | other
deriving DecidableEq, Repr

def ofPanic : Payload → Fault
  | .text content => panicked content
  | .other => panicked "unknown panic"

end Fault

end NativeProxy
