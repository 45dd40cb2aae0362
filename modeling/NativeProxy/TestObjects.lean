import NativeProxy.Proxy.Invoke

/-!
# The test objects interface

`AIDTEST::ITestObjects` as native methods on top of a proxy: results by value, by reference and
through pointers, an overloaded method, a colour, a stream that has no counterpart and a method
that flags its failures.
-/

namespace NativeProxy

/-- An object that implements the interface. -/
structure TestObjects where
  proxy : Proxy
deriving Repr

namespace TestObjects

/-- The signature text of the methods that return a text and take nothing. -/
def textResult : String := "()Ljava/lang/String;"

/-- The methods of the interface in the order of their declaration. -/
def methods : Except Fault (List Method) := do
  let byValue ← Method.parse "returnObject" textResult
  let byReference ← Method.parse "returnReference" textResult
  let byPointer ← Method.parse "returnPointer" textResult
  let color ← Method.parse "returnColor" "()Ljava/awt/Color;"
  let constReference ← Method.parse "returnConstReference" textResult
  let constReferenceConst ← Method.parse "returnConstReferenceConst" textResult
  let constReferenceThrows ← Method.parse "returnConstReferenceThrows" textResult
  let constReferenceConstThrows ← Method.parse "returnConstReferenceConstThrows" textResult
  let find ← Method.parse "find" "(Ljava/lang/String;)Ljava/lang/String;"
  let findColor ← Method.parse "find" "(Ljava/awt/Color;)Ljava/lang/String;"
  let cd ← Method.parse "cd" "(Ljava/lang/String;)Z"
  let ls ← Method.parse "ls" "(Ljava/lang/String;ZLjava/io/OutputStream;)V"
  let ls ← ls.withUnsupportedParam 2 "std::ostream&"
  let mkdir ← Method.parse "mkdir" "(Ljava/lang/String;)V"
  let mv ← Method.parse "mv" "(Ljava/lang/String;Ljava/lang/String;)V"
  return [byValue, byReference.storing, byPointer.storing, color, constReference.storing,
    constReferenceConst.storing, constReferenceThrows.storing, constReferenceConstThrows.storing,
    find.storing, findColor.storing, cd, ls, mkdir.flagging, mv]

def interface : Except Fault Interface := do
  let empty : Interface := { name := "ITestObjects" }
  (empty.within "AIDTEST").addAll (← methods)

def bind (target : Option Object) (config : Config) : Jni TestObjects := do
  let interface ← Jni.resume interface
  let proxy ← Proxy.bind target interface config
  return ⟨proxy⟩

def storedText (index : Nat) : Value → Except Fault String
  | .text text => .ok text
  | .null =>
    .error (.nullPointer ("ITestObjects: method #" ++ toString index ++ " returned null"))
  | other =>
    .error (.internal ("ITestObjects: method #" ++ toString index ++ " returned " ++ other.kind))

def ownText : Value → Except Fault String
  | .text text => .ok text
  | other => .error (.nullPointer ("ITestObjects: returnObject returned " ++ other.kind))

def ownColor : Value → Except Fault Rgba
  | .color color => .ok color
  | other => .error (.nullPointer ("ITestObjects: returnColor returned " ++ other.kind))

def ownBool (value : Value) : Except Fault Bool :=
  match value.toBool? with
  | some result => .ok result
  | none => .error (.resultType "cd" "boolean")

/-- Calls a method that returns by value and narrows its result. -/
def invoke {α : Type} (objects : TestObjects) (index : Nat) (args : List Value)
    (narrow : Value → Except Fault α) : Native (Except Fault α × TestObjects) := do
  let (outcome, proxy) ← objects.proxy.invoke index args
  return (outcome.bind narrow, ⟨proxy⟩)

/-- Calls a method that stores its result, which is a text. -/
def invokeStored (objects : TestObjects) (index : Nat) (args : List Value) :
    Native (Except Fault String × TestObjects) := do
  let (outcome, proxy) ← objects.proxy.invokeStored index args
  return (outcome.bind (storedText index), ⟨proxy⟩)

/-- Calls a method without a result. -/
def perform (objects : TestObjects) (index : Nat) (args : List Value) :
    Native (Except Fault Unit × TestObjects) :=
  objects.invoke index args fun _ => .ok ()

variable (objects : TestObjects)

def returnObject : Native (Except Fault String × TestObjects) :=
  objects.invoke 0 [] ownText

def returnReference : Native (Except Fault String × TestObjects) :=
  objects.invokeStored 1 []

def returnPointer : Native (Except Fault String × TestObjects) :=
  objects.invokeStored 2 []

def returnColor : Native (Except Fault Rgba × TestObjects) :=
  objects.invoke 3 [] ownColor

def returnConstReference : Native (Except Fault String × TestObjects) :=
  objects.invokeStored 4 []

def returnConstReferenceConst : Native (Except Fault String × TestObjects) :=
  objects.invokeStored 5 []

def returnConstReferenceThrows : Native (Except Fault String × TestObjects) :=
  objects.invokeStored 6 []

def returnConstReferenceConstThrows : Native (Except Fault String × TestObjects) :=
  objects.invokeStored 7 []

def find (path : String) : Native (Except Fault String × TestObjects) :=
  objects.invokeStored 8 [.text path]

def findColor (color : Rgba) : Native (Except Fault String × TestObjects) :=
  objects.invokeStored 9 [.color color]

def cd (path : String) : Native (Except Fault Bool × TestObjects) :=
  objects.invoke 10 [.text path] ownBool

/-- Lists a directory. The stream to list it to has no counterpart, so null stands for it. -/
def ls (path : String) (recursive : Bool) : Native (Except Fault Unit × TestObjects) :=
  objects.perform 11 [.text path, .boolean recursive, .null]

/-- Makes a directory; `false` if that failed. -/
def mkdir (path : String) : Native (Bool × TestObjects) := do
  let (success, proxy) ← objects.proxy.invokeFlag 12 [.text path]
  return (success, ⟨proxy⟩)

def mv (oldPath newPath : String) : Native (Except Fault Unit × TestObjects) :=
  objects.perform 13 [.text oldPath, .text newPath]

end TestObjects

end NativeProxy
