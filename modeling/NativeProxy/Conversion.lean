import NativeProxy.Arguments
import NativeProxy.Exceptions

/-!
# Conversion of arguments and results

Native values become raw values on the way in and raw values native ones on the way out, as the
plans of the method say. Converting text and colours uses the virtual machine, so it can fail;
copying primitive values and passing references through cannot.
-/

namespace NativeProxy

namespace Value

/-- The raw value of a primitive value, bit for bit. -/
def rawPrimitive : Value → Except Fault RawValue
  | boolean value => .ok (.boolean value)
  | byte value => .ok (.byte value)
  | char value => .ok (.char value)
  | short value => .ok (.short value)
  | int value => .ok (.int value)
  | long value => .ok (.long value)
  | float value => .ok (.float value)
  | double value => .ok (.double value)
  | value => .error (.internal (value.kind ++ " is not a primitive value"))

end Value

namespace Primitive

/-- The name of a primitive type in the diagnostics of the native interface. -/
def nativeName : Primitive → String
  | boolean => "bool"
  | byte => "jbyte"
  | char => "jchar"
  | short => "jshort"
  | int => "jint"
  | long => "jlong"
  | float => "jfloat"
  | double => "jdouble"
  | void => "void"

end Primitive

namespace RawValue

/-- The native value of a raw value that is expected to have a primitive type. No value is
expected where the type is `void`, and any is accepted. -/
def primitiveValue (type : Primitive) (raw : RawValue) : Except Fault Value :=
  match type, raw with
  | .void, _ => .ok .void
  | .boolean, .boolean value => .ok (.boolean value)
  | .byte, .byte value => .ok (.byte value)
  | .char, .char value => .ok (.char value)
  | .short, .short value => .ok (.short value)
  | .int, .int value => .ok (.int value)
  | .long, .long value => .ok (.long value)
  | .float, .float value => .ok (.float value)
  | .double, .double value => .ok (.double value)
  | type, raw => .error (.jni (.wrongValueType type.nativeName raw.typeName))

end RawValue

namespace Jni

def makeColor (color : Rgba) : Jni Object := do
  let _ ← colorClass
  let made ← attempt (newColor color)
  failOnException
  resume made

/-- Calls a method of the classes that every proxy relies on; an exception it throws, or one that
was pending before, is taken and becomes the fault. -/
def accessOrFail (receiver : Object) (method : MethodId) (args : List RawValue) :
    Jni (Option Object) := do
  let reply ← attempt (access receiver method args)
  failOnException
  let value ← resume reply
  resume value.reference?

def readColor (object : Object) : Jni Rgba := do
  let color ← colorClass
  match ← accessOrFail object color.getComponents [.null] with
  | none => fail (.nullPointer "get_array_length array argument")
  | some array =>
    let length ← arrayLength array
    match Rgba.ofComponents? array.elements with
    | none =>
      throw (.internal
        ("Color#getRGBComponents returned " ++ toString length ++ " components"))
    | some color =>
      let _ ← readFloats array
      return color

def convertArgument (method : Method) (index : Nat) (plan : Plan) (value : Value) :
    Jni RawValue :=
  match plan, value with
  | .unsupported nativeType, _ => do
    Native.log .warn (method.text ++ ": passing null for argument " ++ toString index ++
      " of native type " ++ nativeType)
    return .null
  | .text, .null => return .null
  | .color, .null => return .null
  | .object, .null => return .null
  | .primitive _, value => resume value.rawPrimitive
  | .text, .text text => return .reference (some (← newString text))
  | .color, .color color => return .reference (some (← makeColor color))
  | .object, .object ref => return .reference (some ref.object)
  | plan, value => throw (.argumentType method.text index plan.name value.kind)

/-- Converts the arguments from `index` on, from left to right. -/
def convertFrom (method : Method) : (index : Nat) → List Plan → List Value → Jni (List RawValue)
  | index, plan :: plans, value :: values => do
    let raw ← convertArgument method index plan value
    let raws ← convertFrom method (index + 1) plans values
    return raw :: raws
  | _, _, _ => return []

def convertArguments (method : Method) (args : List Value) : Jni (List RawValue) :=
  convertFrom method 0 method.params args

def convertResult (method : Method) (raw : RawValue) : Jni Value :=
  match method.result with
  | .primitive type => resume (raw.primitiveValue type)
  | .text => do
    match ← resume raw.reference? with
    | none => return .null
    | some object => return .text (← readText (some object))
  | .color => do
    match ← resume raw.reference? with
    | none => return .null
    | some object => return .color (← readColor object)
  | .object => do
    match ← resume raw.reference? with
    | none => return .null
    | some object => return .object (← newGlobalRef object)
  | .unsupported nativeType => do
    Native.log .warn (method.text ++
      ": discarding result without conversion to native type " ++ nativeType)
    return .null

end Jni

end NativeProxy
