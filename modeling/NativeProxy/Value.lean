import NativeProxy.Plan
import NativeProxy.Vm.Object

/-!
# Native values

The arguments and results of proxied calls, and the plans each of them can stand for.
-/

namespace NativeProxy

/-- A native argument or result. A `char` is one UTF-16 unit; `null` stands for the null reference
of any type. -/
inductive Value where
  | void
  | boolean (value : Bool)
  | byte (value : Int8)
  | char (value : UInt16)
  | short (value : Int16)
  | int (value : Int32)
  | long (value : Int64)
  | float (value : Binary32)
  | double (value : Binary64)
  | text (value : String)
  | color (value : Rgba)
  | object (ref : GlobalRef)
  | null
deriving Repr

namespace Value

def kind : Value → String
  | void => "void"
  | boolean _ => "boolean"
  | byte _ => "byte"
  | char _ => "char"
  | short _ => "short"
  | int _ => "int"
  | long _ => "long"
  | float _ => "float"
  | double _ => "double"
  | text _ => "String"
  | color _ => "Color"
  | object _ => "Object"
  | null => "null"

/-- The primitive type of a value; `void` is no value of the type `void`. -/
def primitive? : Value → Option Primitive
  | boolean _ => some .boolean
  | byte _ => some .byte
  | char _ => some .char
  | short _ => some .short
  | int _ => some .int
  | long _ => some .long
  | float _ => some .float
  | double _ => some .double
  | _ => none

/-- Whether a value can be passed where a plan is expected. Everything can be passed where there
is no conversion, and null wherever the plan needs a reference. -/
def fits (value : Value) (plan : Plan) : Bool :=
  match plan, value with
  | .unsupported _, _ => true
  | .primitive type, value => value.primitive? == some type
  | _, .null => true
  | .text, .text _ => true
  | .color, .color _ => true
  | .object, .object _ => true
  | _, _ => false

def isNull : Value → Bool
  | null => true
  | _ => false

def toBool? : Value → Option Bool
  | boolean value => some value
  | _ => none

def toInt? : Value → Option Int32
  | int value => some value
  | _ => none

def toLong? : Value → Option Int64
  | long value => some value
  | _ => none

def toChar? : Value → Option UInt16
  | char value => some value
  | _ => none

def toText? : Value → Option String
  | text value => some value
  | _ => none

def toColor? : Value → Option Rgba
  | color value => some value
  | _ => none

def toObject? : Value → Option GlobalRef
  | object ref => some ref
  | _ => none

def refs : Value → List GlobalRef
  | object ref => [ref]
  | _ => []

end Value

end NativeProxy
