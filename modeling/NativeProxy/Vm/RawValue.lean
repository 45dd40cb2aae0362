import NativeProxy.Descriptor
import NativeProxy.Vm.Object

/-!
# Raw values

The values that calls into the virtual machine take and return, and the kind of value that a
call function returns.
-/

namespace NativeProxy

/-- What a call function returns: a reference, or a primitive value. -/
inductive CallKind where
  | reference
  | primitive (type : Primitive)
deriving DecidableEq, Repr

def Descriptor.callKind : Descriptor → CallKind
  | primitive type => .primitive type
  | object _ => .reference
  | array _ => .reference

/-- An argument or a result of a call. The reference `none` is null. -/
inductive RawValue where
  | void
  | boolean (value : Bool)
  | byte (value : Int8)
  | char (value : UInt16)
  | short (value : Int16)
  | int (value : Int32)
  | long (value : Int64)
  | float (value : Binary32)
  | double (value : Binary64)
  | reference (object : Option Object)
deriving Repr

namespace RawValue

def kind : RawValue → CallKind
  | void => .primitive .void
  | boolean _ => .primitive .boolean
  | byte _ => .primitive .byte
  | char _ => .primitive .char
  | short _ => .primitive .short
  | int _ => .primitive .int
  | long _ => .primitive .long
  | float _ => .primitive .float
  | double _ => .primitive .double
  | reference _ => .reference

def typeName : RawValue → String
  | void => "void"
  | boolean _ => "bool"
  | byte _ => "byte"
  | char _ => "char"
  | short _ => "short"
  | int _ => "int"
  | long _ => "long"
  | float _ => "float"
  | double _ => "double"
  | reference _ => "object"

def null : RawValue := reference none

end RawValue

namespace CallKind

/-- What a call function returns that has nothing to return: zero, false or null. -/
def default : CallKind → RawValue
  | reference => .null
  | primitive .void => .void
  | primitive .boolean => .boolean false
  | primitive .byte => .byte 0
  | primitive .char => .char 0
  | primitive .short => .short 0
  | primitive .int => .int 0
  | primitive .long => .long 0
  | primitive .float => .float .zero
  | primitive .double => .double .zero

/-- A call function returns values of its own kind only: an answer of another kind reads as the
default. -/
def narrow (kind : CallKind) (value : RawValue) : RawValue :=
  if value.kind = kind then value else kind.default

@[simp]
theorem kind_default (kind : CallKind) : kind.default.kind = kind := by
  cases kind with
  | reference => rfl
  | primitive type => cases type <;> rfl

@[simp]
theorem kind_narrow (kind : CallKind) (value : RawValue) : (kind.narrow value).kind = kind := by
  unfold narrow
  split
  · assumption
  · exact kind_default kind

end CallKind

end NativeProxy
