import NativeProxy.Descriptor

/-!
# Conversion plans

How a parameter or a result crosses the boundary between native code and the virtual machine.
-/

namespace NativeProxy

/-- How one value is converted: copied bit for bit, copied as text, taken apart into the
components of a colour, passed through as a reference, or not at all, for a native type that has
no counterpart. -/
inductive Plan where
  | primitive (type : Primitive)
  | text
  | color
  | object
  | unsupported (nativeType : String)
deriving DecidableEq, Repr

namespace Plan

/-- The plan of a type that no description overrides. -/
def ofType (type : Descriptor) : Plan :=
  if type.isClass Descriptor.stringClass then .text
  else if type.isClass Descriptor.colorClass then .color
  else match type.primitive? with
    | some primitiveType => .primitive primitiveType
    | none => .object

/-- Whether the plan needs a reference on the side of the virtual machine. -/
def isReference : Plan → Bool
  | primitive _ => false
  | _ => true

def isUnsupported : Plan → Bool
  | unsupported _ => true
  | _ => false

def name : Plan → String
  | primitive type => type.keyword
  | text => "String"
  | color => "Color"
  | object => "Object"
  | unsupported nativeType => "unsupported " ++ nativeType

theorem isReference_ofType (type : Descriptor) :
    (ofType type).isReference = type.isReference := by
  cases type with
  | primitive type => rfl
  | object className =>
    unfold ofType
    split
    · rfl
    · split <;> rfl
  | array element => rfl

end Plan

end NativeProxy
