/-!
# Type descriptors

The types of the virtual machine: the primitive types, `void`, classes and arrays. `render`
writes a descriptor the way method lookup expects it, and `IsField` singles out the types a
parameter or an array element can have.
-/

namespace NativeProxy

inductive Primitive where
  | boolean | byte | char | short | int | long | float | double | void
deriving DecidableEq, Repr

namespace Primitive

def keyword : Primitive → String
  | boolean => "boolean"
  | byte => "byte"
  | char => "char"
  | short => "short"
  | int => "int"
  | long => "long"
  | float => "float"
  | double => "double"
  | void => "void"

def letter : Primitive → Char
  | boolean => 'Z'
  | byte => 'B'
  | char => 'C'
  | short => 'S'
  | int => 'I'
  | long => 'J'
  | float => 'F'
  | double => 'D'
  | void => 'V'

end Primitive

/-- A type of the virtual machine. Class names are written with slashes. -/
inductive Descriptor where
  | primitive (type : Primitive)
  | object (className : String)
  | array (element : Descriptor)
deriving DecidableEq, Repr

namespace Descriptor

def stringClass : String := "java/lang/String"

def colorClass : String := "java/awt/Color"

def isReference : Descriptor → Bool
  | primitive _ => false
  | object _ => true
  | array _ => true

def isClass (className : String) : Descriptor → Bool
  | object name => name == className
  | _ => false

/-- The primitive type, for a type that is no reference. -/
def primitive? : Descriptor → Option Primitive
  | primitive type => some type
  | _ => none

/-- The characters of the type in a signature. -/
def render : Descriptor → List Char
  | primitive type => [type.letter]
  | object className => 'L' :: className.toList ++ [';']
  | array element => '[' :: element.render

def text (type : Descriptor) : String :=
  String.ofList type.render

/-- Whether `c` may stand in a class name. -/
def isNameChar (c : Char) : Bool :=
  c ≠ ';' && c ≠ '.' && c ≠ '(' && c ≠ ')' && c ≠ '['

/-- A type that a parameter or an array element can have: no `void`, and class names that are
not empty and hold none of the characters `;`, `.`, `(`, `)` and `[`. -/
def IsField : Descriptor → Prop
  | primitive type => type ≠ .void
  | object className => className ≠ "" ∧ className.toList.all isNameChar = true
  | array element => element.IsField

/-- A type a method can return: `void` or a field type. -/
def IsReturn (type : Descriptor) : Prop :=
  type = primitive .void ∨ type.IsField

@[simp]
theorem isReference_primitive (type : Primitive) : (primitive type).isReference = false := rfl

@[simp]
theorem primitive?_eq_none_iff (type : Descriptor) :
    type.primitive? = none ↔ type.isReference = true := by
  cases type <;> simp [primitive?, isReference]

end Descriptor

end NativeProxy
