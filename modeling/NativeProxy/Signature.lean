import NativeProxy.Descriptor

/-!
# Method signatures

A signature is the parameter types and the return type of a method. `text` writes it in the
form that method lookup compares byte for byte.
-/

namespace NativeProxy

/-- The types of the parameters and of the result of a method. -/
structure Signature where
  params : List Descriptor
  result : Descriptor
deriving DecidableEq, Repr

namespace Signature

def render (signature : Signature) : List Char :=
  '(' :: signature.params.flatMap Descriptor.render ++ ')' :: signature.result.render

def text (signature : Signature) : String :=
  String.ofList signature.render

/-- A signature a method can have. -/
def WellFormed (signature : Signature) : Prop :=
  (∀ type ∈ signature.params, type.IsField) ∧ signature.result.IsReturn

end Signature

/-- One overload of a method: its name and its signature. -/
structure Selector where
  name : String
  signature : Signature
deriving DecidableEq, Repr

namespace Selector

def text (selector : Selector) : String :=
  selector.name ++ selector.signature.text

/-- The letter that stands for a punctuation character of a signature in a key. -/
def keyChar : Char → Char
  | '(' => 'O'
  | ')' => 'C'
  | ';' => 'E'
  | '/' => '_'
  | '[' => 'A'
  | c => c

/-- A key without punctuation that keeps the overloads of a name apart. -/
def key (selector : Selector) : String :=
  selector.name ++ String.ofList (selector.signature.render.map keyChar)

end Selector

end NativeProxy
