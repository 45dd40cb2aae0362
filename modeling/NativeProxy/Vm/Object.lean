import NativeProxy.Rgba
import NativeProxy.Text.Utf16

/-!
# Objects of the virtual machine

What native code can learn about an object by the calls it makes. A throwable is a finite tree:
each of the accessors that describe it either answers or throws another throwable. Strings and
colours are known by their content, any other object by a name.
-/

namespace NativeProxy

/-- Which throwable object it is: one that the machine brought along, or the one that the request
at a position of the history asked the machine to throw. -/
inductive Identity where
  | given (number : Nat)
  | raised (request : Nat)
deriving DecidableEq, Repr

/-- A throwable with the answers of its accessors. A failure is what the accessor throws instead
of answering: asking for the class, for the name of the class, for the message and for the
cause. -/
structure Throwable where
  identity : Identity
  className : Option Units
  message : Option Units
  cause : Option Throwable := none
  classFailure : Option Throwable := none
  nameFailure : Option Throwable := none
  messageFailure : Option Throwable := none
  causeFailure : Option Throwable := none
deriving Repr

/-- How a colour answers when it is asked for its components. -/
inductive ColorAnswer where
  | components (values : List Binary32)
  | null
  | throws (exception : Throwable)
deriving Repr

inductive Object where
  | plain (name : String)
  | string (units : Units)
  | color (answer : ColorAnswer)
  | throwable (exception : Throwable)
  | classOf (exception : Throwable)
  | loadedClass (name : String)
  | floats (values : List Binary32)
deriving Repr

namespace Object

def isString : Object → Bool
  | string _ => true
  | _ => false

def throwable? : Object → Option Throwable
  | throwable exception => some exception
  | _ => none

/-- The units of a string; any other object has none. -/
def units : Object → Units
  | string units => units
  | _ => []

/-- The elements of an array of floating-point numbers; any other object has none. -/
def elements : Object → List Binary32
  | floats values => values
  | _ => []

end Object

/-- A reference that keeps an object alive until it is released. `request` is the position in the
history at which it was made, so no two references share it. -/
structure GlobalRef where
  request : Nat
  object : Object
deriving Repr

end NativeProxy
