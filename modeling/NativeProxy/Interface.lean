import NativeProxy.Method

/-!
# Interface descriptions

An interface is a list of methods in the order of their declaration. Overloads share a name but
no two methods share a selector, so a name and a signature text lead back to one index.
-/

namespace NativeProxy

/-- The description of an interface, with the native namespace that declares it, if any. -/
structure Interface where
  name : String
  namespaceName : Option String := none
  methods : List Method := []
deriving DecidableEq, Repr

namespace Interface

def qualifiedName (interface : Interface) : String :=
  match interface.namespaceName with
  | some namespaceName => namespaceName ++ "::" ++ interface.name
  | none => interface.name

def size (interface : Interface) : Nat :=
  interface.methods.length

def within (interface : Interface) (namespaceName : String) : Interface :=
  { interface with namespaceName := some namespaceName }

/-- Appends a method, unless one with the same selector is already there. -/
def add (interface : Interface) (method : Method) : Except Fault Interface :=
  if interface.methods.any (·.selector == method.selector) then
    .error (.config (interface.name ++ ": duplicate method " ++ method.text))
  else
    .ok { interface with methods := interface.methods ++ [method] }

/-- Appends methods one after the other, up to the first that is refused. -/
def addAll (interface : Interface) (methods : List Method) : Except Fault Interface :=
  methods.foldlM add interface

/-- Whether `method` is the overload with the given name and signature text. -/
def isOverload (name signature : String) (method : Method) : Bool :=
  method.name == name && method.signature.text == signature

def indexOf (interface : Interface) (name signature : String) : Except Fault Nat :=
  match interface.methods.findIdx? (isOverload name signature) with
  | some index => .ok index
  | none => .error (.unknownMethod interface.name (name ++ signature))

end Interface

end NativeProxy
