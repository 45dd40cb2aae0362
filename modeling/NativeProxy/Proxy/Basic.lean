import NativeProxy.Interface
import NativeProxy.Config
import NativeProxy.Value
import NativeProxy.Vm.Request

/-!
# Proxies

A proxy is an object of the virtual machine seen through an interface: the methods of the
interface bound to the methods of the object's class, and a slot for the last result of every
method. The bindings, the slots and the methods of the interface are parallel lists.
-/

namespace NativeProxy

/-- A method of the interface with the method that a lookup on the object's class found. -/
structure Binding where
  selector : Selector
  method : Option MethodId
deriving DecidableEq, Repr

namespace Binding

def isResolved (binding : Binding) : Bool :=
  binding.method.isSome

end Binding

/-- An object bound to an interface. -/
structure Proxy where
  target : GlobalRef
  targetClass : GlobalRef
  interface : Interface
  bindings : List Binding
  slots : List (Option Value)
  config : Config
deriving Repr

namespace Proxy

def binding? (proxy : Proxy) (index : Nat) : Option Binding :=
  proxy.bindings[index]?

/-- Whether the index is that of a method the class has. -/
def isResolved (proxy : Proxy) (index : Nat) : Bool :=
  (proxy.binding? index).any Binding.isResolved

/-- The selectors of the methods that the class lacks, in the order of their declaration. -/
def unresolved (proxy : Proxy) : List Selector :=
  (proxy.bindings.filter (!·.isResolved)).map Binding.selector

def method? (proxy : Proxy) (index : Nat) : Option Method :=
  proxy.interface.methods[index]?

def cached (proxy : Proxy) (index : Nat) : Option Value :=
  proxy.slots[index]?.join

def indexOf (proxy : Proxy) (name signature : String) : Except Fault Nat :=
  proxy.interface.indexOf name signature

def withSlot (proxy : Proxy) (index : Nat) (slot : Option Value) : Proxy :=
  { proxy with slots := proxy.slots.set index slot }

/-- The global references that the stored result of a method holds. -/
def slotRefs (proxy : Proxy) (index : Nat) : List GlobalRef :=
  ((proxy.cached index).map Value.refs).getD []

/-- Replaces the stored result of a method and releases what the old one held. -/
def store (proxy : Proxy) (index : Nat) (slot : Option Value) : Native Proxy := do
  Native.releaseAll (proxy.slotRefs index)
  return proxy.withSlot index slot

def refs (proxy : Proxy) : List GlobalRef :=
  proxy.target :: proxy.targetClass ::
    proxy.slots.flatMap fun slot => (slot.map Value.refs).getD []

def drop (proxy : Proxy) : Native Unit :=
  Native.releaseAll proxy.refs

end Proxy

end NativeProxy
