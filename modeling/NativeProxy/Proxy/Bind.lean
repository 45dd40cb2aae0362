import NativeProxy.Caches
import NativeProxy.Proxy.Basic

/-!
# Binding an object to an interface

Every method of the interface is looked up once, in the order of its declaration, when a proxy is
made. A method that the class lacks is logged and stays unbound; the others stay callable.
-/

namespace NativeProxy

/-- What a method is looked up as on a class. -/
def Method.idOn (className : String) (method : Method) : MethodId :=
  ⟨className, method.name, method.signature.text⟩

namespace Proxy

/-- Whether a failed lookup means that the class lacks the method. -/
def meansMissing : Fault → Bool
  | .jni (.methodNotFound ..) => true
  | .jni .exceptionThrown => true
  | _ => false

/-- Looks one method up. The exception of a failed lookup is cleared. -/
def resolve (className interfaceName : String) (method : Method) : Jni Binding := do
  let found ← Jni.attempt (Jni.findMethod (method.idOn className))
  match found with
  | .ok id => return ⟨method.selector, some id⟩
  | .error fault =>
    if meansMissing fault then
      if ← Jni.exceptionCheck then Jni.exceptionClear
      Native.log .error (interfaceName ++ ": Could not find method: " ++ method.name ++
        method.signature.text)
      return ⟨method.selector, none⟩
    else
      throw fault

/-- Looks all methods of an interface up on the class of an object and keeps the object and its
class alive. -/
def bindMethods (target : Object) (interface : Interface) :
    Jni (GlobalRef × GlobalRef × List Binding) := do
  let _ ← Jni.coreClasses
  let className ← Jni.classOf target
  let bindings ← interface.methods.mapM (resolve className interface.name)
  let targetRef ← Jni.newGlobalRef target
  let classRef ← Jni.releasingOnFault [targetRef] (Jni.keepClass className)
  return (targetRef, classRef, bindings)

/-- Warns of the methods that cannot be converted completely and reports how many are bound. -/
def logBindings (interface : Interface) (bindings : List Binding) : Native Unit := do
  for method in interface.methods.filter Method.hasUnsupported do
    Native.log .warn (interface.name ++ ": " ++ method.text ++
      " has arguments without a native conversion")
  Native.log .debug (interface.qualifiedName ++ ": bound " ++
    toString (bindings.countP Binding.isResolved) ++ " of " ++ toString bindings.length ++
    " methods")

def bind (target : Option Object) (interface : Interface) (config : Config) : Jni Proxy := do
  match target with
  | none => throw (.nullPointer (interface.name ++ ": cannot bind a null object"))
  | some target =>
    unless 0 < config.frameCapacity do
      throw (.config ("Local frame capacity must be positive: " ++ toString config.frameCapacity))
    let (targetRef, classRef, bindings) ←
      Jni.withFrame config.frameCapacity (fun (target, targetClass, _) => [target, targetClass])
        (bindMethods target interface)
    logBindings interface bindings
    return {
      target := targetRef
      targetClass := classRef
      interface := interface
      bindings := bindings
      slots := interface.methods.map fun _ => none
      config := config }

end Proxy

end NativeProxy
