import NativeProxy.Vm.Request

/-!
# Classes kept for the whole process

The classes that describe throwables, the class of colours and the virtual machine itself are
looked up on first use and kept from then on. A look-up that fails keeps nothing, so the next use
starts again; the colours are looked up apart from the rest, since a machine may lack them.
-/

namespace NativeProxy

namespace Jni

/-- Answers with what is kept, or else resolves it and keeps what was found. -/
def cached {α : Type} (kept? : SharedState → Option α) (keep : α → SharedState → SharedState)
    (resolve : Jni α) : Jni α := do
  match kept? (← get).shared with
  | some known => return known
  | none =>
    let found ← resolve
    Native.modifyShared (keep found)
    return found

def keepClass (className : String) : Jni GlobalRef :=
  newGlobalRef (.loadedClass className)

/-- Looks the core classes and their methods up. References made before a failure are released,
the last one first. -/
def resolveCoreClasses : Jni CoreClasses := do
  findClass "java/lang/Object"
  let getClass ← findMethod ⟨"java/lang/Object", "getClass", "()Ljava/lang/Class;"⟩
  findClass "java/lang/Class"
  let getName ← findMethod ⟨"java/lang/Class", "getName", "()Ljava/lang/String;"⟩
  findClass "java/lang/Throwable"
  let getMessage ← findMethod ⟨"java/lang/Throwable", "getMessage", "()Ljava/lang/String;"⟩
  let getCause ← findMethod ⟨"java/lang/Throwable", "getCause", "()Ljava/lang/Throwable;"⟩
  let objectClass ← keepClass "java/lang/Object"
  let classClass ← releasingOnFault [objectClass] (keepClass "java/lang/Class")
  let throwableClass ←
    releasingOnFault [classClass, objectClass] (keepClass "java/lang/Throwable")
  return { objectClass, classClass, throwableClass, getClass, getName, getMessage, getCause }

def coreClasses : Jni CoreClasses :=
  cached (·.core) (fun core => ({ · with core := some core })) resolveCoreClasses

def resolveColorClass : Jni ColorClass := do
  findClass Descriptor.colorClass
  let construct ← findMethod ⟨Descriptor.colorClass, "<init>", "(FFFF)V"⟩
  let getComponents ← findMethod ⟨Descriptor.colorClass, "getRGBComponents", "([F)[F"⟩
  let colorClass ← keepClass Descriptor.colorClass
  return { colorClass, construct, getComponents }

def colorClass : Jni ColorClass :=
  cached (·.color) (fun color => ({ · with color := some color })) resolveColorClass

/-- Records the virtual machine, unless one is recorded already. -/
def registerVm : Jni Unit := do
  let _ ← cached (·.vm) (fun vm => ({ · with vm := some vm })) getJavaVm
  return ()

/-- The core classes if they were looked up before. -/
def knownCoreClasses : Jni CoreClasses := do
  match (← get).shared.core with
  | some core => return core
  | none => throw (.internal "JVMClasses used before init")

def attachToVm : Jni Unit := do
  match (← get).shared.vm with
  | none => throw (.internal "JVMClasses::get_env() called before NativeBase.init")
  | some _ =>
    unless ← Native.attach do
      throw (.internal ("JVMClasses::get_env() failed to attach current thread: " ++
        JniFault.callFailed.message))

end Jni

end NativeProxy
