import NativeProxy.Fault
import NativeProxy.Vm.Host

/-!
# Sessions

The state that operations read and change: the history, the pending exception, the log and what
is kept for the whole process. `Native` operations always finish; `Jni` operations finish or
fail with a fault, and keep the changes made up to then.
-/

namespace NativeProxy

/-- The classes that every proxy relies on, with the methods that describe a throwable. -/
structure CoreClasses where
  objectClass : GlobalRef
  classClass : GlobalRef
  throwableClass : GlobalRef
  getClass : MethodId
  getName : MethodId
  getMessage : MethodId
  getCause : MethodId
deriving Repr

/-- The class of colours with its constructor and the accessor of the components. -/
structure ColorClass where
  colorClass : GlobalRef
  construct : MethodId
  getComponents : MethodId
deriving Repr

/-- The virtual machine that the request at a position of the history brought to light. -/
structure VmHandle where
  request : Nat
deriving DecidableEq, Repr

/-- What is kept for the whole process: classes and the machine once they were found, and the
call stack of the last panic until it is reported. -/
structure SharedState where
  core : Option CoreClasses := none
  color : Option ColorClass := none
  vm : Option VmHandle := none
  panicStack : Option String := none
deriving Repr

inductive Level where
  | error
  | warn
  | info
  | debug
deriving DecidableEq, Repr

structure LogRecord where
  level : Level
  text : String
deriving DecidableEq, Repr

/-- The state of the native side. At most one exception is pending. -/
structure Session where
  history : History := []
  pending : Option Throwable := none
  logs : List LogRecord := []
  shared : SharedState := {}
deriving Repr

namespace Session

def record (session : Session) (event : Event) : Session :=
  { session with history := session.history ++ [event] }

end Session

/-- An operation that always finishes. -/
abbrev Native := ReaderT Host (StateM Session)

/-- An operation that may fail with a fault. -/
abbrev Jni := ExceptT Fault Native

namespace Native

def log (level : Level) (text : String) : Native Unit :=
  modify fun session => { session with logs := session.logs ++ [⟨level, text⟩] }

/-- Makes an exception pending; it replaces the one that was. -/
def raise (exception : Throwable) : Native Unit :=
  modify fun session => { session with pending := some exception }

/-- Changes what is kept for the whole process. -/
def modifyShared (change : SharedState → SharedState) : Native Unit :=
  modify fun session => { session with shared := change session.shared }

/-- Uses a function that returns a status code. -/
def status (kind : StatusRequest) (event : Event) : Native Int := do
  let host ← read
  let session ← get
  set (session.record event)
  let answer := host.status session.history kind
  answer.exception.forM raise
  return answer.code

/-- Makes sure that the thread is attached to the virtual machine, and says whether it is. -/
def attach : Native Bool := do
  if (← status .threadEnv .threadEnv) = 0 then
    return true
  else
    return (← status .attachThread .attachThread) = 0

end Native

namespace Jni

def fail {α : Type} (fault : JniFault) : Jni α :=
  throw (.jni fault)

/-- Runs an operation and keeps its outcome, a fault included. -/
def attempt {α : Type} (operation : Jni α) : Jni (Except Fault α) :=
  ExceptT.lift operation.run

/-- Finishes with the outcome of an operation that was attempted before. -/
def resume {α : Type} (outcome : Except Fault α) : Jni α :=
  ExceptT.mk (pure outcome)

/-- Uses a function of the table. A function that is missing fails without any effect. -/
def request {α : Type} (function : Function) (event : Event) (answer : Host → History → α) :
    Jni α := do
  let host ← read
  if host.provides function then
    let session ← get
    set (session.record event)
    return answer host session.history
  else
    fail (.missingFunction function.name)

/-- Uses a function of the table that returns a status code. -/
def requestStatus (function : Function) (kind : StatusRequest) (event : Event) : Jni Int := do
  if (← read).provides function then
    Native.status kind event
  else
    fail (.missingFunction function.name)

end Jni

end NativeProxy
