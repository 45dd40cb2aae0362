import NativeProxy.Vm.Session

/-!
# Scripted hosts

A host whose answers are written down beforehand. Lists of answers give one answer per use and
then repeat the last; how often something was used is counted in the history.
-/

namespace NativeProxy

/-- A scripted answer to a call: an exception, one of the arguments, or a value. -/
inductive ScriptedOutcome where
  | throws (exception : Throwable)
  | argument (index : Nat)
  | returns (value : RawValue)
deriving Repr

namespace ScriptedOutcome

def outcome (args : List RawValue) : ScriptedOutcome → Outcome
  | throws exception => .throws exception
  | argument index => .returns (args[index]?.getD .null)
  | returns value => .returns value

end ScriptedOutcome

/-- A method of the class of plain objects, with the answer to its lookup and its outcomes. -/
structure ScriptedMethod where
  name : String
  signature : String
  lookup : Reply := .given
  outcomes : List ScriptedOutcome := []
deriving Repr

/-- A host written down as data. -/
structure Script where
  className : String := "Target"
  methods : List ScriptedMethod := []
  newString : List Reply := []
  newColor : List Reply := []
  missingClasses : List (String × Reply) := []
  statuses : StatusRequest → List Status := fun _ => []
  absent : List String := []
  logConfigFailure : String := "No such file or directory (os error 2)"

namespace Script

/-- The answer to the use that follows `uses` others. -/
def answer {α : Type} (answers : List α) (uses : Nat) : Option α :=
  answers[uses]?.or answers.getLast?

/-- Whether an event is a use of a function that returns a status code. -/
def isStatus (kind : StatusRequest) (event : Event) : Bool :=
  match kind, event with
  | .pushLocalFrame, .pushFrame _ => true
  | .getJavaVm, .getJavaVm => true
  | .threadEnv, .threadEnv => true
  | .attachThread, .attachThread => true
  | .throwObject, .throwObject _ => true
  | .throwNew, .throwNew .. => true
  | _, _ => false

def isNewString : Event → Bool
  | .newString _ => true
  | _ => false

def isNewColor : Event → Bool
  | .newColor _ => true
  | _ => false

def called? : Event → Option (Object × MethodId)
  | .call receiver method _ _ => some (receiver, method)
  | .access receiver method _ => some (receiver, method)
  | _ => none

/-- Whether an event is a call of a method that the receiver did not settle itself. -/
def isCallOf (method : MethodId) (event : Event) : Bool :=
  match called? event with
  | some (receiver, called) =>
    called.name == method.name && called.signature == method.signature &&
      (receiver.respond? called.name).isNone
  | none => false

/-- The scripted method with the name and the signature of `method`. -/
def method? (script : Script) (method : MethodId) : Option ScriptedMethod :=
  script.methods.find? fun candidate =>
    candidate.name == method.name && candidate.signature == method.signature

/-- The exception for a method that a class lacks. -/
def noSuchMethod (history : History) (method : MethodId) : Throwable where
  identity := .raised history.length
  className := some (Units.ofText "java.lang.NoSuchMethodError")
  message := some (Units.ofText method.name)

/-- The answer to a method lookup. Every class but that of plain objects has all methods. -/
def findMethod (script : Script) (history : History) (method : MethodId) : Reply :=
  if method.owner = script.className then
    match script.method? method with
    | some scripted => scripted.lookup
    | none => .throws (noSuchMethod history method)
  else .given

def invoke (script : Script) (history : History) (method : MethodId) (args : List RawValue) :
    Outcome :=
  match script.method? method with
  | some scripted =>
    match answer scripted.outcomes (history.countP (isCallOf method)) with
    | some outcome => outcome.outcome args
    | none => .returns .null
  | none => .returns .null

def classOf (script : Script) : Object → String
  | .plain _ => script.className
  | .string _ => Descriptor.stringClass
  | _ => "java/lang/Object"

def host (script : Script) : Host where
  provides function := !script.absent.contains function.name
  classOf := script.classOf
  findClass _ className := (script.missingClasses.lookup className).getD .given
  findMethod := script.findMethod
  newString history _ := (answer script.newString (history.countP isNewString)).getD .given
  newColor history _ := (answer script.newColor (history.countP isNewColor)).getD .given
  status history kind := (answer (script.statuses kind) (history.countP (isStatus kind))).getD {}
  invoke history _ method args := script.invoke history method args
  loadLogConfig _ := some script.logConfigFailure
  captureStack _ := ""

end Script

namespace SharedState

/-- A reference to a class that was made before the history began. -/
def earlierClass (className : String) : GlobalRef :=
  ⟨0, .loadedClass className⟩

/-- A process that looked all classes up before. -/
def initialised : SharedState where
  core := some {
    objectClass := earlierClass "java/lang/Object"
    classClass := earlierClass "java/lang/Class"
    throwableClass := earlierClass "java/lang/Throwable"
    getClass := ⟨"java/lang/Object", "getClass", "()Ljava/lang/Class;"⟩
    getName := ⟨"java/lang/Class", "getName", "()Ljava/lang/String;"⟩
    getMessage := ⟨"java/lang/Throwable", "getMessage", "()Ljava/lang/String;"⟩
    getCause := ⟨"java/lang/Throwable", "getCause", "()Ljava/lang/Throwable;"⟩ }
  color := some {
    colorClass := earlierClass Descriptor.colorClass
    construct := ⟨Descriptor.colorClass, "<init>", "(FFFF)V"⟩
    getComponents := ⟨Descriptor.colorClass, "getRGBComponents", "([F)[F"⟩ }

end SharedState

end NativeProxy
