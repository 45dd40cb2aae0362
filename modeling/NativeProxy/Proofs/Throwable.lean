import NativeProxy.Exceptions
import NativeProxy.Proofs.Execution

/-!
# Throwable trees

A throwable is described by four accessors, each of which may throw another throwable of the
same tree. This file names the accessors, states the description of a throwable as four questions
followed by the description of its cause, and gives the induction over throwable trees that
follows it.
-/

namespace NativeProxy

/-- The accessors that tell what a throwable is. -/
inductive Accessor where
  | getClass
  | getName
  | getMessage
  | getCause
deriving DecidableEq, Repr

/-- The method of an accessor, on the class that declares it. -/
def Accessor.method : Accessor → MethodId
  | .getClass => ⟨"java/lang/Object", "getClass", "()Ljava/lang/Class;"⟩
  | .getName => ⟨"java/lang/Class", "getName", "()Ljava/lang/String;"⟩
  | .getMessage => ⟨"java/lang/Throwable", "getMessage", "()Ljava/lang/String;"⟩
  | .getCause => ⟨"java/lang/Throwable", "getCause", "()Ljava/lang/Throwable;"⟩

namespace Throwable

/-- What an accessor throws instead of answering. -/
def failure (exception : Throwable) : Accessor → Option Throwable
  | .getClass => exception.classFailure
  | .getName => exception.nameFailure
  | .getMessage => exception.messageFailure
  | .getCause => exception.causeFailure

/-- The object an accessor is called on. -/
def receiver (exception : Throwable) : Accessor → Object
  | .getName => .classOf exception
  | _ => .throwable exception

/-- What an accessor answers if it does not throw. -/
def answer (exception : Throwable) : Accessor → Option Object
  | .getClass => some (.classOf exception)
  | .getName => exception.className.map .string
  | .getMessage => exception.message.map .string
  | .getCause => exception.cause.map .throwable

/-- Induction over a throwable tree: its causes and what its accessors throw are smaller. -/
theorem induction {motive : Throwable → Prop}
    (node : ∀ exception, (∀ cause, exception.cause = some cause → motive cause) →
      (∀ accessor thrown, exception.failure accessor = some thrown → motive thrown) →
        motive exception)
    (exception : Throwable) : motive exception := by
  refine @Throwable.rec motive (fun child => ∀ inner, child = some inner → motive inner)
    ?_ ?_ ?_ exception
  · intro identity className message cause classFailure nameFailure messageFailure causeFailure
      ofCause ofClass ofName ofMessage ofGetCause
    apply node
    · exact ofCause
    · intro accessor
      cases accessor with
      | getClass => exact ofClass
      | getName => exact ofName
      | getMessage => exact ofMessage
      | getCause => exact ofGetCause
  · intro inner impossible
    exact absurd impossible (by simp)
  · intro inner holds other same
    rw [Option.some.injEq] at same
    exact same ▸ holds

end Throwable

namespace CoreClasses

/-- The method that was found for an accessor. -/
def method (core : CoreClasses) : Accessor → MethodId
  | .getClass => core.getClass
  | .getName => core.getName
  | .getMessage => core.getMessage
  | .getCause => core.getCause

/-- Every accessor is found under its own name. -/
def IsGenuine (core : CoreClasses) : Prop :=
  ∀ accessor, core.method accessor = accessor.method

end CoreClasses

namespace Jni

/-- Calls an accessor of a throwable. -/
def ask (core : CoreClasses) (exception : Throwable) (accessor : Accessor) :
    Jni (Option Object) :=
  consult (exception.receiver accessor) (core.method accessor)
    ((exception.failure accessor).map fun thrown => faultOf thrown (describe core thrown))

/-- Asks for the cause and adds its description to what is known. -/
def describeCause (core : CoreClasses) (exception : Throwable) (nameText ownText : String) :
    Jni (String × String) := do
  let _ ← ask core exception .getCause
  match exception.cause with
  | none => return (nameText, ownText)
  | some inner =>
    let (innerName, innerText) ← describe core inner
    return (nameText, ownText ++ "\nCaused by: " ++ innerName ++ ": " ++ innerText)

/-- A throwable is described by its four accessors, then by its cause. -/
theorem describe_eq (core : CoreClasses) (exception : Throwable) :
    describe core exception = (do
      let _ ← ask core exception .getClass
      let name ← ask core exception .getName
      let nameText ← readText name
      let own ← ask core exception .getMessage
      let ownText ← match own with
        | none => pure "null"
        | some text => readText (some text)
      describeCause core exception nameText ownText) := by
  rcases exception with ⟨_, _, _, _ | _, _ | _, _ | _, _ | _, _ | _⟩ <;> rfl

/-- A property of sessions is kept by the description of any throwable if it is kept by the
single steps. -/
theorem describe_keeps {host : Host} {property : Session → Prop} (core : CoreClasses)
    (consulted : ∀ (exception : Throwable) accessor failure,
      (∀ thrown, failure = some thrown → Keeps host property thrown) →
        Keeps host property
          (consult (exception.receiver accessor) (core.method accessor) failure))
    (read : ∀ object, Keeps host property (readText object))
    (referred : ∀ object, Keeps host property (newGlobalRef object)) (exception : Throwable) :
    Keeps host property (describe core exception) := by
  induction exception using Throwable.induction with
  | node exception ofCause ofFailure =>
      have asked (accessor : Accessor) : Keeps host property (ask core exception accessor) := by
        apply consulted
        intro thrown given
        rcases Option.map_eq_some_iff.mp given with ⟨failure, fails, rfl⟩
        exact (ofFailure accessor failure fails).bind fun _ =>
          (referred _).bind fun _ => Keeps.pure _
      have finished (nameText ownText : String) :
          Keeps host property (describeCause core exception nameText ownText) := by
        rw [describeCause]
        apply Keeps.bind (asked .getCause)
        intro _
        cases caused : exception.cause with
        | none => exact Keeps.pure _
        | some inner => exact (ofCause inner caused).bind fun _ => Keeps.pure _
      rw [describe_eq]
      apply Keeps.bind (asked .getClass)
      intro _
      apply Keeps.bind (asked .getName)
      intro name
      apply Keeps.bind (read name)
      intro nameText
      apply Keeps.bind (asked .getMessage)
      intro own
      cases own with
      | none => exact (Keeps.pure "null").bind (finished nameText)
      | some text => exact (read (some text)).bind (finished nameText)

end Jni

end NativeProxy
