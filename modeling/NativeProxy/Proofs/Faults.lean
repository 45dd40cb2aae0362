import NativeProxy.Conversion
import NativeProxy.Proofs.Throwable

/-!
# Faults of the machine

Using the virtual machine fails in two ways only: a function of the native interface fails, or an
exception was thrown. No value is ever read as another type than its own, since an accessor answers
by a reference. This file carries that fact from the single requests to the creation of strings and
colours, for any class of faults that allows for these failures. What an operation yields may itself
be a fault, as when an exception was converted, so `Ends` speaks of the result as well.
-/

namespace NativeProxy

namespace Fault

/-- The fault comes from the machine: its native interface failed or an exception was thrown. -/
def IsForeign : Fault → Prop
  | .jni _ => True
  | .thrown .. => True
  | _ => False

/-- Whether a value was read as another type than its own. -/
def isWrongType : Fault → Bool
  | jni (.wrongValueType ..) => true
  | _ => false

/-- The allowed faults are enough for requests: failures of the native interface, unless they are
about the type of a value. -/
structure CoversInterface (allowed : Fault → Prop) : Prop where
  jni : ∀ cause, (Fault.jni cause).isWrongType = false → allowed (.jni cause)

/-- The allowed faults are enough for what the machine does: thrown exceptions, and failures of the
native interface unless they are about the type of a value. -/
structure Covers (allowed : Fault → Prop) : Prop extends CoversInterface allowed where
  thrown : ∀ className message throwable, allowed (.thrown className message throwable)

theorem Covers.isForeign : Covers IsForeign where
  jni _ _ := trivial
  thrown _ _ _ := trivial

end Fault

theorem RawValue.reference_of_kind {raw : RawValue} (kind : raw.kind = .reference) :
    ∃ object, raw.reference? = .ok object := by
  cases raw <;> simp_all [RawValue.kind, RawValue.reference?]

namespace Jni

variable {α β : Type} {host : Host} {allowed : Fault → Prop} {expected : α → Prop}
  {wanted : β → Prop}

/-- The result of the operation is as expected, and its fault is an allowed one. -/
def Ends (host : Host) (allowed : Fault → Prop) (expected : α → Prop) (operation : Jni α) : Prop :=
  ∀ session, match (operation.exec host session).1 with
    | .ok result => expected result
    | .error fault => allowed fault

namespace Ends

theorem pure {result : α} (fits : expected result) :
    Ends host allowed expected (Pure.pure result) := by
  intro session
  exact fits

theorem throw {fault : Fault} (permitted : allowed fault) :
    Ends host allowed expected (throw fault : Jni α) := by
  intro session
  exact permitted

theorem resume {outcome : Except Fault α} (fits : ∀ result, outcome = .ok result → expected result)
    (permitted : ∀ fault, outcome = .error fault → allowed fault) :
    Ends host allowed expected (resume outcome) := by
  intro session
  rcases outcome with fault | result
  · exact permitted fault rfl
  · exact fits result rfl

theorem lift (operation : Native α) :
    Ends host allowed (fun _ => True) (liftM operation : Jni α) := by
  intro session
  exact trivial

theorem get : Ends host allowed (fun _ => True) (get : Jni Session) := by
  intro session
  exact trivial

theorem modify (change : Session → Session) :
    Ends host allowed (fun _ => True) (modify change : Jni PUnit) := by
  intro session
  exact trivial

/-- An attempt cannot fail, and the fault it yields is the one it kept. -/
theorem attempt {operation : Jni α} (ends : Ends host allowed expected operation) :
    Ends host allowed (fun outcome => (∀ result, outcome = .ok result → expected result) ∧
      ∀ fault, outcome = .error fault → allowed fault) (attempt operation) := by
  intro session
  have ended := ends session
  rw [exec_attempt]
  dsimp only
  refine ⟨?_, ?_⟩
  · intro result same
    rw [same] at ended
    exact ended
  · intro fault same
    rw [same] at ended
    exact ended

theorem bind {operation : Jni α} {next : α → Jni β} (first : Ends host allowed expected operation)
    (rest : ∀ result, expected result → Ends host allowed wanted (next result)) :
    Ends host allowed wanted (operation >>= next) := by
  intro session
  have ended := first session
  rw [exec_bind]
  rcases ran : operation.exec host session with ⟨fault | result, between⟩
  · rw [ran] at ended
    exact ended
  · rw [ran] at ended
    exact rest result ended between

theorem fault_allowed {operation : Jni α} (ends : Ends host allowed expected operation)
    {session after : Session} {fault : Fault}
    (ran : operation.exec host session = (.error fault, after)) : allowed fault := by
  have ended := ends session
  rw [ran] at ended
  exact ended

theorem releasingOnFault {refs : List GlobalRef} {operation : Jni α}
    (ends : Ends host allowed expected operation) :
    Ends host allowed expected (releasingOnFault refs operation) := by
  have done : Ends host allowed (fun _ => True) (Pure.pure () : Jni Unit) := pure trivial
  rw [Jni.releasingOnFault]
  apply bind ends.attempt
  rintro outcome ⟨fits, permitted⟩
  cases outcome with
  | ok result => exact done.bind fun _ _ => resume fits permitted
  | error fault => exact (lift _).bind fun _ _ => resume fits permitted

theorem cached {kept? : SharedState → Option α} {keep : α → SharedState → SharedState}
    {resolve : Jni α} (resolved : Ends host allowed (fun _ => True) resolve) :
    Ends host allowed (fun _ => True) (cached kept? keep resolve) := by
  intro session
  cases kept : kept? session.shared with
  | some known =>
      rw [exec_cached_of_some kept]
      trivial
  | none =>
      have ended := resolved session
      rw [exec_cached_of_none kept]
      rcases ran : resolve.exec host session with ⟨fault | found, after⟩
      · rw [ran] at ended
        exact ended
      · trivial

end Ends

end Jni

namespace Fault.CoversInterface

open Jni (Ends)

variable {host : Host} {allowed : Fault → Prop}

/-! ## Requests -/

theorem fail {α : Type} (covers : CoversInterface allowed) {cause : JniFault}
    (typed : (Fault.jni cause).isWrongType = false) :
    Ends host allowed (fun _ => True) (Jni.fail cause : Jni α) :=
  Ends.throw (covers.jni cause typed)

theorem request {α : Type} (covers : CoversInterface allowed) (function : Function) (event : Event)
    (answer : Host → History → α) :
    Ends host allowed (fun _ => True) (Jni.request function event answer) := by
  intro session
  rw [Jni.exec_request]
  by_cases provided : host.provides function = true
  · simp [provided]
  · simpa [provided] using covers.jni (.missingFunction function.name) rfl

theorem requestStatus (covers : CoversInterface allowed) (function : Function)
    (kind : StatusRequest) (event : Event) :
    Ends host allowed (fun _ => True) (Jni.requestStatus function kind event) := by
  intro session
  rw [Jni.exec_requestStatus]
  by_cases provided : host.provides function = true
  · simp [provided]
  · simpa [provided] using covers.jni (.missingFunction function.name) rfl

theorem exceptionCheck (covers : CoversInterface allowed) :
    Ends host allowed (fun _ => True) Jni.exceptionCheck := by
  rw [Jni.exceptionCheck]
  exact (covers.request _ _ _).bind fun _ _ => Ends.get.bind fun _ _ => Ends.pure trivial

theorem check (covers : CoversInterface allowed) : Ends host allowed (fun _ => True) Jni.check := by
  rw [Jni.check]
  apply covers.exceptionCheck.bind
  intro found _
  split
  · exact covers.fail rfl
  · exact Ends.pure trivial

theorem exceptionOccurred (covers : CoversInterface allowed) :
    Ends host allowed (fun _ => True) Jni.exceptionOccurred := by
  rw [Jni.exceptionOccurred]
  exact (covers.request _ _ _).bind fun _ _ => Ends.get.bind fun _ _ => Ends.pure trivial

theorem exceptionClear (covers : CoversInterface allowed) :
    Ends host allowed (fun _ => True) Jni.exceptionClear := by
  rw [Jni.exceptionClear]
  exact (covers.request _ _ _).bind fun _ _ => Ends.modify _

theorem takePending (covers : CoversInterface allowed) :
    Ends host allowed (fun _ => True) Jni.takePending := by
  rw [Jni.takePending]
  apply covers.exceptionCheck.bind
  intro found _
  split
  · apply covers.exceptionOccurred.bind
    intro exception _
    exact covers.exceptionClear.bind fun _ _ => Ends.pure trivial
  · exact Ends.pure trivial

theorem acquire (covers : CoversInterface allowed) (function : Function) (event : Event)
    (answer : Host → History → Reply) {refusal : JniFault}
    (typed : (Fault.jni refusal).isWrongType = false) :
    Ends host allowed (fun _ => True) (Jni.acquire function event answer refusal) := by
  rw [Jni.acquire]
  apply (covers.request _ _ _).bind
  intro reply _
  have checked : Ends host allowed (fun _ => True) (do
      Jni.check
      unless reply.isGiven do Jni.fail refusal) := by
    apply covers.check.bind
    intro _ _
    split
    · exact Ends.pure trivial
    · exact covers.fail typed
  dsimp only
  split
  · exact (Ends.lift _).bind fun _ _ => checked
  · exact checked

theorem findClass (covers : CoversInterface allowed) (className : String) :
    Ends host allowed (fun _ => True) (Jni.findClass className) :=
  covers.acquire _ _ _ rfl

theorem findMethod (covers : CoversInterface allowed) (method : MethodId) :
    Ends host allowed (fun _ => True) (Jni.findMethod method) :=
  (covers.acquire _ _ _ rfl).bind fun _ _ => Ends.pure trivial

theorem newString (covers : CoversInterface allowed) (text : String) :
    Ends host allowed (fun _ => True) (Jni.newString text) :=
  (covers.acquire _ _ _ rfl).bind fun _ _ => Ends.pure trivial

theorem newColor (covers : CoversInterface allowed) (color : Rgba) :
    Ends host allowed (fun _ => True) (Jni.newColor color) :=
  (covers.acquire _ _ _ rfl).bind fun _ _ => Ends.pure trivial

theorem readText (covers : CoversInterface allowed) (object : Option Object) :
    Ends host allowed (fun _ => True) (Jni.readText object) := by
  unfold Jni.readText
  apply (covers.findClass _).bind
  intro _ _
  cases object with
  | none => exact covers.fail rfl
  | some given =>
      have read : Ends host allowed (fun _ => True) (do
          Jni.request .getStringUtfChars (.readString given) fun _ _ => ()
          Jni.check
          return given.units.toText) := by
        apply (covers.request _ _ _).bind
        intro _ _
        exact covers.check.bind fun _ _ => Ends.pure trivial
      apply (covers.request _ _ _).bind
      intro _ _
      apply (covers.request _ _ _).bind
      intro _ _
      dsimp only
      split
      · exact read
      · exact (covers.fail rfl).bind fun _ _ => read

/-- A call function returns a value of its own kind. -/
theorem invoke (covers : CoversInterface allowed) (event : Event) (receiver : Object)
    (method : MethodId) (kind : CallKind) (args : List RawValue) :
    Ends host allowed (fun raw => raw.kind = kind)
      (Jni.invoke event receiver method kind args) := by
  rw [Jni.invoke]
  apply (covers.request _ _ _).bind
  intro outcome _
  cases outcome with
  | returns value => exact covers.check.bind fun _ _ => Ends.pure (CallKind.kind_narrow kind value)
  | throws exception =>
      apply (Ends.lift _).bind
      intro _ _
      exact covers.check.bind fun _ _ => Ends.pure (CallKind.kind_default kind)

theorem access (covers : CoversInterface allowed) (receiver : Object) (method : MethodId)
    (args : List RawValue) :
    Ends host allowed (fun raw => raw.kind = .reference) (Jni.access receiver method args) :=
  covers.invoke _ _ _ _ _

theorem newGlobalRef (covers : CoversInterface allowed) (object : Object) :
    Ends host allowed (fun _ => True) (Jni.newGlobalRef object) := by
  have found : Ends host allowed (fun _ => True) Jni.getJavaVm := by
    rw [Jni.getJavaVm]
    apply Ends.get.bind
    intro session _
    apply (covers.requestStatus _ _ _).bind
    intro code _
    dsimp only
    split
    · exact Ends.pure trivial
    · exact (covers.fail rfl).bind fun _ _ => Ends.pure trivial
  exact found.bind fun _ _ => covers.request _ _ _

/-! ## Caches -/

theorem resolveCoreClasses (covers : CoversInterface allowed) :
    Ends host allowed (fun _ => True) Jni.resolveCoreClasses := by
  have kept (className : String) : Ends host allowed (fun _ => True) (Jni.keepClass className) :=
    covers.newGlobalRef _
  rw [Jni.resolveCoreClasses]
  apply (covers.findClass _).bind
  intro _ _
  apply (covers.findMethod _).bind
  intro getClass _
  apply (covers.findClass _).bind
  intro _ _
  apply (covers.findMethod _).bind
  intro getName _
  apply (covers.findClass _).bind
  intro _ _
  apply (covers.findMethod _).bind
  intro getMessage _
  apply (covers.findMethod _).bind
  intro getCause _
  apply (kept _).bind
  intro objectClass _
  apply (kept _).releasingOnFault.bind
  intro classClass _
  apply (kept _).releasingOnFault.bind
  intro throwableClass _
  exact Ends.pure trivial

theorem coreClasses (covers : CoversInterface allowed) :
    Ends host allowed (fun _ => True) Jni.coreClasses :=
  covers.resolveCoreClasses.cached

theorem colorClass (covers : CoversInterface allowed) :
    Ends host allowed (fun _ => True) Jni.colorClass := by
  have resolved : Ends host allowed (fun _ => True) Jni.resolveColorClass := by
    rw [Jni.resolveColorClass]
    apply (covers.findClass _).bind
    intro _ _
    apply (covers.findMethod _).bind
    intro construct _
    apply (covers.findMethod _).bind
    intro getComponents _
    exact (covers.newGlobalRef _).bind fun _ _ => Ends.pure trivial
  exact resolved.cached

end Fault.CoversInterface

/-! ## Exceptions -/

namespace Fault.Covers

open Jni (Ends)

variable {host : Host} {allowed : Fault → Prop}

/-- A reply of an accessor is read as the reference it is. -/
theorem reference {reply : Except Fault RawValue}
    (fits : ∀ raw, reply = .ok raw → raw.kind = .reference)
    (permitted : ∀ fault, reply = .error fault → allowed fault) :
    Ends host allowed (fun _ => True) (do
      let value ← Jni.resume reply
      Jni.resume value.reference?) := by
  have replied : Ends host allowed (fun raw => raw.kind = .reference) (Jni.resume reply) :=
    Ends.resume fits permitted
  apply replied.bind
  intro raw kind
  rcases RawValue.reference_of_kind kind with ⟨object, read⟩
  rw [read]
  exact Ends.pure trivial

theorem consult (covers : Covers allowed) (receiver : Object) (accessor : MethodId)
    {failure : Option (Jni Fault)}
    (reported : ∀ thrown, failure = some thrown → Ends host allowed allowed thrown) :
    Ends host allowed (fun _ => True) (Jni.consult receiver accessor failure) := by
  rw [Jni.consult]
  apply (covers.access receiver accessor []).attempt.bind
  rintro reply ⟨fits, permitted⟩
  apply covers.takePending.bind
  intro pending _
  split
  · next thrown =>
      apply (reported thrown rfl).bind
      intro fault isAllowed
      exact Ends.throw isAllowed
  · exact reference fits permitted

theorem reported_of_described (covers : Covers allowed) {exception : Throwable}
    {description : Jni (String × String)}
    (described : Ends host allowed (fun _ => True) description) :
    Ends host allowed allowed (Jni.faultOf exception description) := by
  rw [Jni.faultOf]
  apply described.bind
  intro texts _
  apply (covers.newGlobalRef _).bind
  intro ref _
  exact Ends.pure (covers.thrown _ _ _)

theorem describe (covers : Covers allowed) (core : CoreClasses) (exception : Throwable) :
    Ends host allowed (fun _ => True) (Jni.describe core exception) := by
  induction exception using Throwable.induction with
  | node exception ofCause ofFailure =>
      have asked (accessor : Accessor) :
          Ends host allowed (fun _ => True) (Jni.ask core exception accessor) := by
        apply covers.consult
        intro thrown given
        rcases Option.map_eq_some_iff.mp given with ⟨failure, fails, rfl⟩
        exact covers.reported_of_described (ofFailure accessor failure fails)
      have finished (nameText ownText : String) :
          Ends host allowed (fun _ => True)
            (Jni.describeCause core exception nameText ownText) := by
        rw [Jni.describeCause]
        apply (asked .getCause).bind
        intro _ _
        cases caused : exception.cause with
        | none => exact Ends.pure trivial
        | some inner => exact (ofCause inner caused).bind fun _ _ => Ends.pure trivial
      rw [Jni.describe_eq]
      apply (asked .getClass).bind
      intro _ _
      apply (asked .getName).bind
      intro name _
      apply (covers.readText name).bind
      intro nameText _
      apply (asked .getMessage).bind
      intro own _
      cases own with
      | none => exact finished nameText "null"
      | some text => exact (covers.readText _).bind fun ownText _ => finished nameText ownText

theorem faultOf (covers : Covers allowed) (core : CoreClasses) (exception : Throwable) :
    Ends host allowed allowed (Jni.faultOf exception (Jni.describe core exception)) :=
  covers.reported_of_described (covers.describe core exception)

theorem convert (covers : Covers allowed) (exception : Throwable) :
    Ends host allowed allowed (Jni.convert exception) := by
  rw [Jni.convert]
  apply covers.coreClasses.bind
  intro core _
  apply Ends.get.bind
  intro session _
  split
  · apply (covers.access _ _ _).attempt.bind
    rintro reply ⟨fits, permitted⟩
    apply covers.takePending.bind
    intro pending _
    cases pending with
    | some left => exact (covers.faultOf core left).bind fun _ isAllowed => Ends.throw isAllowed
    | none =>
        have replied : Ends host allowed (fun raw => raw.kind = .reference) (Jni.resume reply) :=
          Ends.resume fits permitted
        exact replied.bind fun _ _ => covers.faultOf core exception
  · exact covers.faultOf core exception

theorem takeException (covers : Covers allowed) :
    Ends host allowed (fun taken => ∀ fault, taken = some fault → allowed fault)
      Jni.takeException := by
  rw [Jni.takeException]
  apply covers.takePending.bind
  intro pending _
  cases pending with
  | none => exact Ends.pure (by simp)
  | some exception =>
      apply (covers.convert exception).bind
      intro fault isAllowed
      exact Ends.pure (by simpa)

theorem failOnException (covers : Covers allowed) :
    Ends host allowed (fun _ => True) Jni.failOnException := by
  rw [Jni.failOnException]
  apply covers.takeException.bind
  intro found permitted
  cases found with
  | none => exact Ends.pure trivial
  | some fault => exact Ends.throw (permitted fault rfl)

theorem makeColor (covers : Covers allowed) (color : Rgba) :
    Ends host allowed (fun _ => True) (Jni.makeColor color) := by
  rw [Jni.makeColor]
  apply covers.colorClass.bind
  intro _ _
  apply (covers.newColor color).attempt.bind
  rintro made ⟨fits, permitted⟩
  exact covers.failOnException.bind fun _ _ => Ends.resume fits permitted

end Fault.Covers

end NativeProxy
