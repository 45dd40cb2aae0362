import NativeProxy.Proofs.Throwable
import NativeProxy.Proxy.Invoke

/-!
# Routine work

Converting values and exceptions, releasing references and filling the caches leave many events
behind, but they never make a frame and never call a bound method, and they look up the methods of
the library's own classes only. A property of sessions that bears the events of routine work is
kept by all of it, however it ends: `Session.Robust` covers single requests, `Host.Sustains` all
that may need the caches. `Session.Steady` and `Host.Endures` ask for less: the property bears
errands, the routine work that asks no object anything, and the conversion of exceptions as a
whole. The laws of runs are instances of these lemmas.
-/

namespace NativeProxy

namespace Event

/-- A request for a frame or a call of a bound method: what only a call through a proxy, or making
a proxy, leaves behind. -/
def isMilestone : Event → Bool
  | pushFrame _ => true
  | call .. => true
  | _ => false

def isLookup : Event → Bool
  | getMethodId _ => true
  | _ => false

def isRoutine (event : Event) : Bool :=
  !event.isMilestone && !event.isLookup

/-- Routine work other than asking an object something through a method of the library's own
classes. -/
def isErrand : Event → Bool
  | access .. => false
  | event => event.isRoutine

theorem isRoutine_of_isErrand {event : Event} (errand : event.isErrand = true) :
    event.isRoutine = true := by
  cases event <;> first | rfl | cases errand

/-- What releasing a reference leaves behind: the thread is attached and the reference deleted. -/
inductive Releases (ref : GlobalRef) : Event → Prop where
  | threadEnv : Releases ref .threadEnv
  | attachThread : Releases ref .attachThread
  | deleteGlobalRef : Releases ref (.deleteGlobalRef ref)

theorem Releases.isErrand {ref : GlobalRef} {event : Event} (releases : event.Releases ref) :
    event.isErrand = true := by
  cases releases <;> rfl

end Event

/-- The methods that are looked up on the class of colours. -/
def ColorClass.methods : List MethodId :=
  [⟨Descriptor.colorClass, "<init>", "(FFFF)V"⟩,
    ⟨Descriptor.colorClass, "getRGBComponents", "([F)[F"⟩]

/-- The property bears routine events, log records, and exceptions that come and go. -/
structure Session.Robust (property : Session → Prop) : Prop where
  recorded : ∀ {session : Session} {event : Event}, event.isRoutine = true → property session →
    property (session.record event)
  pended : ∀ {session : Session} (pending : Option Throwable), property session →
    property { session with pending := pending }
  logged : ∀ {session : Session} (entry : LogRecord), property session →
    property { session with logs := session.logs ++ [entry] }

/-- The property bears routine events that ask no object anything, log records, and exceptions that
come and go. -/
structure Session.Steady (property : Session → Prop) : Prop where
  recorded : ∀ {session : Session} {event : Event}, event.isErrand = true → property session →
    property (session.record event)
  pended : ∀ {session : Session} (pending : Option Throwable), property session →
    property { session with pending := pending }
  logged : ∀ {session : Session} (entry : LogRecord), property session →
    property { session with logs := session.logs ++ [entry] }

theorem Session.Robust.steady {property : Session → Prop} (robust : Session.Robust property) :
    Session.Steady property where
  recorded errand := robust.recorded (Event.isRoutine_of_isErrand errand)
  pended := robust.pended
  logged := robust.logged

/-- Errands do not touch the state of the process. -/
theorem Session.Steady.ofShared (law : SharedState → Prop) :
    Session.Steady fun session => law session.shared where
  recorded _ holds := holds
  pended _ holds := holds
  logged _ holds := holds

/-- The property also bears that a cache is filled, or finds it filled. -/
structure Host.Sustains (host : Host) (property : Session → Prop) : Prop
    extends Session.Robust property where
  core : Jni.Keeps host property Jni.coreClasses
  color : Jni.Keeps host property Jni.colorClass

variable {host : Host} {property : Session → Prop}

/-! ## Releasing -/

namespace Native

section Release

variable (pended : ∀ {session : Session} (pending : Option Throwable), property session →
    property { session with pending := pending })

include pended

/-- A status function may leave an exception behind. -/
theorem status_keeps (kind : StatusRequest) {event : Event}
    (recorded : ∀ session, property session → property (session.record event)) :
    Keeps host property (status kind event) := by
  intro session holds
  rw [exec_status]
  exact pended _ (recorded session holds)

theorem release_keeps {ref : GlobalRef}
    (recorded : ∀ session event, event.Releases ref → property session →
      property (session.record event)) :
    Keeps host property (release ref) := by
  have asked (kind : StatusRequest) : Keeps host property (status kind .threadEnv) :=
    status_keeps pended kind fun session => recorded session _ .threadEnv
  have attached : Keeps host property attach := by
    rw [attach]
    apply (asked _).bind
    intro code
    split
    · exact Keeps.pure true
    · apply Keeps.bind (status_keeps pended _ fun session => recorded session _ .attachThread)
      intro code
      exact Keeps.pure _
  have deleted : Jni.Keeps host property
      (Jni.request .deleteGlobalRef (.deleteGlobalRef ref) fun _ _ => ()) :=
    Jni.Keeps.request fun session => recorded session _ .deleteGlobalRef
  have finished (attached : Bool) : Keeps host property (do
      if attached then
        let _ ← (Jni.request .deleteGlobalRef (.deleteGlobalRef ref) fun _ _ => ()).run) := by
    split
    · exact Keeps.bind deleted fun _ => Keeps.pure _
    · exact Keeps.pure _
  rw [release]
  apply (asked _).bind
  intro code
  dsimp only
  split
  · exact (Keeps.pure true).bind finished
  · exact attached.bind finished

end Release

end Native

namespace Session.Steady

/-! ## Operations that always finish -/

section Native

open Native (Keeps)

theorem log (steady : Steady property) (level : Level) (text : String) :
    Keeps host property (Native.log level text) := by
  intro session holds
  exact steady.logged ⟨level, text⟩ holds

theorem raise (steady : Steady property) (exception : Throwable) :
    Keeps host property (Native.raise exception) := by
  intro session holds
  exact steady.pended (some exception) holds

theorem release (steady : Steady property) (ref : GlobalRef) :
    Keeps host property (Native.release ref) :=
  Native.release_keeps steady.pended fun _ _ releases => steady.recorded releases.isErrand

theorem releaseAll (steady : Steady property) (refs : List GlobalRef) :
    Keeps host property (Native.releaseAll refs) :=
  Native.releaseAll_keeps steady.release refs

end Native

/-! ## Requests -/

section Jni

open Jni (Keeps)

theorem request (steady : Steady property) {α : Type} (function : Function) {event : Event}
    (answer : Host → History → α) (errand : event.isErrand = true) :
    Keeps host property (Jni.request function event answer) :=
  Keeps.request fun _ => steady.recorded errand

/-- A status function may leave an exception behind. -/
theorem requestStatus (steady : Steady property) (function : Function) (kind : StatusRequest)
    {event : Event} (recorded : ∀ session, property session → property (session.record event)) :
    Keeps host property (Jni.requestStatus function kind event) := by
  intro session holds
  rw [Jni.exec_requestStatus]
  split
  · exact steady.pended _ (recorded session holds)
  · exact holds

theorem exceptionCheck (steady : Steady property) : Keeps host property Jni.exceptionCheck := by
  rw [Jni.exceptionCheck]
  apply Keeps.bind (steady.request _ _ rfl)
  intro _
  apply Keeps.getThen
  intro session holds
  exact holds

theorem exceptionOccurred (steady : Steady property) :
    Keeps host property Jni.exceptionOccurred := by
  rw [Jni.exceptionOccurred]
  apply Keeps.bind (steady.request _ _ rfl)
  intro _
  apply Keeps.getThen
  intro session holds
  exact holds

theorem exceptionClear (steady : Steady property) : Keeps host property Jni.exceptionClear := by
  rw [Jni.exceptionClear]
  apply Keeps.bind (steady.request _ _ rfl)
  intro _ session holds
  exact steady.pended none holds

theorem takePending (steady : Steady property) : Keeps host property Jni.takePending := by
  rw [Jni.takePending]
  apply Keeps.bind steady.exceptionCheck
  intro found
  split
  · apply Keeps.bind steady.exceptionOccurred
    intro exception
    apply Keeps.bind steady.exceptionClear
    intro _
    exact Keeps.pure exception
  · exact Keeps.pure none

theorem check (steady : Steady property) : Keeps host property Jni.check := by
  rw [Jni.check]
  apply Keeps.bind steady.exceptionCheck
  intro found
  split
  · exact Keeps.throw _
  · exact Keeps.pure ()

/-- What follows the answer to a lookup or a creation. -/
theorem acquire (steady : Steady property) (function : Function) {event : Event}
    (recorded : ∀ session, property session → property (session.record event))
    (answer : Host → History → Reply) (refusal : JniFault) :
    Keeps host property (Jni.acquire function event answer refusal) := by
  rw [Jni.acquire]
  apply Keeps.bind (Keeps.request recorded)
  intro reply
  have checked : Keeps host property (do
      Jni.check
      unless reply.isGiven do Jni.fail refusal) := by
    apply Keeps.bind steady.check
    intro _
    split
    · exact Keeps.pure _
    · exact Keeps.throw _
  dsimp only
  split
  · apply Keeps.bind (Keeps.lift (steady.raise _))
    intro _
    exact checked
  · exact checked

theorem findClass (steady : Steady property) (className : String) :
    Keeps host property (Jni.findClass className) :=
  steady.acquire _ (fun _ => steady.recorded rfl) _ _

theorem findMethod (steady : Steady property) {method : MethodId}
    (recorded : ∀ session, property session → property (session.record (.getMethodId method))) :
    Keeps host property (Jni.findMethod method) := by
  rw [Jni.findMethod]
  apply Keeps.bind (steady.acquire _ recorded _ _)
  intro _
  exact Keeps.pure method

theorem newString (steady : Steady property) (text : String) :
    Keeps host property (Jni.newString text) := by
  rw [Jni.newString]
  apply Keeps.bind (steady.acquire _ (fun _ => steady.recorded rfl) _ _)
  intro _
  exact Keeps.pure _

theorem newColor (steady : Steady property) (color : Rgba) :
    Keeps host property (Jni.newColor color) := by
  rw [Jni.newColor]
  apply Keeps.bind (steady.acquire _ (fun _ => steady.recorded rfl) _ _)
  intro _
  exact Keeps.pure _

theorem readText (steady : Steady property) (object : Option Object) :
    Keeps host property (Jni.readText object) := by
  unfold Jni.readText
  apply Keeps.bind (steady.findClass _)
  intro _
  split
  · exact Keeps.throw _
  · next given =>
      apply Keeps.bind (steady.request _ _ rfl)
      intro _
      apply Keeps.bind (steady.request _ _ rfl)
      intro _
      have read : Keeps host property (do
          Jni.request .getStringUtfChars (.readString given) fun _ _ => ()
          Jni.check
          return given.units.toText) := by
        apply Keeps.bind (steady.request _ _ rfl)
        intro _
        apply Keeps.bind steady.check
        intro _
        exact Keeps.pure _
      dsimp only
      split
      · exact read
      · exact (Keeps.throw _).bind fun _ => read

/-- What follows the answer to a call. -/
theorem answered (steady : Steady property) (kind : CallKind) (outcome : Outcome) :
    Keeps host property (match outcome with
      | .returns value => do
        Jni.check
        return kind.narrow value
      | .throws exception => do
        Native.raise exception
        Jni.check
        return kind.default : Jni RawValue) := by
  cases outcome with
  | returns value =>
      apply Keeps.bind steady.check
      intro _
      exact Keeps.pure _
  | throws exception =>
      apply Keeps.bind (Keeps.lift (steady.raise exception))
      intro _
      apply Keeps.bind steady.check
      intro _
      exact Keeps.pure _

theorem invoke (steady : Steady property) {event : Event}
    (recorded : ∀ session, property session → property (session.record event))
    (receiver : Object) (method : MethodId) (kind : CallKind) (args : List RawValue) :
    Keeps host property (Jni.invoke event receiver method kind args) := by
  rw [Jni.invoke]
  apply Keeps.bind (Keeps.request recorded)
  exact steady.answered kind

theorem access (steady : Steady property) {receiver : Object} {method : MethodId}
    {args : List RawValue}
    (recorded : ∀ session, property session →
      property (session.record (.access receiver method args))) :
    Keeps host property (Jni.access receiver method args) :=
  steady.invoke recorded _ _ _ _

theorem readFloats (steady : Steady property) (array : Object) :
    Keeps host property (Jni.readFloats array) := by
  rw [Jni.readFloats]
  apply Keeps.bind (steady.request _ _ rfl)
  intro _
  apply Keeps.bind steady.check
  intro _
  exact Keeps.pure _

theorem getJavaVm (steady : Steady property) : Keeps host property Jni.getJavaVm := by
  rw [Jni.getJavaVm]
  apply Keeps.getThen
  intro session holds
  apply Keeps.bind (steady.requestStatus _ _ fun _ => steady.recorded rfl) _ session holds
  intro code
  dsimp only
  split
  · exact Keeps.pure _
  · exact (Keeps.throw _).bind fun _ => Keeps.pure _

theorem newGlobalRef (steady : Steady property) (object : Object) :
    Keeps host property (Jni.newGlobalRef object) := by
  rw [Jni.newGlobalRef]
  apply Keeps.bind steady.getJavaVm
  intro _
  exact steady.request _ _ rfl

theorem keepClass (steady : Steady property) (className : String) :
    Keeps host property (Jni.keepClass className) :=
  steady.newGlobalRef _

theorem releasingOnFault (steady : Steady property) {α : Type} (refs : List GlobalRef)
    {operation : Jni α} (kept : Keeps host property operation) :
    Keeps host property (Jni.releasingOnFault refs operation) :=
  Jni.releasingOnFault_keeps steady.release refs kept

/-! ## Caches -/

/-- Looking the core classes up looks the methods of the accessors up. -/
theorem resolveCoreClasses (steady : Steady property)
    (recorded : ∀ (accessor : Accessor) session, property session →
      property (session.record (.getMethodId accessor.method))) :
    Keeps host property Jni.resolveCoreClasses := by
  rw [Jni.resolveCoreClasses]
  apply Keeps.bind (steady.findClass _)
  intro _
  apply Keeps.bind (steady.findMethod (recorded .getClass))
  intro getClass
  apply Keeps.bind (steady.findClass _)
  intro _
  apply Keeps.bind (steady.findMethod (recorded .getName))
  intro getName
  apply Keeps.bind (steady.findClass _)
  intro _
  apply Keeps.bind (steady.findMethod (recorded .getMessage))
  intro getMessage
  apply Keeps.bind (steady.findMethod (recorded .getCause))
  intro getCause
  apply Keeps.bind (steady.keepClass _)
  intro objectClass
  apply Keeps.bind (steady.releasingOnFault _ (steady.keepClass _))
  intro classClass
  apply Keeps.bind (steady.releasingOnFault _ (steady.keepClass _))
  intro throwableClass
  exact Keeps.pure _

theorem resolveColorClass (steady : Steady property)
    (recorded : ∀ method ∈ ColorClass.methods, ∀ session, property session →
      property (session.record (.getMethodId method))) :
    Keeps host property Jni.resolveColorClass := by
  rw [Jni.resolveColorClass]
  apply Keeps.bind (steady.findClass _)
  intro _
  apply Keeps.bind (steady.findMethod (recorded _ (by simp [ColorClass.methods])))
  intro construct
  apply Keeps.bind (steady.findMethod (recorded _ (by simp [ColorClass.methods])))
  intro getComponents
  apply Keeps.bind (steady.keepClass _)
  intro colorClass
  exact Keeps.pure _

/-- A property that bears the lookups, and what is kept of them, bears that the core classes are
looked up or found to be known. -/
theorem coreClasses (steady : Steady property)
    (recorded : ∀ (accessor : Accessor) session, property session →
      property (session.record (.getMethodId accessor.method)))
    (kept : ∀ session core, property session →
      property { session with shared := { session.shared with core := some core } }) :
    Keeps host property Jni.coreClasses :=
  (steady.resolveCoreClasses recorded).cached fun _ _ _ holds => kept _ _ holds

theorem colorClass (steady : Steady property)
    (recorded : ∀ method ∈ ColorClass.methods, ∀ session, property session →
      property (session.record (.getMethodId method)))
    (kept : ∀ session color, property session →
      property { session with shared := { session.shared with color := some color } }) :
    Keeps host property Jni.colorClass :=
  (steady.resolveColorClass recorded).cached fun _ _ _ holds => kept _ _ holds

/-! ## Exceptions -/

theorem consult (steady : Steady property) {receiver : Object} {accessor : MethodId}
    (recorded : ∀ session, property session →
      property (session.record (.access receiver accessor [])))
    (failure : Option (Jni Fault))
    (kept : ∀ thrown, failure = some thrown → Keeps host property thrown) :
    Keeps host property (Jni.consult receiver accessor failure) := by
  rw [Jni.consult]
  apply Keeps.bind (Keeps.attempt (steady.access recorded))
  intro reply
  apply Keeps.bind steady.takePending
  intro pending
  split
  · next thrown =>
      apply Keeps.bind (kept thrown rfl)
      intro fault
      exact Keeps.throw fault
  · exact (Keeps.resume reply).bind fun _ => Keeps.resume _

section Core

variable {core : CoreClasses}
  (recorded : ∀ (exception : Throwable) accessor session, property session →
    property (session.record (.access (exception.receiver accessor) (core.method accessor) [])))

include recorded

theorem faultOf (steady : Steady property) (exception : Throwable) :
    Keeps host property (Jni.faultOf exception (Jni.describe core exception)) := by
  rw [Jni.faultOf]
  apply Keeps.bind (Jni.describe_keeps core
    (fun exception accessor => steady.consult (recorded exception accessor)) steady.readText
    steady.newGlobalRef exception)
  intro described
  apply Keeps.bind (steady.newGlobalRef _)
  intro ref
  exact Keeps.pure _

end Core

/-- Converting an exception asks it and its causes through the methods of the core classes. -/
theorem convert (steady : Steady property) {found : CoreClasses → Prop}
    (kept : Keeps host property Jni.coreClasses)
    (finds : ∀ {session after : Session} {core : CoreClasses}, property session →
      Jni.coreClasses.exec host session = (.ok core, after) → found core)
    (recorded : ∀ core, found core → ∀ (exception : Throwable) accessor session,
      property session → property
        (session.record (.access (exception.receiver accessor) (core.method accessor) [])))
    (exception : Throwable) : Keeps host property (Jni.convert exception) := by
  rw [Jni.convert]
  apply Keeps.bindFound kept finds
  intro core known
  have described (exception : Throwable) :
      Keeps host property (Jni.faultOf exception (Jni.describe core exception)) :=
    steady.faultOf (recorded core known) exception
  apply Keeps.getThen
  intro session holds
  split
  · refine Keeps.bind ?_ ?_ session holds
    · exact Keeps.attempt (steady.access (recorded core known exception .getClass))
    · intro reply
      apply Keeps.bind steady.takePending
      intro pending
      cases pending with
      | none => exact (Keeps.resume reply).bind fun _ => described exception
      | some left => exact (described left).bind fun _ => Keeps.throw _
  · exact described exception session holds

end Jni

end Session.Steady

/-- The property bears errands, the conversion of exceptions, and that the class of colours is
looked up, or found to be known. -/
structure Host.Endures (host : Host) (property : Session → Prop) : Prop
    extends Session.Steady property where
  convert : ∀ exception, Jni.Keeps host property (Jni.convert exception)
  color : Jni.Keeps host property Jni.colorClass

theorem Host.Sustains.endures (sustains : host.Sustains property) : host.Endures property where
  toSteady := sustains.steady
  convert := sustains.steady.convert sustains.core (fun _ _ => trivial)
    fun _ _ _ _ _ => sustains.recorded rfl
  color := sustains.color

namespace Host.Endures

open Jni (Keeps)

theorem takeException (endures : host.Endures property) :
    Keeps host property Jni.takeException := by
  rw [Jni.takeException]
  apply Keeps.bind endures.takePending
  intro pending
  cases pending with
  | none => exact Keeps.pure none
  | some exception => exact (endures.convert exception).bind fun _ => Keeps.pure _

theorem failOnException (endures : host.Endures property) :
    Keeps host property Jni.failOnException := by
  rw [Jni.failOnException]
  apply Keeps.bind endures.takeException
  intro taken
  cases taken with
  | none => exact Keeps.pure ()
  | some fault => exact Keeps.throw fault

/-! ## Conversions -/

theorem makeColor (endures : host.Endures property) (color : Rgba) :
    Keeps host property (Jni.makeColor color) := by
  rw [Jni.makeColor]
  apply Keeps.bind endures.color
  intro _
  apply Keeps.bind (Keeps.attempt (endures.newColor color))
  intro made
  apply Keeps.bind endures.failOnException
  intro _
  exact Keeps.resume made

theorem accessOrFail (endures : host.Endures property) {receiver : Object} {method : MethodId}
    {args : List RawValue}
    (recorded : ∀ session, property session →
      property (session.record (.access receiver method args))) :
    Keeps host property (Jni.accessOrFail receiver method args) := by
  rw [Jni.accessOrFail]
  apply Keeps.bind (Keeps.attempt (endures.access recorded))
  intro reply
  apply Keeps.bind endures.failOnException
  intro _
  refine Keeps.bind (Keeps.resume reply) fun value => ?_
  exact Keeps.resume _

/-- What is made of the components that a colour answered with. -/
theorem components (endures : host.Endures property) (answered : Option Object) :
    Keeps host property (match answered with
      | none => Jni.fail (.nullPointer "get_array_length array argument")
      | some array => do
        let length ← Jni.arrayLength array
        match Rgba.ofComponents? array.elements with
        | none =>
          throw (.internal
            ("Color#getRGBComponents returned " ++ toString length ++ " components"))
        | some color =>
          let _ ← Jni.readFloats array
          return color : Jni Rgba) := by
  cases answered with
  | none => exact Keeps.throw _
  | some array =>
      apply Keeps.bind (endures.request _ _ rfl)
      intro length
      split
      · exact Keeps.throw _
      · apply Keeps.bind (endures.readFloats array)
        intro _
        exact Keeps.pure _

theorem convertArgument (endures : host.Endures property) (method : Method) (index : Nat)
    (plan : Plan) (value : Value) :
    Keeps host property (Jni.convertArgument method index plan value) := by
  rw [Jni.convertArgument.eq_def]
  split
  · apply Keeps.bind (Keeps.lift (endures.log _ _))
    intro _
    exact Keeps.pure _
  · exact Keeps.pure _
  · exact Keeps.pure _
  · exact Keeps.pure _
  · exact Keeps.resume _
  · exact (endures.newString _).bind fun _ => Keeps.pure _
  · exact (endures.makeColor _).bind fun _ => Keeps.pure _
  · exact Keeps.pure _
  · exact Keeps.throw _

theorem convertFrom (endures : host.Endures property) (method : Method) (index : Nat)
    (plans : List Plan) (values : List Value) :
    Keeps host property (Jni.convertFrom method index plans values) := by
  induction plans generalizing index values with
  | nil => exact Keeps.pure _
  | cons plan plans ih =>
      cases values with
      | nil => exact Keeps.pure _
      | cons value values =>
          rw [Jni.convertFrom]
          apply Keeps.bind (endures.convertArgument _ _ _ _)
          intro raw
          apply Keeps.bind (ih _ _)
          intro raws
          exact Keeps.pure _

theorem reference {raw : RawValue} {next : Object → Jni Value}
    (converted : ∀ object, Keeps host property (next object)) :
    Keeps host property (do
      match ← Jni.resume raw.reference? with
      | none => return .null
      | some object => next object) := by
  refine Keeps.bind (Keeps.resume _) fun object => ?_
  cases object with
  | none => exact Keeps.pure _
  | some object => exact converted object

/-- Only a result that is converted as a colour is asked anything. -/
theorem convertResult (endures : host.Endures property) (method : Method) (raw : RawValue)
    (colored : method.result = .color → ∀ object, Keeps host property (Jni.readColor object)) :
    Keeps host property (Jni.convertResult method raw) := by
  rw [Jni.convertResult.eq_def]
  split
  · exact Keeps.resume _
  · apply reference
    intro object
    exact (endures.readText _).bind fun _ => Keeps.pure _
  · next planned =>
      apply reference
      intro object
      exact (colored planned object).bind fun _ => Keeps.pure _
  · apply reference
    intro object
    exact (endures.newGlobalRef _).bind fun _ => Keeps.pure _
  · apply Keeps.bind (Keeps.lift (endures.log _ _))
    intro _
    exact Keeps.pure _

/-! ## Settling -/

/-- What settling makes of an outcome. -/
theorem settled (endures : host.Endures property) (outcome : Except Fault Value) :
    Keeps host property (match outcome with
      | .ok value => return value
      | .error fault => do
        let pending ← Jni.releasingOnFault fault.refs Jni.takeException
        match pending with
        | some exception =>
          Native.releaseAll fault.refs
          throw exception
        | none => throw fault : Jni Value) := by
  cases outcome with
  | ok value => exact Keeps.pure value
  | error fault =>
      apply Keeps.bind (endures.releasingOnFault _ endures.takeException)
      intro pending
      cases pending with
      | none => exact Keeps.throw fault
      | some exception =>
          apply Keeps.bind (Keeps.lift (endures.releaseAll _))
          intro _
          exact Keeps.throw exception

theorem settle (endures : host.Endures property) {operation : Jni Value}
    (kept : Keeps host property operation) : Keeps host property (Proxy.settle operation) := by
  rw [Proxy.settle]
  apply Keeps.bind kept.attempt
  exact endures.settled

end Host.Endures

namespace Host.Sustains

open Jni (Keeps)

theorem readColor (sustains : host.Sustains property) (object : Object) :
    Keeps host property (Jni.readColor object) := by
  rw [Jni.readColor]
  apply Keeps.bind sustains.color
  intro color
  apply Keeps.bind (sustains.endures.accessOrFail fun _ => sustains.recorded rfl)
  exact sustains.endures.components

theorem convertResult (sustains : host.Sustains property) (method : Method) (raw : RawValue) :
    Keeps host property (Jni.convertResult method raw) :=
  sustains.endures.convertResult method raw fun _ => sustains.readColor

/-! ## Calls -/

/-- What is made of the answer of a bound method. -/
theorem concluded (sustains : host.Sustains property) (method : Method)
    (reply : Except Fault RawValue) : Keeps host property (do
      Jni.failOnException
      let raw ← Jni.resume reply
      Jni.convertResult method raw) := by
  apply Keeps.bind sustains.endures.failOnException
  intro _
  refine Keeps.bind (Keeps.resume reply) fun raw => ?_
  exact sustains.convertResult method raw

section Milestones

variable (sustains : host.Sustains property)
  (marked : ∀ {session : Session} {event : Event}, event.isMilestone = true → property session →
    property (session.record event))

include sustains marked

/-- A property that bears milestones as well is kept by a whole call. -/
theorem callOnce (target : Object) (method : Method) (id : MethodId) (args : List Value) :
    Keeps host property (Proxy.callOnce target method id args) := by
  rw [Proxy.callOnce]
  apply Keeps.bind (sustains.endures.convertFrom _ _ _ _)
  intro raws
  apply Keeps.bind (Keeps.attempt (sustains.steady.invoke (fun _ => marked rfl) _ _ _ _))
  intro reply
  exact sustains.concluded method reply

theorem callMethod (proxy : Proxy) (index : Nat) (args : List Value) :
    Keeps host property (proxy.callMethod index args) := by
  rw [Proxy.callMethod]
  split
  · exact Keeps.throw _
  · split
    · exact Keeps.throw _
    · refine Keeps.bind (Keeps.resume _) fun _ => ?_
      apply Jni.withFrame_keeps sustains.steady.release
      · exact sustains.steady.requestStatus _ _ fun _ => marked rfl
      · exact fun _ => sustains.recorded rfl
      · exact sustains.endures.settle (sustains.callOnce marked _ _ _ _)

end Milestones

end Host.Sustains

end NativeProxy
