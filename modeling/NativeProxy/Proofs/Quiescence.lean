import NativeProxy.Proofs.Pending
import NativeProxy.Proofs.Runs
import NativeProxy.Vm.Script

/-!
# No exception is left behind

An operation on a proxy that starts with nothing pending ends with nothing pending. A call that
succeeds has looked at the pending exception last, and a call that fails is settled: whatever is
pending is taken and converted. Converting calls accessors that may throw in turn, but each of
them is followed by taking what it threw, so the description of a throwable leaves nothing
behind, at any depth.
-/

namespace NativeProxy

/-- What is asked of a machine so that nothing stays pending: the exception functions exist, and
neither the lookup of the class of strings nor a status function leaves an exception behind. -/
structure Host.Orderly (host : Host) : Prop extends host.ClearsExceptions where
  stringClass : ∀ history, (host.findClass history Descriptor.stringClass).exception? = none
  frame : ∀ history, (host.status history .pushLocalFrame).exception = none
  machine : ∀ history, (host.status history .getJavaVm).exception = none
  thread : ∀ history, (host.status history .threadEnv).exception = none
  attach : ∀ history, (host.status history .attachThread).exception = none

variable {host : Host}

/-! ## Single steps -/

namespace Native

theorem release_quiet (orderly : host.Orderly) (ref : GlobalRef) :
    Keeps host Session.IsQuiet (release ref) :=
  release_pending ⟨orderly.thread, orderly.attach⟩ ref

theorem log_quiet (level : Level) (text : String) :
    Keeps host Session.IsQuiet (log level text) :=
  log_pending level text

end Native

namespace Jni

theorem requestStatus_quiet {kind : StatusRequest}
    (silent : ∀ history, (host.status history kind).exception = none) (function : Function)
    (event : Event) : Keeps host Session.IsQuiet (requestStatus function kind event) := by
  intro session quiet
  rw [exec_requestStatus, silent]
  split <;> exact quiet

theorem request_quiet {α : Type} (function : Function) (event : Event)
    (answer : Host → History → α) :
    Keeps host Session.IsQuiet (request function event answer) :=
  Keeps.request fun _ quiet => quiet

theorem exceptionCheck_quiet : Keeps host Session.IsQuiet exceptionCheck := by
  rw [exceptionCheck]
  apply Keeps.bind (request_quiet _ _ _)
  intro _
  exact Keeps.getThen fun _ quiet => quiet

theorem check_quiet : Keeps host Session.IsQuiet check := by
  rw [check]
  apply Keeps.bind exceptionCheck_quiet
  intro found
  split
  · exact Keeps.throw _
  · exact Keeps.pure ()

theorem newGlobalRef_quiet (orderly : host.Orderly) (object : Object) :
    Keeps host Session.IsQuiet (newGlobalRef object) := by
  rw [newGlobalRef, getJavaVm]
  refine Keeps.bind ?_ fun _ => request_quiet _ _ _
  apply Keeps.getThen
  intro session quiet
  apply Keeps.bind (requestStatus_quiet orderly.machine _ _) _ session quiet
  intro code
  dsimp only
  split
  · exact Keeps.pure _
  · exact (Keeps.throw _).bind fun _ => Keeps.pure _

theorem findStringClass_quiet (orderly : host.Orderly) :
    Keeps host Session.IsQuiet (findClass Descriptor.stringClass) := by
  intro session quiet
  rw [findClass, acquire, exec_bind, exec_request]
  by_cases provided : host.provides .findClass = true
  · have checked (reply : Reply) : Keeps host Session.IsQuiet (do
        check
        unless reply.isGiven do (fail (.nullPointer "FindClass result") : Jni PUnit)) := by
      apply Keeps.bind check_quiet
      intro _
      split
      · exact Keeps.pure _
      · exact Keeps.throw _
    simp only [provided, if_true, orderly.stringClass session.history]
    exact checked _ (session.record (.findClass Descriptor.stringClass)) quiet
  · simp only [provided, if_false, Bool.false_eq_true]
    exact quiet

theorem readText_quiet (orderly : host.Orderly) (object : Option Object) :
    Keeps host Session.IsQuiet (readText object) := by
  unfold readText
  apply Keeps.bind (findStringClass_quiet orderly)
  intro _
  split
  · exact Keeps.throw _
  · next given =>
      apply Keeps.bind (request_quiet _ _ _)
      intro _
      apply Keeps.bind (request_quiet _ _ _)
      intro _
      have read : Keeps host Session.IsQuiet (do
          request .getStringUtfChars (.readString given) fun _ _ => ()
          check
          return given.units.toText) := by
        apply Keeps.bind (request_quiet _ _ _)
        intro _
        apply Keeps.bind check_quiet
        intro _
        exact Keeps.pure _
      dsimp only
      split
      · exact read
      · exact (Keeps.throw _).bind fun _ => read

/-! ## Describing and taking exceptions -/

/-- An accessor may throw, but what it throws is taken before anything else happens. -/
theorem consult_quiet (orderly : host.Orderly) (receiver : Object) (accessor : MethodId)
    (failure : Option (Jni Fault))
    (kept : ∀ thrown, failure = some thrown → Keeps host Session.IsQuiet thrown) :
    Keeps host Session.IsQuiet (consult receiver accessor failure) := by
  intro session _
  rcases exec_takePending orderly.toClearsExceptions
    ((access receiver accessor []).exec host session).2 with ⟨taken, took, quiet, _⟩
  rw [consult, exec_bind_of_ok (exec_attempt _ host session), exec_bind_of_ok took]
  split
  · next _ thrown _ =>
      apply Keeps.bind (kept thrown rfl) _ taken quiet
      intro fault
      exact Keeps.throw fault
  · refine Keeps.bind (Keeps.resume _) ?_ taken quiet
    intro value
    exact Keeps.resume _

theorem faultOf_quiet (orderly : host.Orderly) (core : CoreClasses) (exception : Throwable) :
    Keeps host Session.IsQuiet (faultOf exception (describe core exception)) := by
  rw [faultOf]
  apply Keeps.bind (describe_keeps core (fun _ _ => consult_quiet orderly _ _)
    (readText_quiet orderly) (newGlobalRef_quiet orderly) exception)
  intro described
  apply Keeps.bind (newGlobalRef_quiet orderly _)
  intro ref
  exact Keeps.pure _

/-- Taking the exception settles everything, whatever was pending. -/
theorem takeException_settles (orderly : host.Orderly) {session : Session} {core : CoreClasses}
    (cached : session.shared.core = some core) :
    (takeException.exec host session).2.IsQuiet := by
  rcases exec_takePending orderly.toClearsExceptions session with ⟨taken, took, quiet, shared⟩
  rw [takeException, exec_bind_of_ok took]
  cases session.pending with
  | none => exact quiet
  | some exception =>
      dsimp only
      rw [exec_bind, exec_convert (exec_coreClasses_of_cached (shared ▸ cached)) quiet]
      rcases ran : (faultOf exception (describe core exception)).exec host taken with
        ⟨fault | fault, after⟩
      · exact (faultOf_quiet orderly core exception).after quiet ran
      · exact (faultOf_quiet orderly core exception).after quiet ran

theorem quiet_of_failOnException {session after : Session}
    (ran : failOnException.exec host session = (.ok (), after)) : after.IsQuiet := by
  rw [failOnException, takeException] at ran
  rcases exec_bind_eq_ok ran with ⟨taken, between, taking, rest⟩
  rcases exec_bind_eq_ok taking with ⟨pending, later, took, converted⟩
  cases pending with
  | none =>
      simp only [exec_pure, Prod.mk.injEq, Except.ok.injEq] at converted
      rcases converted with ⟨rfl, rfl⟩
      simp only [exec_pure, Prod.mk.injEq, true_and] at rest
      rw [← rest]
      exact quiet_of_takePending took
  | some exception =>
      rcases exec_bind_eq_ok converted with ⟨fault, last, _, wrapped⟩
      simp only [exec_pure, Prod.mk.injEq, Except.ok.injEq] at wrapped
      rcases wrapped with ⟨rfl, rfl⟩
      exact absurd rest (by simp)

theorem releasingOnFault_settles {α : Type} (orderly : host.Orderly) (refs : List GlobalRef)
    {operation : Jni α} {session : Session}
    (settled : (operation.exec host session).2.IsQuiet) :
    ((releasingOnFault refs operation).exec host session).2.IsQuiet := by
  rw [releasingOnFault, exec_bind_of_ok (exec_attempt operation host session)]
  rcases ran : operation.exec host session with ⟨fault | result, after⟩
  · rw [ran] at settled
    apply Keeps.bind (Keeps.lift (Native.releaseAll_keeps (Native.release_quiet orderly) refs)) _
      after settled
    intro _
    exact Keeps.resume _
  · rw [ran] at settled
    exact settled

/-! ## Successful conversions -/

variable {session after : Session}

theorem quiet_of_readText {object : Option Object} {text : String}
    (ran : (readText object).exec host session = (.ok text, after)) : after.IsQuiet := by
  unfold readText at ran
  rcases exec_bind_eq_ok ran with ⟨_, found, _, rest⟩
  cases object with
  | none => exact absurd rest (by simp)
  | some given =>
      rcases exec_bind_eq_ok rest with ⟨_, classed, _, rest⟩
      rcases exec_bind_eq_ok rest with ⟨_, checked, _, rest⟩
      split at rest
      · rcases exec_bind_eq_ok rest with ⟨_, read, _, rest⟩
        rcases exec_bind_eq_ok rest with ⟨_, last, check, ending⟩
        simp only [exec_pure, Prod.mk.injEq] at ending
        exact ending.2 ▸ quiet_of_check check
      · rcases exec_bind_eq_ok rest with ⟨_, _, refused, _⟩
        exact absurd refused (by simp)

theorem quiet_of_readFloats {array : Object} {elements : List Binary32}
    (ran : (readFloats array).exec host session = (.ok elements, after)) : after.IsQuiet := by
  rw [readFloats] at ran
  rcases exec_bind_eq_ok ran with ⟨_, read, _, rest⟩
  rcases exec_bind_eq_ok rest with ⟨_, last, check, ending⟩
  simp only [exec_pure, Prod.mk.injEq] at ending
  exact ending.2 ▸ quiet_of_check check

theorem quiet_of_readColor {object : Object} {color : Rgba}
    (ran : (readColor object).exec host session = (.ok color, after)) : after.IsQuiet := by
  rw [readColor] at ran
  rcases exec_bind_eq_ok ran with ⟨colors, found, _, rest⟩
  rcases exec_bind_eq_ok rest with ⟨components, asked, _, rest⟩
  cases components with
  | none => exact absurd rest (by simp)
  | some array =>
      dsimp only at rest
      rcases exec_bind_eq_ok rest with ⟨length, measured, _, rest⟩
      split at rest
      · exact absurd rest (by simp)
      · rcases exec_bind_eq_ok rest with ⟨_, last, read, ending⟩
        simp only [exec_pure, Prod.mk.injEq] at ending
        exact ending.2 ▸ quiet_of_readFloats read

/-- A result that is a reference is null, or the object is converted. -/
theorem quiet_of_reference (quiet : session.IsQuiet) {raw : RawValue} {value : Value}
    {next : Object → Jni Value}
    (converted : ∀ object between, between.IsQuiet →
      (next object).exec host between = (.ok value, after) → after.IsQuiet)
    (ran : Jni.exec (do
      match ← resume raw.reference? with
      | none => return .null
      | some object => next object) host session = (.ok value, after)) : after.IsQuiet := by
  rcases exec_bind_eq_ok ran with ⟨object, same, resumed, rest⟩
  simp only [exec_resume, Prod.mk.injEq] at resumed
  cases object with
  | none =>
      simp only [exec_pure, Prod.mk.injEq] at rest
      exact rest.2 ▸ resumed.2 ▸ quiet
  | some object => exact converted object same (resumed.2 ▸ quiet) rest

theorem quiet_of_convertResult (orderly : host.Orderly) (quiet : session.IsQuiet)
    {method : Method} {raw : RawValue} {value : Value}
    (ran : (convertResult method raw).exec host session = (.ok value, after)) :
    after.IsQuiet := by
  rw [convertResult.eq_def] at ran
  split at ran
  · simp only [exec_resume, Prod.mk.injEq] at ran
    exact ran.2 ▸ quiet
  · refine quiet_of_reference quiet ?_ ran
    intro object between _ converted
    rcases exec_bind_eq_ok converted with ⟨_, last, read, ending⟩
    simp only [exec_pure, Prod.mk.injEq] at ending
    exact ending.2 ▸ quiet_of_readText read
  · refine quiet_of_reference quiet ?_ ran
    intro object between _ converted
    rcases exec_bind_eq_ok converted with ⟨_, last, read, ending⟩
    simp only [exec_pure, Prod.mk.injEq] at ending
    exact ending.2 ▸ quiet_of_readColor read
  · refine quiet_of_reference quiet ?_ ran
    intro object between still converted
    rcases exec_bind_eq_ok converted with ⟨_, last, referred, ending⟩
    simp only [exec_pure, Prod.mk.injEq] at ending
    exact ending.2 ▸ (newGlobalRef_quiet orderly object).after still referred
  · rcases exec_bind_eq_ok ran with ⟨_, logged, log, ending⟩
    simp only [exec_pure, Prod.mk.injEq] at ending
    exact ending.2 ▸ (Keeps.lift (Native.log_quiet _ _)).after quiet log

end Jni

/-! ## Calls -/

namespace Proxy

variable {session after : Session}

/-- A call that succeeded found nothing pending after it, and converting its result added
nothing. -/
theorem quiet_of_callOnce (orderly : host.Orderly) {target : Object} {method : Method}
    {id : MethodId} {args : List Value} {value : Value}
    (ran : (callOnce target method id args).exec host session = (.ok value, after)) :
    after.IsQuiet := by
  rw [callOnce] at ran
  rcases Jni.exec_bind_eq_ok ran with ⟨raws, converted, _, rest⟩
  rcases Jni.exec_bind_eq_ok rest with ⟨reply, called, _, rest⟩
  rcases Jni.exec_bind_eq_ok rest with ⟨_, checked, found, rest⟩
  rcases Jni.exec_bind_eq_ok rest with ⟨raw, same, resumed, rest⟩
  simp only [Jni.exec_resume, Prod.mk.injEq] at resumed
  have quiet : same.IsQuiet := resumed.2 ▸ Jni.quiet_of_failOnException found
  exact Jni.quiet_of_convertResult orderly quiet rest

/-- A failure is settled by taking what is pending; a success had nothing pending. -/
theorem settle_quiet (orderly : host.Orderly) {core : CoreClasses}
    (cached : session.shared.core = some core) {operation : Jni Value}
    (advances : Jni.Keeps host session.Precedes operation)
    (clean : ∀ {value after}, operation.exec host session = (.ok value, after) →
      after.IsQuiet) :
    ((settle operation).exec host session).2.IsQuiet := by
  rw [settle, Jni.exec_bind_of_ok (Jni.exec_attempt operation host session)]
  rcases ran : operation.exec host session with ⟨fault | value, left⟩
  · have later := advances.after (Session.Precedes.refl session) ran
    have settled := Jni.releasingOnFault_settles orderly fault.refs
      (Jni.takeException_settles orderly (later.core core cached))
    dsimp only
    rw [Jni.exec_bind]
    rcases taking : (Jni.releasingOnFault fault.refs Jni.takeException).exec host left with
      ⟨lost | pending, taken⟩
    · rw [taking] at settled
      exact settled
    · rw [taking] at settled
      cases pending with
      | none => exact settled
      | some exception =>
          apply Jni.Keeps.bind (Jni.Keeps.lift
            (Native.releaseAll_keeps (Native.release_quiet orderly) fault.refs)) _ taken settled
          intro _
          exact Jni.Keeps.throw exception
  · exact clean ran

/-- A call leaves a quiet machine quiet, provided that the core classes are known. -/
theorem callMethod_quiet (orderly : host.Orderly) {core : CoreClasses}
    (cached : session.shared.core = some core) (proxy : Proxy) (index : Nat)
    (args : List Value) :
    Jni.Keeps host (fun now => session.Precedes now ∧ now.IsQuiet)
      (proxy.callMethod index args) := by
  rw [callMethod]
  split
  · exact Jni.Keeps.throw _
  · split
    · exact Jni.Keeps.throw _
    · refine Jni.Keeps.bind (Jni.Keeps.resume _) fun _ => ?_
      apply Jni.withFrame_keeps
      · exact fun ref => (Native.release_advances ref).and (Native.release_quiet orderly ref)
      · exact (Session.Precedes.robust.steady.requestStatus _ _ fun _ before => before.record _).and
          (Jni.requestStatus_quiet orderly.frame _ _)
      · rintro left ⟨earlier, quiet⟩
        exact ⟨earlier.record .popFrame, quiet⟩
      · rintro entered ⟨earlier, _⟩
        refine ⟨settle_advances (callOnce_advances _ _ _ _) entered earlier, ?_⟩
        exact settle_quiet orderly (earlier.core core cached) (callOnce_advances _ _ _ _)
          (quiet_of_callOnce orderly)

end Proxy

/-- Whatever is done with a proxy, a machine on which nothing is pending has nothing pending
afterwards. -/
theorem Reachable.quiet_after_operation (orderly : host.Orderly) {proxy : Proxy}
    {session : Session} (reachable : Reachable host proxy session)
    (quiet : session.pending = none) (operation : Operation) :
    ((operation.perform proxy).exec host session).2.pending = none := by
  rcases reachable.core_cached with ⟨core, cached⟩
  -- That the session advances is carried along, since a call relies on the core classes.
  have kept : Native.Keeps host (fun now => session.Precedes now ∧ now.IsQuiet)
      (operation.perform proxy) := by
    refine Operation.perform_keeps ?_ ?_ ?_ operation
    · exact fun ref => (Native.release_advances ref).and (Native.release_quiet orderly ref)
    · exact fun level text => (Native.log_advances level text).and (Native.log_quiet level text)
    · exact Proxy.callMethod_quiet orderly cached proxy
  exact (kept session ⟨Session.Precedes.refl session, quiet⟩).2

/-! ## A call whose exception cannot be described -/

namespace Script

theorem host_orderly {script : Script} (complete : script.absent = [])
    (found : script.missingClasses = []) (silent : script.statuses = fun _ => []) :
    script.host.Orderly where
  check := by simp [host, complete]
  occurred := by simp [host, complete]
  clear := by simp [host, complete]
  stringClass history := by simp [host, found, Reply.exception?]
  frame history := by simp [host, silent, answer]
  machine history := by simp [host, silent, answer]
  thread history := by simp [host, silent, answer]
  attach history := by simp [host, silent, answer]

/-- The only method of the target throws an exception which, when it is asked for its message,
throws another. -/
def reticent : Script where
  methods := [{
    name := "poke"
    signature := "()V"
    outcomes := [.throws {
      identity := .given 0
      className := some (Units.ofText "java.io.IOException")
      message := none
      messageFailure := some {
        identity := .given 1
        className := some (Units.ofText "java.lang.IllegalStateException")
        message := none } }] }]

end Script

/-- The interface with the method that `Script.reticent` answers. -/
def Interface.poking : Interface where
  name := "Poking"
  methods := [.ofSelector ⟨"poke", ⟨[], .primitive .void⟩⟩]

/-- The proxy that binding a target to `Interface.poking` makes. -/
def Proxy.poking : Proxy where
  target := ⟨25, .plain "target"⟩
  targetClass := ⟨27, .loadedClass "Target"⟩
  interface := .poking
  bindings := [⟨⟨"poke", ⟨[], .primitive .void⟩⟩, some ⟨"Target", "poke", "()V"⟩⟩]
  slots := [none]
  config := {}

/-- The session that making `Proxy.poking` leaves. -/
def Session.poking : Session :=
  ((Proxy.bind (some (.plain "target")) .poking {}).exec Script.reticent.host {}).2

theorem Reachable.quiet_after_reticent_exception :
    (Proxy.bind (some (.plain "target")) .poking {}).exec Script.reticent.host {} =
        (.ok .poking, .poking) ∧
      Session.poking.pending = none ∧
      (((Operation.invoke 0 []).perform .poking).exec Script.reticent.host .poking).2.pending =
        none := by
  have bound : (Proxy.bind (some (.plain "target")) .poking {}).exec Script.reticent.host {} =
      (.ok .poking, .poking) := rfl
  refine ⟨bound, rfl, ?_⟩
  exact Reachable.quiet_after_operation (Script.host_orderly rfl rfl rfl) (.bound bound) rfl
    (.invoke 0 [])

end NativeProxy
