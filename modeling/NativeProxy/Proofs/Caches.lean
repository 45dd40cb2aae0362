import NativeProxy.Proofs.Pending
import NativeProxy.Proofs.Routine
import NativeProxy.Vm.Script

/-!
# Caches that are written once

What is kept for the whole process is looked up step by step. `LookupStep.refusal?` says when a
step is refused and with which fault, so that a look-up either passes all its steps or stops at the
first one that is refused. A cache is written by a look-up that passed and by nothing else, and one
that is written is never looked up again: both are laws of a single use, and a run of uses of all
caches, with any host for each of them, carries them from one use to the next.
-/

namespace NativeProxy

/-! ## Steps of a look-up -/

/-- A step on the way to what is kept for the whole process. -/
inductive LookupStep where
  | findClass (className : String)
  | findMethod (method : MethodId)
  | keepClass (className : String)
  | findVm

namespace LookupStep

section Refusals

variable (host : Host) (session : Session)

/-- Why something that is asked for is refused. An exception may have been pending before. -/
def acquisitionRefusal? (function : Function) (reply : Reply) (refusal : JniFault) :
    Option JniFault :=
  if host.provides function = false then some (.missingFunction function.name)
  else if host.provides .exceptionCheck = false then
    some (.missingFunction Function.exceptionCheck.name)
  else if (reply.exception?.or session.pending).isSome then some .exceptionThrown
  else if reply.isGiven then none
  else some refusal

def vmRefusal? : Option JniFault :=
  if host.provides .getJavaVm = false then some (.missingFunction Function.getJavaVm.name)
  else if (host.status session.history .getJavaVm).code = 0 then none
  else some .callFailed

/-- Why a step is refused, if it is. -/
def refusal? : LookupStep → Option JniFault
  | findClass className =>
    acquisitionRefusal? host session .findClass (host.findClass session.history className)
      (.nullPointer "FindClass result")
  | findMethod method =>
    acquisitionRefusal? host session .getMethodId (host.findMethod session.history method)
      (.methodNotFound method.name method.signature)
  | keepClass _ =>
    (vmRefusal? host session).or
      (if host.provides .newGlobalRef = false then
        some (.missingFunction Function.newGlobalRef.name)
      else none)
  | findVm => vmRefusal? host session

/-- The session that a step leaves. -/
def after : LookupStep → Session
  | findClass className => ((Jni.findClass className).exec host session).2
  | findMethod method => ((Jni.findMethod method).exec host session).2
  | keepClass className => ((Jni.keepClass className).exec host session).2
  | findVm => (Jni.getJavaVm.exec host session).2

end Refusals

/-- The method that a step finds. -/
def method? : LookupStep → Option MethodId
  | findMethod method => some method
  | _ => none

/-- The class that a step keeps. -/
def class? : LookupStep → Option Object
  | keepClass className => some (.loadedClass className)
  | _ => none

/-- No step is refused. -/
inductive Pass (host : Host) : List LookupStep → Session → Session → Prop where
  | nil {session : Session} : Pass host [] session session
  | cons {step : LookupStep} {steps : List LookupStep} {session last : Session}
      (accepted : step.refusal? host session = none)
      (rest : Pass host steps (step.after host session) last) :
      Pass host (step :: steps) session last

/-- The first step that is refused is refused with the given fault. -/
inductive Stop (host : Host) : List LookupStep → Session → JniFault → Prop where
  | here {step : LookupStep} {steps : List LookupStep} {session : Session} {refusal : JniFault}
      (refused : step.refusal? host session = some refusal) :
      Stop host (step :: steps) session refusal
  | later {step : LookupStep} {steps : List LookupStep} {session : Session} {refusal : JniFault}
      (accepted : step.refusal? host session = none)
      (rest : Stop host steps (step.after host session) refusal) :
      Stop host (step :: steps) session refusal

variable {host : Host}

theorem pass_or_stop (host : Host) (steps : List LookupStep) (session : Session) :
    (∃ last, Pass host steps session last) ∨ ∃ refusal, Stop host steps session refusal := by
  induction steps generalizing session with
  | nil => exact .inl ⟨session, .nil⟩
  | cons step steps ih =>
      cases refused : step.refusal? host session with
      | some refusal => exact .inr ⟨refusal, .here refused⟩
      | none =>
          rcases ih (step.after host session) with ⟨last, passed⟩ | ⟨refusal, stopped⟩
          · exact .inl ⟨last, .cons refused passed⟩
          · exact .inr ⟨refusal, .later refused stopped⟩

/-! ## Operations that take steps -/

variable {α β : Type} {expected : α → Prop} {wanted : β → Prop}

/-- The operation succeeds with a result as expected if the step is accepted, and fails with its
refusal if not. -/
structure IsTakenBy (host : Host) (step : LookupStep) (expected : α → Prop)
    (operation : Jni α) : Prop where
  accepted : ∀ {session : Session}, step.refusal? host session = none →
    ∃ result, operation.exec host session = (.ok result, step.after host session) ∧
      expected result
  refused : ∀ {session : Session} {refusal : JniFault},
    step.refusal? host session = some refusal →
      ∃ last, operation.exec host session = (.error (.jni refusal), last)

/-- The operation succeeds with a result as expected if all steps are accepted, one after another,
and fails with the refusal of the first one that is not. -/
structure AreTakenBy (host : Host) (steps : List LookupStep) (expected : α → Prop)
    (operation : Jni α) : Prop where
  passed : ∀ {session last : Session}, Pass host steps session last →
    ∃ result, operation.exec host session = (.ok result, last) ∧ expected result
  stopped : ∀ {session : Session} {refusal : JniFault}, Stop host steps session refusal →
    ∃ last, operation.exec host session = (.error (.jni refusal), last)

theorem AreTakenBy.pure {result : α} (fits : expected result) :
    AreTakenBy host [] expected (pure result : Jni α) where
  passed pass := by
    cases pass
    exact ⟨result, rfl, fits⟩
  stopped stop := nomatch stop

theorem IsTakenBy.bind {step : LookupStep} {steps : List LookupStep} {operation : Jni α}
    {next : α → Jni β} (first : IsTakenBy host step expected operation)
    (rest : ∀ result, expected result → AreTakenBy host steps wanted (next result)) :
    AreTakenBy host (step :: steps) wanted (operation >>= next) where
  passed pass := by
    cases pass with
    | cons accepted pass =>
        rcases first.accepted accepted with ⟨result, ran, fits⟩
        rcases (rest result fits).passed pass with ⟨finished, continued, wantedFits⟩
        exact ⟨finished, (Jni.exec_bind_of_ok ran next).trans continued, wantedFits⟩
  stopped stop := by
    cases stop with
    | here refused =>
        rcases first.refused refused with ⟨last, ran⟩
        exact ⟨last, Jni.exec_bind_of_error ran next⟩
    | later accepted stop =>
        rcases first.accepted accepted with ⟨result, ran, fits⟩
        rcases (rest result fits).stopped stop with ⟨last, continued⟩
        exact ⟨last, (Jni.exec_bind_of_ok ran next).trans continued⟩

/-- A step whose failure releases references is refused with the same fault. -/
theorem IsTakenBy.releasingOnFault {step : LookupStep} {operation : Jni α}
    (taken : IsTakenBy host step expected operation) (refs : List GlobalRef) :
    IsTakenBy host step expected (Jni.releasingOnFault refs operation) where
  accepted accepted := by
    rcases taken.accepted accepted with ⟨result, ran, fits⟩
    refine ⟨result, ?_, fits⟩
    rw [Jni.releasingOnFault, Jni.exec_bind_of_ok (Jni.exec_attempt _ host _), ran]
    rfl
  refused refused := by
    rcases taken.refused refused with ⟨last, ran⟩
    refine ⟨((Native.releaseAll refs).exec host last).2, ?_⟩
    rw [Jni.releasingOnFault, Jni.exec_bind_of_ok (Jni.exec_attempt _ host _), ran]
    rfl

/-- An operation whose outcome and session are those of a step takes it. -/
theorem IsTakenBy.of_exec {step : LookupStep} {operation : Jni α}
    (same : ∀ session, (operation.exec host session).2 = step.after host session)
    (outcome : ∀ session, match step.refusal? host session with
      | none => ∃ result, (operation.exec host session).1 = .ok result ∧ expected result
      | some refusal => (operation.exec host session).1 = .error (.jni refusal)) :
    IsTakenBy host step expected operation where
  accepted {session} accepted := by
    have ended := outcome session
    rw [accepted] at ended
    rcases ended with ⟨result, ended, fits⟩
    exact ⟨result, Prod.ext ended (same session), fits⟩
  refused {session} _ refused := by
    have ended := outcome session
    rw [refused] at ended
    exact ⟨_, Prod.ext ended rfl⟩

end LookupStep

namespace Jni

open LookupStep

variable {host : Host}

/-- After the reply, what is pending is looked at and then the reply. -/
theorem exec_acquire_of_provided {function : Function} (provided : host.provides function = true)
    (event : Event) (answer : Host → History → Reply) (refusal : JniFault) (session : Session) :
    (acquire function event answer refusal).exec host session =
      (do
        check
        unless (answer host session.history).isGiven do fail refusal : Jni Unit).exec host
        { session.record event with
          pending := (answer host session.history).exception?.or session.pending } := by
  rw [acquire, exec_bind, exec_request, if_pos provided]
  cases answer host session.history <;> rfl

/-- What is asked for is given unless it is refused. -/
theorem acquire_outcome (function : Function) (event : Event) (answer : Host → History → Reply)
    (refusal : JniFault) (host : Host) (session : Session) :
    ((acquire function event answer refusal).exec host session).1 =
      match acquisitionRefusal? host session function (answer host session.history) refusal with
      | none => .ok ()
      | some refusal => .error (.jni refusal) := by
  rw [acquisitionRefusal?]
  by_cases provided : host.provides function = true
  · rw [exec_acquire_of_provided provided, exec_bind, exec_check]
    by_cases checks : host.provides .exceptionCheck = true
    · by_cases pending : ((answer host session.history).exception?.or session.pending).isSome = true
      · simp [provided, checks, pending]
      · by_cases given : (answer host session.history).isGiven = true <;>
          simp [provided, checks, pending, given]
    · simp [provided, checks]
  · simp [acquire, exec_bind, exec_request, provided]

theorem findClass_takes (className : String) :
    IsTakenBy host (.findClass className) (fun _ => True) (findClass className) := by
  refine .of_exec (fun _ => rfl) fun session => ?_
  have ended := acquire_outcome .findClass (.findClass className)
    (fun host history => host.findClass history className) (.nullPointer "FindClass result") host
    session
  rw [refusal?]
  split
  · next accepted => exact ⟨(), by rw [findClass, ended, accepted], trivial⟩
  · next refusal refused => rw [findClass, ended, refused]

theorem findMethod_takes (method : MethodId) :
    IsTakenBy host (.findMethod method) (· = method) (findMethod method) := by
  refine .of_exec (fun _ => rfl) fun session => ?_
  have ended := acquire_outcome .getMethodId (.getMethodId method)
    (fun host history => host.findMethod history method)
    (.methodNotFound method.name method.signature) host session
  rw [refusal?, findMethod, exec_bind]
  rcases ran : (acquire .getMethodId (.getMethodId method)
    (fun host history => host.findMethod history method)
    (.methodNotFound method.name method.signature)).exec host session with ⟨outcome, last⟩
  rw [ran] at ended
  dsimp only at ended
  rw [ended]
  split
  · exact ⟨method, rfl, rfl⟩
  · rfl

theorem getJavaVm_outcome (host : Host) (session : Session) :
    (getJavaVm.exec host session).1 =
      match vmRefusal? host session with
      | none => .ok ⟨session.history.length⟩
      | some refusal => .error (.jni refusal) := by
  rw [getJavaVm, exec_bind_of_ok (exec_get host session), exec_bind, exec_requestStatus,
    vmRefusal?]
  by_cases provided : host.provides .getJavaVm = true
  · by_cases succeeds : (host.status session.history .getJavaVm).code = 0 <;>
      simp [provided, succeeds, exec_map]
  · simp [provided]

theorem getJavaVm_takes : IsTakenBy host .findVm (fun _ => True) getJavaVm := by
  refine .of_exec (fun _ => rfl) fun session => ?_
  rw [refusal?, getJavaVm_outcome]
  split
  · exact ⟨_, rfl, trivial⟩
  · rfl

theorem keepClass_takes (className : String) :
    IsTakenBy host (.keepClass className) (fun ref => ref.object = .loadedClass className)
      (keepClass className) := by
  refine .of_exec (fun _ => rfl) fun session => ?_
  have ended := getJavaVm_outcome host session
  rw [refusal?, keepClass, newGlobalRef, exec_bind]
  rcases ran : getJavaVm.exec host session with ⟨outcome, last⟩
  rw [ran] at ended
  dsimp only at ended
  rw [ended]
  cases vmRefusal? host session with
  | some refusal => simp
  | none =>
      dsimp only
      rw [exec_request]
      by_cases provided : host.provides .newGlobalRef = true <;> simp [provided]

end Jni

/-! ## Caches -/

/-- What is kept for the whole process: the core classes, the class of colours, the machine. -/
inductive Cache where
  | core
  | colors
  | vm

namespace Cache

/-- What a cache keeps. -/
def Kept : Cache → Type
  | core => CoreClasses
  | colors => ColorClass
  | vm => VmHandle

/-- What a use of a cache returns. -/
def Answer : Cache → Type
  | core => CoreClasses
  | colors => ColorClass
  | vm => Unit

def answer : (cache : Cache) → cache.Kept → cache.Answer
  | core, kept => kept
  | colors, kept => kept
  | vm, _ => ()

def kept? : (cache : Cache) → SharedState → Option cache.Kept
  | core, shared => shared.core
  | colors, shared => shared.color
  | vm, shared => shared.vm

def keep : (cache : Cache) → cache.Kept → SharedState → SharedState
  | core, kept => ({ · with core := some kept })
  | colors, kept => ({ · with color := some kept })
  | vm, kept => ({ · with vm := some kept })

/-- The use of a cache. -/
def use : (cache : Cache) → Jni cache.Answer
  | core => Jni.coreClasses
  | colors => Jni.colorClass
  | vm => Jni.registerVm

/-- The look-up by which a cache is filled. -/
def lookUp : (cache : Cache) → Jni cache.Kept
  | core => Jni.resolveCoreClasses
  | colors => Jni.resolveColorClass
  | vm => Jni.getJavaVm

/-- The steps of the look-up, in the order in which they are taken. -/
def steps : Cache → List LookupStep
  | core => [
    .findClass "java/lang/Object",
    .findMethod ⟨"java/lang/Object", "getClass", "()Ljava/lang/Class;"⟩,
    .findClass "java/lang/Class",
    .findMethod ⟨"java/lang/Class", "getName", "()Ljava/lang/String;"⟩,
    .findClass "java/lang/Throwable",
    .findMethod ⟨"java/lang/Throwable", "getMessage", "()Ljava/lang/String;"⟩,
    .findMethod ⟨"java/lang/Throwable", "getCause", "()Ljava/lang/Throwable;"⟩,
    .keepClass "java/lang/Object",
    .keepClass "java/lang/Class",
    .keepClass "java/lang/Throwable"]
  | colors => [
    .findClass Descriptor.colorClass,
    .findMethod ⟨Descriptor.colorClass, "<init>", "(FFFF)V"⟩,
    .findMethod ⟨Descriptor.colorClass, "getRGBComponents", "([F)[F"⟩,
    .keepClass Descriptor.colorClass]
  | vm => [.findVm]

def methods : (cache : Cache) → cache.Kept → List MethodId
  | core, kept => [kept.getClass, kept.getName, kept.getMessage, kept.getCause]
  | colors, kept => [kept.construct, kept.getComponents]
  | vm, _ => []

def classes : (cache : Cache) → cache.Kept → List Object
  | core, kept => [kept.objectClass.object, kept.classClass.object, kept.throwableClass.object]
  | colors, kept => [kept.colorClass.object]
  | vm, _ => []

/-- All methods and classes are kept that the look-up steps found. -/
def IsWhole (cache : Cache) (kept : cache.Kept) : Prop :=
  cache.methods kept = cache.steps.filterMap LookupStep.method? ∧
    cache.classes kept = cache.steps.filterMap LookupStep.class?

open Jni LookupStep

variable {host : Host} {session : Session}

theorem lookUp_takes (cache : Cache) :
    AreTakenBy host cache.steps cache.IsWhole cache.lookUp := by
  cases cache with
  | core =>
      change AreTakenBy host _ _ resolveCoreClasses
      rw [resolveCoreClasses]
      apply (findClass_takes _).bind
      intro _ _
      apply (findMethod_takes _).bind
      rintro getClass rfl
      apply (findClass_takes _).bind
      intro _ _
      apply (findMethod_takes _).bind
      rintro getName rfl
      apply (findClass_takes _).bind
      intro _ _
      apply (findMethod_takes _).bind
      rintro getMessage rfl
      apply (findMethod_takes _).bind
      rintro getCause rfl
      apply (keepClass_takes _).bind
      intro objectClass ofObject
      apply ((keepClass_takes _).releasingOnFault _).bind
      intro classClass ofClass
      apply ((keepClass_takes _).releasingOnFault _).bind
      intro throwableClass ofThrowable
      refine .pure ⟨rfl, ?_⟩
      simp only [classes, ofObject, ofClass, ofThrowable]
      rfl
  | colors =>
      change AreTakenBy host _ _ resolveColorClass
      rw [resolveColorClass]
      apply (findClass_takes _).bind
      intro _ _
      apply (findMethod_takes _).bind
      rintro construct rfl
      apply (findMethod_takes _).bind
      rintro getComponents rfl
      apply (keepClass_takes _).bind
      intro colorClass ofColor
      refine .pure ⟨rfl, ?_⟩
      simp only [classes, ofColor]
      rfl
  | vm =>
      have taken : AreTakenBy host [.findVm] (fun found : VmHandle => vm.IsWhole found)
          (getJavaVm >>= pure) :=
        getJavaVm_takes.bind fun found _ => .pure ⟨rfl, rfl⟩
      rw [bind_pure] at taken
      exact taken

/-- A look-up keeps nothing, however it ends. -/
theorem lookUp_keeps (cache : Cache) (shared : SharedState) :
    Keeps host (fun session => session.shared = shared) cache.lookUp := by
  have steady : Session.Steady fun session => session.shared = shared := .ofShared (· = shared)
  cases cache with
  | core => exact steady.resolveCoreClasses fun _ _ same => same
  | colors => exact steady.resolveColorClass fun _ _ _ same => same
  | vm => exact steady.getJavaVm

theorem kept_keep (cache : Cache) (kept : cache.Kept) (shared : SharedState) :
    cache.kept? (cache.keep kept shared) = some kept := by
  cases cache <;> rfl

theorem kept_keep_of_ne {cache other : Cache} (different : other ≠ cache) (kept : cache.Kept)
    (shared : SharedState) : other.kept? (cache.keep kept shared) = other.kept? shared := by
  cases cache <;> cases other <;> first | rfl | exact absurd rfl different

/-- All caches are used the same way, but for what is returned. -/
theorem use_eq (cache : Cache) :
    cache.use = (do return cache.answer (← cached cache.kept? cache.keep cache.lookUp)) := by
  cases cache with
  | core => exact (bind_pure _).symm
  | colors => exact (bind_pure _).symm
  | vm => rfl

/-- A cache that is filled answers without any request. -/
theorem exec_use_of_kept {cache : Cache} {kept : cache.Kept}
    (known : cache.kept? session.shared = some kept) :
    cache.use.exec host session = (.ok (cache.answer kept), session) := by
  rw [use_eq, exec_bind_of_ok (exec_cached_of_some known)]
  exact exec_pure _ host session

section Empty

variable {cache : Cache} {last : Session} (empty : cache.kept? session.shared = none)

include empty

/-- What the look-up of an empty cache found is kept. -/
theorem exec_use_of_found {kept : cache.Kept}
    (found : cache.lookUp.exec host session = (.ok kept, last)) :
    cache.use.exec host session =
      (.ok (cache.answer kept), { last with shared := cache.keep kept last.shared }) := by
  rw [use_eq, exec_bind, exec_cached_of_none empty, found]
  exact exec_pure _ host _

theorem exec_use_of_failed {fault : Fault}
    (failed : cache.lookUp.exec host session = (.error fault, last)) :
    cache.use.exec host session = (.error fault, last) := by
  rw [use_eq, exec_bind, exec_cached_of_none empty, failed]

end Empty

end Cache

/-! ## Uses -/

namespace Cache

/-- A use of a cache: the host that answers it, and the session that it starts from. -/
structure Use where
  host : Host
  before : Session

namespace Use

open LookupStep

def outcome (use : Use) (cache : Cache) : Except Fault cache.Answer :=
  (cache.use.exec use.host use.before).1

def after (use : Use) (cache : Cache) : Session :=
  (cache.use.exec use.host use.before).2

/-- The cache was empty, the first step of its look-up that is refused gave the fault, and the
cache is still empty. -/
structure FailsWith (use : Use) (cache : Cache) (fault : Fault) : Prop where
  empty : cache.kept? use.before.shared = none
  first : ∃ refusal, fault = .jni refusal ∧ Stop use.host cache.steps use.before refusal
  outcome : use.outcome cache = .error fault
  still : cache.kept? (use.after cache).shared = none

/-- The cache was empty, no step of its look-up is refused, and all that they found is kept. -/
structure Fills (use : Use) (cache : Cache) (kept : cache.Kept) : Prop where
  empty : cache.kept? use.before.shared = none
  whole : cache.IsWhole kept
  passed : ∃ last, Pass use.host cache.steps use.before last
  outcome : use.outcome cache = .ok (cache.answer kept)
  filled : cache.kept? (use.after cache).shared = some kept

/-- The cache was filled and answered without a request. -/
structure Recalls (use : Use) (cache : Cache) (kept : cache.Kept) : Prop where
  known : cache.kept? use.before.shared = some kept
  outcome : use.outcome cache = .ok (cache.answer kept)
  untouched : use.after cache = use.before

variable {use : Use} {cache : Cache}

theorem recalls_of_kept {kept : cache.Kept} (known : cache.kept? use.before.shared = some kept) :
    use.Recalls cache kept where
  known := known
  outcome := by rw [Use.outcome, Cache.exec_use_of_kept known]
  untouched := by rw [Use.after, Cache.exec_use_of_kept known]

/-- A use of an empty cache fills it, or fails at the first step that is refused. -/
theorem cases_of_empty (empty : cache.kept? use.before.shared = none) :
    (∃ kept, use.Fills cache kept) ∨ ∃ fault, use.FailsWith cache fault := by
  have taken : AreTakenBy use.host cache.steps cache.IsWhole cache.lookUp := cache.lookUp_takes
  rcases pass_or_stop use.host cache.steps use.before with ⟨last, passed⟩ | ⟨refusal, stopped⟩
  · rcases taken.passed passed with ⟨kept, found, whole⟩
    have ran := Cache.exec_use_of_found empty found
    refine .inl ⟨kept, empty, whole, ⟨last, passed⟩, by rw [Use.outcome, ran], ?_⟩
    rw [Use.after, ran]
    exact cache.kept_keep kept last.shared
  · rcases taken.stopped stopped with ⟨last, failed⟩
    have ran := Cache.exec_use_of_failed empty failed
    refine .inr ⟨.jni refusal, empty, ⟨refusal, rfl, stopped⟩, by rw [Use.outcome, ran], ?_⟩
    rw [Use.after, ran, (cache.lookUp_keeps use.before.shared).after rfl failed]
    exact empty

/-- A use of one cache leaves the others as they are. -/
theorem kept_of_ne {other : Cache} (different : other ≠ cache) :
    other.kept? (use.after cache).shared = other.kept? use.before.shared := by
  cases known : cache.kept? use.before.shared with
  | some kept => rw [(recalls_of_kept known).untouched]
  | none =>
      rcases ran : cache.lookUp.exec use.host use.before with ⟨fault | kept, last⟩
      · rw [Use.after, Cache.exec_use_of_failed known ran,
          (cache.lookUp_keeps use.before.shared).after rfl ran]
      · rw [Use.after, Cache.exec_use_of_found known ran, Cache.kept_keep_of_ne different,
          (cache.lookUp_keeps use.before.shared).after rfl ran]

end Use

/-! ## Runs of uses -/

/-- The uses of the caches between two sessions, oldest first, each with a host of its own. In
between anything may happen that leaves the caches alone. -/
inductive Uses (start : Session) : List (Cache × Use) → Session → Prop where
  | start : Uses start [] start
  | use {uses : List (Cache × Use)} {session : Session} (cache : Cache) (host : Host)
      (earlier : Uses start uses session) :
      Uses start (uses ++ [(cache, ⟨host, session⟩)]) ((⟨host, session⟩ : Use).after cache)
  | elsewhere {uses : List (Cache × Use)} {session later : Session}
      (earlier : Uses start uses session)
      (same : ∀ cache : Cache, cache.kept? later.shared = cache.kept? session.shared) :
      Uses start uses later

namespace Uses

variable {start finish : Session} {uses earlier later : List (Cache × Use)} {cache : Cache}
  {use : Use}

/-- A run up to a use, and a run from there on. -/
theorem split (run : Uses start uses finish) (position : uses = earlier ++ (cache, use) :: later) :
    Uses start earlier use.before ∧ Uses (use.after cache) later finish := by
  induction run generalizing later with
  | start => simp at position
  | @use uses session other host run ih =>
      rcases List.eq_nil_or_concat later with rfl | ⟨between, last, rfl⟩
      · rcases List.append_inj' position rfl with ⟨rfl, same⟩
        cases same
        exact ⟨run, .start⟩
      · have whole : uses ++ [(other, ⟨host, session⟩)] =
            (earlier ++ (cache, use) :: between) ++ [last] := by
          simpa using position
        rcases List.append_inj' whole rfl with ⟨rest, same⟩
        cases same
        rcases ih rest with ⟨before, after⟩
        exact ⟨before, by simpa using after.use other host⟩
  | elsewhere run same ih =>
      rcases ih position with ⟨before, after⟩
      exact ⟨before, after.elsewhere same⟩

/-- A filled cache stays filled, and every use finds it so. -/
theorem recalls {kept : cache.Kept} (run : Uses start uses finish)
    (known : cache.kept? start.shared = some kept) :
    (∀ other, (cache, other) ∈ uses → other.Recalls cache kept) ∧
      cache.kept? finish.shared = some kept := by
  induction run with
  | start => exact ⟨by simp, known⟩
  | @use uses session used host run ih =>
      rcases ih with ⟨recalled, still⟩
      have recalls : (⟨host, session⟩ : Use).Recalls cache kept := Use.recalls_of_kept still
      constructor
      · intro other among
        rcases List.mem_append.mp among with earlier | last
        · exact recalled other earlier
        · cases List.mem_singleton.mp last
          exact recalls
      · by_cases same : cache = used
        · subst same
          rw [recalls.untouched]
          exact still
        · rw [Use.kept_of_ne same]
          exact still
  | elsewhere run same ih => exact ⟨ih.1, (same cache).trans ih.2⟩

/-- An empty cache that is not used stays empty. -/
theorem empty (run : Uses start uses finish) (unknown : cache.kept? start.shared = none)
    (unused : ∀ other, (cache, other) ∉ uses) : cache.kept? finish.shared = none := by
  induction run with
  | start => exact unknown
  | @use uses session used host run ih =>
      have still := ih fun other among => unused other (List.mem_append_left _ among)
      have different : cache ≠ used := by
        rintro rfl
        exact unused ⟨host, session⟩ (by simp)
      rw [Use.kept_of_ne different]
      exact still
  | elsewhere run same ih => exact (same cache).trans (ih unused)

/-- A use that fails reports the refusal of the first step that is refused, leaves its cache empty
and makes the next use look everything up again. A use that succeeds has filled its cache, if it
was empty, with all that it looked up, and from then on every use answers the same, makes no
request and leaves the cache as it is. -/
theorem all_or_nothing (run : Uses start uses finish)
    (position : uses = earlier ++ (cache, use) :: later) :
    (∀ fault, use.outcome cache = .error fault →
      use.FailsWith cache fault ∧
        ∀ between next rest, later = between ++ (cache, next) :: rest →
          (∀ other, (cache, other) ∉ between) →
            (∃ kept, next.Fills cache kept) ∨ ∃ fault, next.FailsWith cache fault) ∧
    ∀ answer, use.outcome cache = .ok answer →
      ∃ kept, answer = cache.answer kept ∧ (use.Fills cache kept ∨ use.Recalls cache kept) ∧
        (∀ other, (cache, other) ∈ later → other.Recalls cache kept) ∧
        cache.kept? finish.shared = some kept := by
  rcases run.split position with ⟨_, afterwards⟩
  constructor
  · intro fault failed
    have fails : use.FailsWith cache fault := by
      cases known : cache.kept? use.before.shared with
      | some kept =>
          rw [(Use.recalls_of_kept known).outcome] at failed
          cases failed
      | none =>
          rcases Use.cases_of_empty known with ⟨kept, fills⟩ | ⟨other, fails⟩
          · rw [fills.outcome] at failed
            cases failed
          · rw [fails.outcome] at failed
            cases failed
            exact fails
    refine ⟨fails, ?_⟩
    intro between next rest follows unused
    rcases afterwards.split follows with ⟨upToNext, _⟩
    exact Use.cases_of_empty (upToNext.empty fails.still unused)
  · intro answer succeeded
    cases known : cache.kept? use.before.shared with
    | some kept =>
        have recalls := Use.recalls_of_kept known
        rw [recalls.outcome] at succeeded
        cases succeeded
        have recalled := afterwards.recalls (recalls.untouched ▸ known)
        exact ⟨kept, rfl, .inr recalls, recalled⟩
    | none =>
        rcases Use.cases_of_empty known with ⟨kept, fills⟩ | ⟨fault, fails⟩
        · rw [fills.outcome] at succeeded
          cases succeeded
          exact ⟨kept, rfl, .inl fills, afterwards.recalls fills.filled⟩
        · rw [fails.outcome] at succeeded
          cases succeeded

end Uses

/-! ## A look-up that is tried again -/

namespace Use

/-- Finds no class of classes. -/
def failing : Use :=
  ⟨({ missingClasses := [("java/lang/Class", .null)] } : Script).host, {}⟩

/-- Finds everything. -/
def retrying : Use :=
  ⟨({} : Script).host, failing.after .core⟩

/-- Would find nothing any more. -/
def recalling : Use :=
  ⟨({ absent := [Function.findClass.name] } : Script).host, retrying.after .core⟩

end Use

theorem Uses.all_or_nothing_retried :
    Uses {} [(.core, .failing), (.core, .retrying), (.core, .recalling)]
        (Use.recalling.after .core) ∧
      Use.failing.FailsWith .core (.jni (.nullPointer "FindClass result")) ∧
      ∃ kept, (Use.retrying.Fills .core kept ∨ Use.retrying.Recalls .core kept) ∧
        Use.recalling.Recalls .core kept := by
  have run : Uses {} [(.core, .failing), (.core, .retrying), (.core, .recalling)]
      (Use.recalling.after .core) :=
    ((Uses.start.use .core Use.failing.host).use .core Use.retrying.host).use .core
      Use.recalling.host
  have first : [(Cache.core, Use.failing), (.core, .retrying), (.core, .recalling)] =
      [] ++ (.core, .failing) :: [(.core, .retrying), (.core, .recalling)] := rfl
  have second : [(Cache.core, Use.failing), (.core, .retrying), (.core, .recalling)] =
      [(.core, .failing)] ++ (.core, .retrying) :: [(.core, .recalling)] := rfl
  rcases run.all_or_nothing first with ⟨failed, _⟩
  rcases run.all_or_nothing second with ⟨_, succeeded⟩
  refine ⟨run, (failed _ rfl).1, ?_⟩
  rcases succeeded _ rfl with ⟨kept, _, filled, recalled, _⟩
  exact ⟨kept, filled, recalled _ (by simp)⟩

end Cache

end NativeProxy
