import NativeProxy.Proofs.Caches
import NativeProxy.Proofs.EntryPoints
import NativeProxy.Proofs.Faults
import NativeProxy.Proofs.Quiescence

/-!
# Preparing the library

Preparing the library decodes a path, installs the logging and registers the machine. The first of
the three that fails is told to the machine by a pending exception, and nothing is registered then.
A machine that was registered stays: in every process it is the one of the first registration that
succeeded, however the library was prepared before.
-/

namespace NativeProxy

/-- How preparing the library comes out: the first of its steps that fails, or that none does. -/
inductive Preparation (host : Host) (path : Option Object) (session : Session) :
    Except Fault Unit → Session → Prop where
  | undecoded {fault : Fault} {left : Session}
      (decoding : (Jni.readText path).exec host session = (.error fault, left)) :
      Preparation host path session (.error fault) left
  | unlogged {text : String} {decoded left : Session} {fault : Fault}
      (decoding : (Jni.readText path).exec host session = (.ok text, decoded))
      (logging : (Jni.installLogging text).exec host decoded = (.error fault, left)) :
      Preparation host path session (.error fault) left
  | unregistered {text : String} {decoded logged left : Session} {fault : Fault}
      (decoding : (Jni.readText path).exec host session = (.ok text, decoded))
      (logging : (Jni.installLogging text).exec host decoded = (.ok (), logged))
      (registering : Jni.registerVm.exec host logged = (.error fault, left)) :
      Preparation host path session (.error fault) left
  | registered {text : String} {decoded logged left : Session}
      (decoding : (Jni.readText path).exec host session = (.ok text, decoded))
      (logging : (Jni.installLogging text).exec host decoded = (.ok (), logged))
      (registering : Jni.registerVm.exec host logged = (.ok (), left)) :
      Preparation host path session (.ok ()) left

/-- What is asked of a machine so that every failure can be told: exceptions of the two classes can
be made, and the machine is not found while an exception is left behind. -/
structure Host.TellsPreparation (host : Host) : Prop where
  runtime : host.MakesExceptions "java/lang/RuntimeException"
  argument : host.MakesExceptions "java/lang/IllegalArgumentException"
  silent : ∀ history, (host.status history .getJavaVm).code = 0 →
    (host.status history .getJavaVm).exception = none

variable {host : Host} {path : Option Object} {session left after : Session} {fault : Fault}

/-! ## The steps -/

namespace Fault

/-- The fault is a failure of the native interface itself. -/
def IsOfInterface (fault : Fault) : Prop :=
  ∃ cause, fault = .jni cause

theorem CoversInterface.isOfInterface : CoversInterface IsOfInterface where
  jni cause _ := ⟨cause, rfl⟩

end Fault

namespace Jni

/-- Installing the logging uses no function of the machine; it fails with what loading failed
with. -/
theorem exec_installLogging (text : String) (host : Host) (session : Session) :
    (installLogging text).exec host session =
      match if text = "" then none else host.loadLogConfig text with
      | some reason => (.error (.config reason), session)
      | none => (.ok (), session) := by
  rw [installLogging]
  by_cases nothing : text = ""
  · simp [nothing]
  · simp only [nothing, if_false, exec_bind, exec_read]
    cases host.loadLogConfig text <;> rfl

theorem installLogging_session {text : String} {outcome : Except Fault Unit}
    (ran : (installLogging text).exec host session = (outcome, after)) : after = session := by
  rw [exec_installLogging] at ran
  split at ran <;> cases ran <;> rfl

theorem readText_vm {outcome : Except Fault String}
    (ran : (readText path).exec host session = (outcome, after)) :
    after.shared.vm = session.shared.vm := by
  have steady : Session.Steady fun later => later.shared.vm = session.shared.vm :=
    .ofShared (·.vm = session.shared.vm)
  exact (steady.readText path).after rfl ran

/-- A registration that succeeds leaves a machine recorded, the one that was if there was one; one
that fails leaves what was recorded. -/
theorem registerVm_cases {outcome : Except Fault Unit}
    (ran : registerVm.exec host session = (outcome, after)) :
    (outcome = .ok () ∧ ∃ vm, after.shared.vm = some vm ∧
      ∀ known, session.shared.vm = some known → known = vm) ∨
    ∃ refusal, outcome = .error (.jni refusal) ∧ after.shared.vm = session.shared.vm := by
  let use : Cache.Use := ⟨host, session⟩
  have ended : use.outcome .vm = outcome := congrArg Prod.fst ran
  have left : use.after .vm = after := congrArg Prod.snd ran
  rw [← ended, ← left]
  cases known : session.shared.vm with
  | some vm =>
      have recalls : use.Recalls .vm vm := Cache.Use.recalls_of_kept known
      rw [recalls.untouched]
      refine .inl ⟨recalls.outcome, vm, known, ?_⟩
      rintro _ ⟨⟩
      rfl
  | none =>
      have empty : Cache.vm.kept? use.before.shared = none := known
      rcases Cache.Use.cases_of_empty empty with ⟨vm, fills⟩ | ⟨fault, fails⟩
      · exact .inl ⟨fills.outcome, vm, fills.filled, nofun⟩
      · rcases fails.first with ⟨refusal, rfl, _⟩
        exact .inr ⟨refusal, fails.outcome, fails.still⟩

theorem registerVm_eq_error (ran : registerVm.exec host session = (.error fault, after)) :
    fault.IsOfInterface ∧ after.shared.vm = session.shared.vm := by
  rcases registerVm_cases ran with ⟨⟨⟩, _⟩ | ⟨refusal, refused, same⟩
  cases refused
  exact ⟨⟨refusal, rfl⟩, same⟩

theorem registerVm_eq_ok (ran : registerVm.exec host session = (.ok (), after)) :
    ∃ vm, after.shared.vm = some vm ∧ ∀ known, session.shared.vm = some known → known = vm := by
  rcases registerVm_cases ran with ⟨_, recorded⟩ | ⟨_, ⟨⟩, _⟩
  exact recorded

/-- A registration that succeeds leaves nothing pending. -/
theorem quiet_of_registerVm (silent : ∀ history, (host.status history .getJavaVm).code = 0 →
      (host.status history .getJavaVm).exception = none) (quiet : session.IsQuiet)
    (ran : registerVm.exec host session = (.ok (), after)) : after.IsQuiet := by
  rcases exec_bind_eq_ok ran with ⟨vm, recorded, asked, ended⟩
  cases ended
  rcases exec_cached_eq_ok asked with ⟨_, rfl⟩ | ⟨found, resolved, rfl⟩
  · exact quiet
  · rw [getJavaVm, exec_bind_of_ok (exec_get host session)] at resolved
    rcases exec_bind_eq_ok resolved with ⟨code, answered, requested, accepted⟩
    rw [exec_requestStatus] at requested
    split at requested
    · cases requested
      by_cases succeeds : (host.status session.history .getJavaVm).code = 0
      · simp only [succeeds, if_true, silent _ succeeds, Option.none_or] at accepted
        cases accepted
        exact quiet
      · simp [succeeds, exec_map] at accepted
    · cases requested

end Jni

/-! ## Entry points whose body ended -/

namespace Native

variable {α : Type} {body : Jni (Completion α)}

theorem exec_guarded_of_value {result : α}
    (ran : body.exec host session = (.ok (.value result), left)) (fallback : α) :
    (guarded fallback body).exec host session = (result, left) := by
  have began : body.run.exec host session = (.ok (.value result), left) := ran
  rw [guarded, exec_bind, began]
  rfl

theorem exec_guarded_of_error (ran : body.exec host session = (.error fault, left))
    (fallback : α) :
    (guarded fallback body).exec host session =
      (fallback, ((releaseAll fault.refs).exec host ((report fault).exec host left).2).2) := by
  have began : body.run.exec host session = (.error fault, left) := ran
  rw [guarded, exec_bind, began]
  rfl

end Native

/-! ## Preparing once -/

namespace Preparation

theorem exists_outcome (host : Host) (path : Option Object) (session : Session) :
    ∃ outcome left, Preparation host path session outcome left := by
  rcases decoding : (Jni.readText path).exec host session with ⟨fault | text, decoded⟩
  · exact ⟨_, _, .undecoded decoding⟩
  · rcases logging : (Jni.installLogging text).exec host decoded with ⟨fault | _, logged⟩
    · exact ⟨_, _, .unlogged decoding logging⟩
    · rcases registering : Jni.registerVm.exec host logged with ⟨fault | _, left⟩
      · exact ⟨_, _, .unregistered decoding logging registering⟩
      · exact ⟨_, _, .registered decoding logging registering⟩

theorem exec_of_error (fails : Preparation host path session (.error fault) left) :
    (prepareLibrary path).exec host session =
      ((), ((Native.releaseAll fault.refs).exec host
        ((Native.report fault).exec host left).2).2) := by
  rw [prepareLibrary]
  apply Native.exec_guarded_of_error
  cases fails with
  | undecoded decoding => exact Jni.exec_bind_of_error decoding _
  | unlogged decoding logging =>
      rw [Jni.exec_bind_of_ok decoding]
      exact Jni.exec_bind_of_error logging _
  | unregistered decoding logging registering =>
      rw [Jni.exec_bind_of_ok decoding, Jni.exec_bind_of_ok logging]
      exact Jni.exec_bind_of_error registering _

theorem exec_of_ok (succeeds : Preparation host path session (.ok ()) left) :
    ∃ logs, (prepareLibrary path).exec host session = ((), { left with logs := logs }) := by
  cases succeeds with
  | registered decoding logging registering =>
      refine ⟨left.logs ++ [⟨.info, "AID JNI native library version 0.1.0 initialized"⟩], ?_⟩
      rw [prepareLibrary]
      apply Native.exec_guarded_of_value
      rw [Jni.exec_bind_of_ok decoding, Jni.exec_bind_of_ok logging,
        Jni.exec_bind_of_ok registering]
      rfl

/-- A failure is one of the native interface, or of the configuration of the log. -/
theorem fault_cases (fails : Preparation host path session (.error fault) left) :
    fault.IsOfInterface ∨ ∃ reason, fault = .config reason := by
  cases fails with
  | undecoded decoding =>
      have ends : Jni.Ends host Fault.IsOfInterface (fun _ => True) (Jni.readText path) :=
        Fault.CoversInterface.isOfInterface.readText path
      exact .inl (ends.fault_allowed decoding)
  | unlogged decoding logging =>
      rw [Jni.exec_installLogging] at logging
      split at logging <;> cases logging
      exact .inr ⟨_, rfl⟩
  | unregistered decoding logging registering => exact .inl (Jni.registerVm_eq_error registering).1

theorem vm_of_error (fails : Preparation host path session (.error fault) left) :
    left.shared.vm = session.shared.vm := by
  cases fails with
  | undecoded decoding => exact Jni.readText_vm decoding
  | unlogged decoding logging =>
      rw [Jni.installLogging_session logging]
      exact Jni.readText_vm decoding
  | unregistered decoding logging registering =>
      rw [(Jni.registerVm_eq_error registering).2, Jni.installLogging_session logging]
      exact Jni.readText_vm decoding

theorem vm_of_ok (succeeds : Preparation host path session (.ok ()) left) :
    ∃ vm, left.shared.vm = some vm ∧ ∀ known, session.shared.vm = some known → known = vm := by
  cases succeeds with
  | registered decoding logging registering =>
      rcases Jni.registerVm_eq_ok registering with ⟨vm, recorded, same⟩
      refine ⟨vm, recorded, ?_⟩
      intro known earlier
      apply same
      rw [Jni.installLogging_session logging, Jni.readText_vm decoding]
      exact earlier

theorem quiet_of_ok (able : host.TellsPreparation)
    (succeeds : Preparation host path session (.ok ()) left) : left.IsQuiet := by
  cases succeeds with
  | registered decoding logging registering =>
      have quiet := Jni.quiet_of_readText decoding
      rw [← Jni.installLogging_session logging] at quiet
      exact Jni.quiet_of_registerVm able.silent quiet registering

/-- A failure is told, unless an exception of the step that failed is pending already. -/
theorem tells (able : host.TellsPreparation)
    (fails : Preparation host path session (.error fault) left)
    (ran : (prepareLibrary path).exec host session = ((), after)) :
    left.Tells fault none after := by
  rw [fails.exec_of_error] at ran
  rcases fails.fault_cases with ⟨cause, rfl⟩ | ⟨reason, rfl⟩
  · cases ran
    exact Native.report_tells_of_canThrow able.runtime.check left
      (Native.canThrow_of_makes able.runtime rfl none)
  · cases ran
    exact Native.report_tells_of_canThrow able.argument.check left
      (Native.canThrow_of_makes able.argument rfl none)

end Preparation

theorem Session.Tells.isSome_pending {stack : Option String} (tells : left.Tells fault stack after)
    (unthrown : fault.isThrown = false) : after.pending.isSome = true := by
  cases tells with
  | kept _ still => simp [still]
  | thrown _ told =>
      cases fault with
      | thrown className message ref => cases unthrown
      | _ =>
          rcases told with ⟨_, _, _, _, pending⟩
          simp [pending]

/-! ## Registrations of a process -/

/-- An attempt to register the machine, by itself or by preparing the library. -/
inductive Registers (host : Host) (session : Session) : Except Fault Unit → Session → Prop where
  | alone {outcome : Except Fault Unit} {after : Session}
      (ran : Jni.registerVm.exec host session = (outcome, after)) :
      Registers host session outcome after
  | preparing {path : Option Object} {outcome : Except Fault Unit} {left after : Session}
      (prepares : Preparation host path session outcome left)
      (ran : (prepareLibrary path).exec host session = ((), after)) :
      Registers host session outcome after

namespace Registers

theorem vm_of_error (failed : Registers host session (.error fault) after) :
    after.shared.vm = session.shared.vm := by
  cases failed with
  | alone ran => exact (Jni.registerVm_eq_error ran).2
  | @preparing path _ left _ prepares ran =>
      have steady : Session.Steady fun later => later.shared.vm = session.shared.vm :=
        .ofShared (·.vm = session.shared.vm)
      have reported : Native.Keeps host _ (Native.report fault) :=
        steady.report (fun _ same => same) fault
      rw [prepares.exec_of_error] at ran
      cases ran
      exact steady.releaseAll fault.refs _ (reported left prepares.vm_of_error)

theorem vm_of_ok (succeeded : Registers host session (.ok ()) after) :
    ∃ vm, after.shared.vm = some vm ∧ ∀ known, session.shared.vm = some known → known = vm := by
  cases succeeded with
  | alone ran => exact Jni.registerVm_eq_ok ran
  | preparing prepares ran =>
      rcases prepares.exec_of_ok with ⟨logs, prepared⟩
      rw [prepared] at ran
      cases ran
      exact prepares.vm_of_ok

end Registers

/-- The attempts of a process to register the machine: the sessions that successful ones left,
oldest first, and the session it has come to. In between anything may happen that leaves the
registered machine alone. -/
inductive Registrations (start : Session) : List Session → Session → Prop where
  | start : Registrations start [] start
  | succeeded {successes : List Session} {session after : Session} {host : Host}
      (earlier : Registrations start successes session)
      (registers : Registers host session (.ok ()) after) :
      Registrations start (successes ++ [after]) after
  | failed {successes : List Session} {session after : Session} {host : Host} {fault : Fault}
      (earlier : Registrations start successes session)
      (registers : Registers host session (.error fault) after) :
      Registrations start successes after
  | elsewhere {successes : List Session} {session later : Session}
      (earlier : Registrations start successes session)
      (same : later.shared.vm = session.shared.vm) : Registrations start successes later

/-- The machine that is registered is the one of the first success. -/
theorem Registrations.vm_eq {start : Session} {successes : List Session}
    (run : Registrations start successes session) (fresh : start.shared.vm = none) :
    session.shared.vm = successes.head?.bind (·.shared.vm) ∧
      (successes ≠ [] → session.shared.vm ≠ none) := by
  induction run with
  | start => exact ⟨fresh, fun given => absurd rfl given⟩
  | @succeeded successes session after host earlier registers ih =>
      rcases registers.vm_of_ok with ⟨vm, recorded, same⟩
      refine ⟨?_, fun _ => by simp [recorded]⟩
      cases successes with
      | nil => rfl
      | cons first others =>
          cases known : session.shared.vm with
          | none => exact absurd known (ih.2 (by simp))
          | some earliest =>
              rw [recorded, ← same earliest known, ← known]
              exact ih.1
  | failed earlier registers ih =>
      rw [registers.vm_of_error]
      exact ih
  | elsewhere earlier same ih =>
      rw [same]
      exact ih

/-- Preparing the library leaves an exception pending if and only if one of its steps failed, and it
is the one that this step left, if it left one. After a failure the registered machine is what it
was before; after a success it is the one of the first registration of the process that
succeeded. -/
theorem prepareLibrary_tells_failures {start : Session} {successes : List Session}
    (able : host.TellsPreparation) (run : Registrations start successes session)
    (fresh : start.shared.vm = none) (path : Option Object) :
    ∃ after, (prepareLibrary path).exec host session = ((), after) ∧
      (after.pending.isSome = true ↔
        ∃ fault left, Preparation host path session (.error fault) left) ∧
      (∀ fault left, Preparation host path session (.error fault) left →
        after.shared.vm = session.shared.vm ∧
        (∀ exception, left.pending = some exception → after.pending = some exception) ∧
        (left.pending = none → fault.IsToldBy none left.history.length after.pending)) ∧
      ((¬∃ fault left, Preparation host path session (.error fault) left) →
        ∃ vm, after.shared.vm = some vm ∧
          ∀ first, (successes ++ [after]).head? = some first → first.shared.vm = some vm) := by
  rcases ran : (prepareLibrary path).exec host session with ⟨⟨⟩, after⟩
  refine ⟨after, rfl, ⟨?failed, ?told⟩, ?failure, ?success⟩
  case failed =>
    intro pending
    rcases Preparation.exists_outcome host path session with ⟨fault | _, left, prepares⟩
    · exact ⟨fault, left, prepares⟩
    · have quiet := prepares.quiet_of_ok able
      rcases prepares.exec_of_ok with ⟨logs, prepared⟩
      rw [prepared] at ran
      cases ran
      rw [quiet] at pending
      cases pending
  case told =>
    rintro ⟨fault, left, fails⟩
    have unthrown : fault.isThrown = false := by
      rcases fails.fault_cases with ⟨cause, rfl⟩ | ⟨reason, rfl⟩ <;> rfl
    exact (fails.tells able ran).isSome_pending unthrown
  case failure =>
    intro fault left fails
    have failed : Registers host session (.error fault) after := .preparing fails ran
    refine ⟨failed.vm_of_error, ?_⟩
    cases fails.tells able ran with
    | kept pending still =>
        refine ⟨?_, fun silent => ?_⟩
        · intro exception given
          rw [still, ← given, pending]
        · rw [silent] at pending
          cases pending
    | thrown silent told =>
        refine ⟨?_, fun _ => told⟩
        intro exception given
        rw [silent] at given
        cases given
  case success =>
    intro untroubled
    rcases Preparation.exists_outcome host path session with ⟨fault | _, left, prepares⟩
    · exact absurd ⟨fault, left, prepares⟩ untroubled
    · have succeeded : Registers host session (.ok ()) after := .preparing prepares ran
      rcases succeeded.vm_of_ok with ⟨vm, known, _⟩
      have recorded := ((run.succeeded succeeded).vm_eq fresh).1
      refine ⟨vm, known, ?_⟩
      intro first among
      rw [among, known] at recorded
      exact recorded.symm

/-- Throws an exception where the class of strings is asked for. -/
def Script.stringless : Script where
  missingClasses := [(Descriptor.stringClass, .throws .elusive)]

theorem Script.stringless_tellsPreparation : stringless.host.TellsPreparation where
  runtime := ⟨rfl, rfl, fun _ => rfl, rfl, fun _ => rfl⟩
  argument := ⟨rfl, rfl, fun _ => rfl, rfl, fun _ => rfl⟩
  silent _ _ := rfl

/-- A process that prepared the library, with the default logging, prepares it again without a
path on a machine that throws: the exception is seen, and the machine stays registered. -/
theorem prepareLibrary_tells_stringless :
    ∃ first after, (prepareLibrary (some (.string []))).exec ({} : Script).host {} =
        ((), first) ∧
      (prepareLibrary none).exec Script.stringless.host first = ((), after) ∧
      after.pending = some .elusive ∧ after.shared.vm = first.shared.vm := by
  rcases prepared : (prepareLibrary (some (.string []))).exec ({} : Script).host {} with
    ⟨⟨⟩, first⟩
  have succeeds : Registers ({} : Script).host {} (.ok ()) first :=
    .preparing (.registered rfl rfl rfl) prepared
  have run : Registrations {} [first] first := .succeeded .start succeeds
  have fails : Preparation Script.stringless.host none first (.error (.jni .exceptionThrown))
      ({ first.record (.findClass Descriptor.stringClass) with
        pending := some .elusive }.record .exceptionCheck) := .undecoded rfl
  rcases prepareLibrary_tells_failures Script.stringless_tellsPreparation run rfl none with
    ⟨after, ran, _, told, _⟩
  rcases told _ _ fails with ⟨same, seen, _⟩
  exact ⟨first, after, rfl, ran, seen _ rfl, same⟩

end NativeProxy
