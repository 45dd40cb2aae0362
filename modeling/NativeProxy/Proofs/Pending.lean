import NativeProxy.Exceptions
import NativeProxy.Proofs.Execution

/-!
# The pending exception

Looking for the pending exception, taking it, and failing because of it. Taking it leaves none
pending, provided that the machine has the three functions that this needs, and converting what
was taken then starts with describing it. Log records and the release of references leave the
pending exception alone.
-/

namespace NativeProxy

/-- The machine can look for, fetch and clear the pending exception. -/
structure Host.ClearsExceptions (host : Host) : Prop where
  check : host.provides .exceptionCheck = true
  occurred : host.provides .exceptionOccurred = true
  clear : host.provides .exceptionClear = true

/-- No exception is pending. -/
def Session.IsQuiet (session : Session) : Prop :=
  session.pending = none

/-- Making sure that the thread is attached leaves no exception behind. -/
structure Host.AttachesSilently (host : Host) : Prop where
  thread : ∀ history, (host.status history .threadEnv).exception = none
  attach : ∀ history, (host.status history .attachThread).exception = none

namespace Native

variable {host : Host} {pending : Option Throwable}

theorem status_pending {kind : StatusRequest}
    (silent : ∀ history, (host.status history kind).exception = none) (event : Event) :
    Keeps host (fun session => session.pending = pending) (status kind event) := by
  intro session same
  rw [exec_status, silent]
  exact same

/-- Releasing a reference leaves the pending exception as it is. -/
theorem release_pending (silent : host.AttachesSilently) (ref : GlobalRef) :
    Keeps host (fun session => session.pending = pending) (release ref) := by
  have attached : Keeps host (fun session => session.pending = pending) attach := by
    rw [attach]
    apply Keeps.bind (status_pending silent.thread _)
    intro code
    split
    · exact Keeps.pure true
    · apply Keeps.bind (status_pending silent.attach _)
      intro code
      exact Keeps.pure _
  have deleted : Jni.Keeps host (fun session => session.pending = pending)
      (Jni.request .deleteGlobalRef (.deleteGlobalRef ref) fun _ _ => ()) :=
    Jni.Keeps.request fun _ same => same
  have finished (attached : Bool) : Keeps host (fun session => session.pending = pending) (do
      if attached then
        let _ ← (Jni.request .deleteGlobalRef (.deleteGlobalRef ref) fun _ _ => ()).run) := by
    split
    · exact Keeps.bind deleted fun _ => Keeps.pure _
    · exact Keeps.pure _
  rw [release]
  apply Keeps.bind (status_pending silent.thread _)
  intro code
  dsimp only
  split
  · exact Keeps.bind (Keeps.pure true) finished
  · exact Keeps.bind attached finished

theorem log_pending (level : Level) (text : String) :
    Keeps host (fun session => session.pending = pending) (log level text) := by
  intro session same
  exact same

end Native

namespace Jni

variable {host : Host} {session after : Session}

theorem exec_exceptionCheck (provided : host.provides .exceptionCheck = true)
    (session : Session) :
    exceptionCheck.exec host session =
      (.ok session.pending.isSome, session.record .exceptionCheck) := by
  simp [exceptionCheck, exec_bind, exec_map, exec_request, provided, Session.record]

theorem exec_exceptionClear (provided : host.provides .exceptionClear = true)
    (session : Session) :
    exceptionClear.exec host session =
      (.ok (), { session.record .exceptionClear with pending := none }) := by
  simp [exceptionClear, exec_bind, exec_request, provided, Session.record]

theorem exec_takePending_of_none (clears : host.ClearsExceptions) (quiet : session.IsQuiet) :
    takePending.exec host session = (.ok none, session.record .exceptionCheck) := by
  rw [Session.IsQuiet] at quiet
  simp [takePending, exec_bind, exec_exceptionCheck clears.check, quiet]

theorem exec_takePending_of_some (clears : host.ClearsExceptions) {exception : Throwable}
    (pending : session.pending = some exception) :
    takePending.exec host session = (.ok (some exception),
      { session with
        history := session.history ++ [.exceptionCheck, .exceptionOccurred, .exceptionClear]
        pending := none }) := by
  simp [takePending, exceptionOccurred, exceptionClear, exec_bind, exec_map,
    exec_exceptionCheck clears.check, exec_request, clears.occurred, clears.clear, Session.record,
    pending]

/-- Taking the pending exception leaves none pending and changes nothing that is cached. -/
theorem exec_takePending (clears : host.ClearsExceptions) (session : Session) :
    ∃ after, takePending.exec host session = (.ok session.pending, after) ∧
      after.IsQuiet ∧ after.shared = session.shared := by
  cases pending : session.pending with
  | none => exact ⟨_, exec_takePending_of_none clears pending, pending, rfl⟩
  | some exception => exact ⟨_, exec_takePending_of_some clears pending, rfl, rfl⟩

theorem exec_check_of_none (provided : host.provides .exceptionCheck = true)
    (quiet : session.IsQuiet) :
    check.exec host session = (.ok (), session.record .exceptionCheck) := by
  rw [Session.IsQuiet] at quiet
  simp [check, exec_bind, exec_exceptionCheck provided, quiet]

theorem exec_check_of_some (provided : host.provides .exceptionCheck = true)
    {exception : Throwable}
    (pending : session.pending = some exception) :
    check.exec host session =
      (.error (.jni .exceptionThrown), session.record .exceptionCheck) := by
  simp [check, exec_bind, exec_exceptionCheck provided, pending]

theorem exec_check (host : Host) (session : Session) :
    check.exec host session =
      if host.provides .exceptionCheck then
        (if session.pending.isSome then .error (.jni .exceptionThrown) else .ok (),
          session.record .exceptionCheck)
      else (.error (.jni (.missingFunction Function.exceptionCheck.name)), session) := by
  by_cases provided : host.provides .exceptionCheck = true
  · cases pending : session.pending with
    | none => simp [exec_check_of_none provided pending, provided]
    | some exception => simp [exec_check_of_some provided pending, provided]
  · simp [check, exceptionCheck, exec_bind, exec_request, provided]

/-- What is given while nothing is pending is there. -/
theorem exec_acquire_of_given {function : Function} {event : Event}
    {answer : Host → History → Reply} {refusal : JniFault}
    (provided : host.provides function = true)
    (checked : host.provides .exceptionCheck = true)
    (given : answer host session.history = .given) (quiet : session.IsQuiet) :
    (acquire function event answer refusal).exec host session =
      (.ok (), (session.record event).record .exceptionCheck) := by
  have still : (session.record event).IsQuiet := quiet
  rw [acquire, exec_bind, exec_request, if_pos provided, given]
  exact exec_bind_of_ok (exec_check_of_none checked still) _

section Invoke

variable {event : Event} {receiver : Object} {method : MethodId} {kind : CallKind}
  {args : List RawValue}

/-- A call that is answered while nothing is pending returns the answer, read as its kind says. -/
theorem exec_invoke_of_returns {value : RawValue} (provided : host.provides (.call kind) = true)
    (checked : host.provides .exceptionCheck = true) (quiet : session.IsQuiet)
    (returns : (receiver.respond? method.name).getD
      (host.invoke session.history receiver method args) = .returns value) :
    (invoke event receiver method kind args).exec host session =
      (.ok (kind.narrow value), (session.record event).record .exceptionCheck) := by
  have still : (session.record event).IsQuiet := quiet
  rw [invoke, exec_bind, exec_request, if_pos provided, returns]
  exact exec_bind_of_ok (exec_check_of_none checked still) _

/-- What a call throws is pending afterwards, whatever was pending before. -/
theorem exec_invoke_of_throws {exception : Throwable}
    (provided : host.provides (.call kind) = true)
    (checked : host.provides .exceptionCheck = true)
    (throws : (receiver.respond? method.name).getD
      (host.invoke session.history receiver method args) = .throws exception) :
    (invoke event receiver method kind args).exec host session =
      (.error (.jni .exceptionThrown),
        { session.record event with pending := some exception }.record .exceptionCheck) := by
  rw [invoke, exec_bind, exec_request, if_pos provided, throws]
  dsimp only
  rw [exec_bind_of_ok (exec_lift _ host _)]
  exact exec_bind_of_error (exec_check_of_some checked rfl) _

end Invoke

theorem exceptionCheck_eq_ok {found : Bool}
    (ran : exceptionCheck.exec host session = (.ok found, after)) :
    found = after.pending.isSome := by
  rw [exceptionCheck] at ran
  rcases exec_bind_eq_ok ran with ⟨_, between, _, looked⟩
  rw [exec_bind_of_ok (exec_get host between)] at looked
  simp only [exec_pure, Prod.mk.injEq, Except.ok.injEq] at looked
  rcases looked with ⟨rfl, rfl⟩
  rfl

/-- A check passes only if nothing is pending. -/
theorem quiet_of_check_eq_ok (ran : check.exec host session = (.ok (), after)) :
    session.IsQuiet := by
  cases pending : session.pending with
  | none => exact pending
  | some exception =>
      by_cases provided : host.provides .exceptionCheck = true
      · rw [exec_check_of_some provided pending] at ran
        exact absurd ran (by simp)
      · simp [check, exceptionCheck, exec_bind, exec_request, provided] at ran

theorem quiet_of_check (ran : check.exec host session = (.ok (), after)) : after.IsQuiet := by
  rw [check] at ran
  rcases exec_bind_eq_ok ran with ⟨found, between, looked, rest⟩
  have same := exceptionCheck_eq_ok looked
  cases found with
  | true => exact absurd rest (by simp)
  | false =>
      simp only [Bool.false_eq_true, if_false, exec_pure, Prod.mk.injEq, true_and] at rest
      rw [← rest, Session.IsQuiet]
      simpa using same.symm

theorem quiet_of_takePending (ran : takePending.exec host session = (.ok none, after)) :
    after.IsQuiet := by
  rw [takePending] at ran
  rcases exec_bind_eq_ok ran with ⟨found, between, looked, rest⟩
  have same := exceptionCheck_eq_ok looked
  cases found with
  | true =>
      simp only [if_true] at rest
      rcases exec_bind_eq_ok rest with ⟨fetched, later, occurred, cleared⟩
      rcases exec_bind_eq_ok cleared with ⟨_, last, clearing, ending⟩
      simp only [exec_pure, Prod.mk.injEq] at ending
      rw [exceptionClear] at clearing
      rcases exec_bind_eq_ok clearing with ⟨_, _, _, modified⟩
      simp only [exec_modify, Prod.mk.injEq] at modified
      rw [← ending.2, ← modified.2]
      rfl
  | false =>
      simp only [Bool.false_eq_true, if_false, exec_pure, Prod.mk.injEq] at rest
      rw [← rest.2, Session.IsQuiet]
      simpa using same.symm

theorem exec_coreClasses_of_cached {core : CoreClasses}
    (cached : session.shared.core = some core) :
    coreClasses.exec host session = (.ok core, session) :=
  exec_cached_of_some cached

theorem exec_takeException_of_none (clears : host.ClearsExceptions) (quiet : session.IsQuiet) :
    takeException.exec host session = (.ok none, session.record .exceptionCheck) := by
  rw [takeException, exec_bind_of_ok (exec_takePending_of_none clears quiet)]
  exact exec_pure none host _

theorem exec_failOnException_of_none (clears : host.ClearsExceptions) (quiet : session.IsQuiet) :
    failOnException.exec host session = (.ok (), session.record .exceptionCheck) := by
  rw [failOnException, exec_bind_of_ok (exec_takeException_of_none clears quiet)]
  exact exec_pure () host _

/-- Once the core classes are at hand and nothing is pending, the exception is described. -/
theorem exec_convert {core : CoreClasses}
    (found : coreClasses.exec host session = (.ok core, after)) (quiet : after.IsQuiet)
    (exception : Throwable) :
    (convert exception).exec host session =
      (faultOf exception (describe core exception)).exec host after := by
  rw [convert, exec_bind_of_ok found, exec_bind_of_ok (exec_get host after), quiet]

end Jni

end NativeProxy
