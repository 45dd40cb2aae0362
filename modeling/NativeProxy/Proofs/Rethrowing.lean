import NativeProxy.Proofs.EntryPoints
import NativeProxy.Proofs.ReachedCalls

/-!
# Exceptions that cross the native side

An exception that a bound method throws is taken, described and kept alive by a reference; the
frame of the call ends, and the fault carries the reference to an entry point, which throws what it
refers to. If every question about the exception and its causes is answered, the machine finds the
very exception pending that it threw, and asking about it again tells the same.
-/

namespace NativeProxy

variable {host : Host} {exception : Throwable}

/-! ## Exceptions whose questions are answered -/

/-- If all questions are answered, the exception is converted to a fault that refers to it. -/
theorem Converts.of_smooth {asked : List Question} {outcome : Except Fault Fault}
    (converts : Converts exception asked outcome)
    (smooth : ∀ question ∈ exception.questions, question.IsSmooth) :
    ∃ ref, ref.object = .throwable exception ∧
      outcome = .ok (.thrown exception.nameText exception.fullMessage ref) := by
  cases converts with
  | described _ same => exact ⟨_, same, rfl⟩
  | @nameless _ link _ _ split _ _ null =>
      exact absurd null ((smooth ⟨link, .getName⟩ (by simp [split])).2 rfl)
  | @interrupted _ _ question _ _ _ _ _ split _ throws _ _ =>
      rw [(smooth question (by simp [split])).1] at throws
      cases throws

/-- Taking a pending exception whose questions are answered. -/
theorem Jni.exec_takeException_of_smooth (cooperates : host.Cooperates) {session : Session}
    (genuine : session.HasGenuineCore) {core : CoreClasses}
    (cached : session.shared.core = some core) (pending : session.pending = some exception)
    (smooth : ∀ question ∈ exception.questions, question.IsSmooth) :
    ∃ ref taken, takeException.exec host session =
        (.ok (some (.thrown exception.nameText exception.fullMessage ref)), taken) ∧
      ref.object = .throwable exception ∧ taken.pending = none := by
  rcases exec_takePending cooperates.clears session with ⟨cleared, took, quiet, shared⟩
  rw [pending] at took
  rcases (describe_tells cooperates (genuine core cached) exception).reports cooperates cleared
    quiet with ⟨asked, outcome, taken, converted, askedAll, converts⟩
  rcases converts.of_smooth smooth with ⟨ref, same, rfl⟩
  refine ⟨ref, taken, ?_, same, askedAll.quiet⟩
  rw [takeException, exec_bind_of_ok took]
  dsimp only
  rw [exec_bind, exec_convert (exec_coreClasses_of_cached (shared ▸ cached)) quiet, converted]
  rfl

/-! ## Throwing an exception again -/

namespace Native

variable {start left : Session} {ref : GlobalRef}

/-- Reporting the fault of an exception makes that exception pending. -/
theorem report_rethrows (provides : ∀ function, host.provides function = true)
    (thrown : ∀ history, (host.status history .throwObject).code = 0) (quiet : left.IsQuiet)
    (same : ref.object = .throwable exception) (className message : String) :
    ∃ reported, (report (.thrown className message ref)).exec host left = ((), reported) ∧
      reported.pending = some exception ∧ left.Precedes reported := by
  have checked : Jni.exceptionCheck.run.exec host left =
      (.ok left.pending.isSome, left.record .exceptionCheck) :=
    Jni.exec_exceptionCheck (provides _) left
  rcases Jni.exec_throwObject (provides _) thrown ref.object (left.record .exceptionCheck) with
    ⟨reported, threw, _, pending⟩
  have rethrown : (throwFault (.thrown className message ref) none).run.exec host
      (left.record .exceptionCheck) = (.ok (), reported) := threw
  refine ⟨reported, ?_, pending exception same, ?_⟩
  · rw [quiet] at checked
    have untraced : takeStack (.thrown className message ref) = pure none := rfl
    rw [report, untraced, pure_bind, exec_bind, checked]
    dsimp only [Option.isSome_none]
    rw [exec_bind, rethrown]
    rfl
  · exact (Session.Precedes.robust.steady.throwObject ref.object).after
      ((Session.Precedes.refl left).record _) threw

/-- An entry point whose body fails with the fault of an exception leaves that exception pending. -/
theorem guarded_rethrows (provides : ∀ function, host.provides function = true)
    (silent : host.AttachesSilently)
    (thrown : ∀ history, (host.status history .throwObject).code = 0) {α : Type} (fallback : α)
    {body : Jni (Completion α)} {className message : String}
    (failed : body.exec host start = (.error (.thrown className message ref), left))
    (quiet : left.IsQuiet) (same : ref.object = .throwable exception) :
    ∃ last, (guarded fallback body).exec host start = (fallback, last) ∧
      last.pending = some exception ∧ left.Precedes last := by
  have began : body.run.exec host start = (.error (.thrown className message ref), left) := failed
  rcases report_rethrows provides thrown quiet same className message with
    ⟨reported, ran, pending, later⟩
  refine ⟨((releaseAll [ref]).exec host reported).2, ?_, ?_, ?_⟩
  · rw [guarded, exec_bind, began]
    dsimp only
    rw [exec_bind, ran]
    rfl
  · exact releaseAll_keeps (release_pending silent) [ref] reported pending
  · exact releaseAll_keeps release_advances [ref] reported later

end Native

/-! ## Exceptions of bound methods -/

variable {proxy next : Proxy} {session called after : Session} {operation : Operation}
  {method : Method} {id : MethodId} {raws : List RawValue} {answer : Answer}

/-- An exception that a bound method throws, and whose questions are answered, is told by a fault.
Once an entry point fails with that fault, the exception is pending again, and taking it again
tells the same class and the same message. -/
theorem Operation.exception_crosses_unchanged (cooperates : host.Cooperates)
    (silent : host.AttachesSilently)
    (thrown : ∀ history, (host.status history .throwObject).code = 0)
    (reachable : Reachable host proxy session) (genuine : session.HasGenuineCore)
    (smooth : ∀ question ∈ exception.questions, question.IsSmooth)
    (telling : operation.isFlag = false)
    (reaches : operation.Reaches host proxy session method id raws called)
    (throws : proxy.answer host called.history id raws = .throws exception)
    (ran : (operation.perform proxy).exec host session = ((answer, next), after)) :
    ∃ ref, answer =
        .outcome (.error (.thrown exception.nameText exception.fullMessage ref)) ∧
      after.pending = none ∧
      ∀ {α : Type} {fallback : α} {body : Jni (Completion α)} {start left : Session},
        body.exec host start =
          (.error (.thrown exception.nameText exception.fullMessage ref), left) →
        after.Precedes left → left.pending = none →
        ∃ last, (Native.guarded fallback body).exec host start = (fallback, last) ∧
          last.pending = some exception ∧
          ∃ again taken, Jni.takeException.exec host last =
            (.ok (some (.thrown exception.nameText exception.fullMessage again)), taken) := by
  rcases reachable.core_cached with ⟨core, cached⟩
  rcases reaches.exec_callOnce_of_throws cooperates throws with
    ⟨pended, pending, since, failing⟩
  have sooner : session.Precedes pended := reaches.advances.trans since
  rcases Jni.exec_takeException_of_smooth cooperates (sooner.genuine genuine)
    (sooner.core core cached) pending smooth with ⟨ref, taken, took, same, quiet⟩
  -- The call took the exception itself, so settling its failure finds nothing pending.
  have settled := Proxy.exec_settle_of_quiet cooperates.clears (failing took) quiet
  rcases reaches.answer_eq cooperates.provides settled ran with ⟨told, index, tidied⟩
  refine ⟨ref, ?told, ?settled, ?rethrown⟩
  case told =>
    rw [told]
    cases operation with
    | invokeFlag index args => cases telling
    | _ => rfl
  case settled =>
    rw [tidied]
    exact Operation.tidy_keeps (Native.release_pending silent) Native.log_pending index _ _ quiet
  case rethrown =>
    intro α fallback body start left failed later still
    rcases Native.guarded_rethrows cooperates.provides silent thrown fallback failed still same with
      ⟨last, ended, pendingAgain, further⟩
    -- The core classes were found when the proxy was made, and every session since kept them.
    have atLast : session.Precedes last :=
      ((operation.perform_advances.after (.refl session) ran).trans later).trans further
    rcases Jni.exec_takeException_of_smooth cooperates (atLast.genuine genuine)
      (atLast.core core cached) pendingAgain smooth with ⟨again, takenAgain, tookAgain, _, _⟩
    exact ⟨last, ended, pendingAgain, again, takenAgain, tookAgain⟩

/-! ## An exception with a cause -/

/-- An exception and its cause; the cause has no message. -/
def Throwable.caused : Throwable where
  identity := .given 0
  className := some (Units.ofText "java.io.IOException")
  message := some (Units.ofText "closed")
  cause := some {
    identity := .given 1
    className := some (Units.ofText "java.lang.IllegalStateException")
    message := none }

theorem Throwable.caused_smooth : ∀ question ∈ caused.questions, question.IsSmooth := by
  intro question among
  simp only [questions, caused, causes, List.flatMap_cons, List.flatMap_nil, Question.about,
    List.append_nil, List.cons_append, List.nil_append, List.mem_cons, List.not_mem_nil,
    or_false] at among
  rcases among with rfl | rfl | rfl | rfl | rfl | rfl | rfl | rfl <;>
    exact ⟨rfl, fun _ => Option.some_ne_none _⟩

/-- The only method of the target throws `Throwable.caused`. -/
def Script.failing : Script where
  methods := [{ name := "poke", signature := "()V", outcomes := [.throws .caused] }]

/-- The session that binding a target to `Interface.poking` leaves. -/
def Session.failing : Session :=
  ((Proxy.bind (some (.plain "target")) .poking {}).exec Script.failing.host {}).2

/-- The body of an entry point that performs an operation and fails as it does. -/
def Operation.relay (proxy : Proxy) (operation : Operation) : Jni (Completion Proxy) := do
  let (answer, next) ← operation.perform proxy
  match answer with
  | .outcome (.error fault) => throw fault
  | _ => return .value next

theorem Operation.exec_relay_of_error {fault : Fault}
    (ran : (operation.perform proxy).exec host session =
      ((.outcome (.error fault), next), after)) :
    (operation.relay proxy).exec host session = (.error fault, after) := by
  rw [relay, Jni.exec_bind_of_ok (Jni.exec_lift _ host session), ran]
  exact Jni.exec_throw fault host after

theorem Operation.caused_exception_crosses_unchanged :
    ∃ ref after, ((invoke 0 []).perform .poking).exec Script.failing.host .failing =
        ((.outcome (.error (.thrown Throwable.caused.nameText Throwable.caused.fullMessage ref)),
          .poking), after) ∧
      after.pending = none ∧
      ∃ last, (Native.guarded .poking ((invoke 0 []).relay .poking)).exec Script.failing.host
          .failing = (.poking, last) ∧
        last.pending = some .caused ∧
        ∃ again taken, Jni.takeException.exec Script.failing.host last =
          (.ok (some (.thrown Throwable.caused.nameText Throwable.caused.fullMessage again)),
            taken) := by
  have bound : (Proxy.bind (some (.plain "target")) .poking {}).exec Script.failing.host {} =
      (.ok .poking, .failing) := rfl
  have genuine : Session.failing.HasGenuineCore := by
    rintro core ⟨⟩ accessor
    cases accessor <;> rfl
  have silent : Script.failing.host.AttachesSilently := ⟨fun _ => rfl, fun _ => rfl⟩
  have reaches : (invoke 0 []).Reaches Script.failing.host .poking .failing
      (.ofSelector ⟨"poke", ⟨[], .primitive .void⟩⟩) ⟨"Target", "poke", "()V"⟩ [] _ :=
    ⟨rfl, rfl, rfl⟩
  have ran : ((invoke 0 []).perform .poking).exec Script.failing.host .failing =
      ((_, .poking), _) := rfl
  rcases exception_crosses_unchanged (Script.host_cooperates rfl rfl rfl) silent (fun _ => rfl)
    (.bound bound) genuine Throwable.caused_smooth rfl reaches rfl ran with
    ⟨ref, told, quiet, rethrown⟩
  rw [told] at ran
  refine ⟨ref, _, ran, quiet, ?_⟩
  exact rethrown (exec_relay_of_error ran) (.refl _) quiet

end NativeProxy
