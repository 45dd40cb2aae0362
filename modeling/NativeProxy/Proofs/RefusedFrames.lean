import NativeProxy.Proofs.Calls
import NativeProxy.Proofs.Quiescence

/-!
# Calls without a frame

A call that cannot get its frame of local references fails before anything else happens. What the
request for the frame left pending is not taken then, since the step that settles a failure is part
of what would have run inside the frame: the exception stays pending when the failure is told.
-/

namespace NativeProxy

variable {host : Host} {proxy next : Proxy} {session after : Session} {index : Nat}
  {args : List Value} {method : Method} {id : MethodId}

/-- The session after a request for a frame. -/
def Session.framed (host : Host) (session : Session) (capacity : Int) : Session :=
  { session.record (.pushFrame capacity) with
    pending := (host.status session.history .pushLocalFrame).exception.or session.pending }

theorem Proxy.exec_callMethod_of_refused_frame
    (accepted : proxy.accept index args = .ok (method, id))
    (provided : host.provides .pushLocalFrame = true)
    (refused : (host.status session.history .pushLocalFrame).code ≠ 0) :
    (proxy.callMethod index args).exec host session =
      (.error (.jni .callFailed), session.framed host proxy.config.frameCapacity) := by
  rw [callMethod_eq, accepted]
  dsimp only
  rw [Jni.exec_withFrame, Jni.exec_requestStatus, if_pos provided]
  dsimp only
  rw [if_neg refused, Session.framed]

/-- An operation whose call gets no frame reports that and does nothing but release the stored
result it drops. Whatever is pending after the request for the frame stays pending, on a machine
where attaching the thread, which releasing may do, leaves no exception. -/
theorem Operation.perform_without_frame {operation : Operation} {answer : Answer}
    (silent : host.AttachesSilently) (accepted : operation.accept proxy = .ok (method, id))
    (provided : host.provides .pushLocalFrame = true)
    (refused : (host.status session.history .pushLocalFrame).code ≠ 0)
    (ran : (operation.perform proxy).exec host session = ((answer, next), after)) :
    answer = operation.report (.error (.jni .callFailed)) ∧
      after.pending =
        (host.status session.history .pushLocalFrame).exception.or session.pending ∧
      ∃ events, after.history =
          session.history ++ .pushFrame proxy.config.frameCapacity :: events ∧
        ∀ event ∈ events, ∃ ref ∈ operation.dropped proxy, event.Releases ref := by
  rcases perform_cases ran with
    ⟨fault, early, _, _, _⟩ | ⟨index, outcome, between, requested, called, told, _, rfl⟩
  · rw [accept_of_request_error early] at accepted
    cases accepted
  · rw [accept_of_request requested] at accepted
    rw [Proxy.exec_callMethod_of_refused_frame accepted provided refused, Prod.mk.injEq] at called
    rcases called with ⟨rfl, rfl⟩
    refine ⟨told, ?pending, ?history⟩
    case pending =>
      exact tidy_keeps (Native.release_pending silent) Native.log_pending index _ _ rfl
    case history =>
      have tidied : Native.Keeps host ((session.framed host proxy.config.frameCapacity).OnlyReleased
          (proxy.slotRefs index)) (operation.tidy proxy index (.error (.jni .callFailed))) :=
        tidy_onlyReleased rfl index
      rcases tidied _ (.refl _ _) with ⟨events, longer, released⟩
      refine ⟨events, ?_, ?_⟩
      · rw [longer]
        simp [Session.framed, Session.record]
      · rw [dropped, requested]
        exact released

/-! ## A machine without memory for a frame -/

/-- The second frame is refused, for want of memory. -/
def Script.crowded : Script where
  methods := [{ name := "poke", signature := "()V" }]
  statuses
    | .pushLocalFrame => [{}, {
        code := -4
        exception := some {
          identity := .given 0
          className := some (Units.ofText "java.lang.OutOfMemoryError")
          message := none } }]
    | _ => []

/-- The session that binding a target to `Interface.poking` leaves. -/
def Session.crowded : Session :=
  ((Proxy.bind (some (.plain "target")) .poking {}).exec Script.crowded.host {}).2

theorem Proxy.bind_crowded :
    (bind (some (.plain "target")) .poking {}).exec Script.crowded.host {} =
      (.ok .poking, .crowded) := rfl

theorem Script.crowded_attachesSilently : Script.crowded.host.AttachesSilently where
  thread history := by simp [host, crowded, answer]
  attach history := by simp [host, crowded, answer]

theorem Operation.accept_poking : (invoke 0 []).accept .poking =
    .ok (.ofSelector ⟨"poke", ⟨[], .primitive .void⟩⟩, ⟨"Target", "poke", "()V"⟩) := rfl

theorem Operation.perform_poking_without_frame :
    ∃ exception after, Session.crowded.pending = none ∧
      ((Operation.invoke 0 []).perform .poking).exec Script.crowded.host .crowded =
        ((.outcome (.error (.jni .callFailed)), .poking), after) ∧
      exception.className = some (Units.ofText "java.lang.OutOfMemoryError") ∧
      after.pending = some exception := by
  have ran : ((Operation.invoke 0 []).perform .poking).exec Script.crowded.host .crowded =
      ((.outcome (.error (.jni .callFailed)), .poking), _) := rfl
  have ended := perform_without_frame Script.crowded_attachesSilently accept_poking rfl
    (by decide) ran
  exact ⟨_, _, rfl, ran, rfl, ended.2.1⟩

/-- What a refused frame leaves pending could be taken and converted, but it is not. -/
theorem Reachable.exception_of_refused_frame_stays :
    ¬ ∀ {host : Host} {proxy next : Proxy} {session after : Session} {operation : Operation}
        {method : Method} {id : MethodId} {answer : Answer},
      host.ClearsExceptions → Reachable host proxy session → session.pending = none →
      operation.accept proxy = .ok (method, id) → host.provides .pushLocalFrame = true →
      (host.status session.history .pushLocalFrame).code ≠ 0 →
      (∃ fault taken, Jni.takeException.exec host
        (session.framed host proxy.config.frameCapacity) = (.ok (some fault), taken)) →
      (operation.perform proxy).exec host session = ((answer, next), after) →
      after.pending = none := by
  intro cleaned
  have ran : ((Operation.invoke 0 []).perform .poking).exec Script.crowded.host .crowded =
      ((.outcome (.error (.jni .callFailed)), .poking), _) := rfl
  have converts : ∃ fault taken, Jni.takeException.exec Script.crowded.host
      (Session.crowded.framed Script.crowded.host Proxy.poking.config.frameCapacity) =
        (.ok (some fault), taken) := ⟨_, _, rfl⟩
  have gone := cleaned ⟨rfl, rfl, rfl⟩ (.bound Proxy.bind_crowded) rfl
    Operation.accept_poking rfl (by decide) converts ran
  exact absurd gone (Option.some_ne_none _)

end NativeProxy
