import NativeProxy.EntryPoint
import NativeProxy.Proofs.Backtrace
import NativeProxy.Proofs.Calls
import NativeProxy.Proofs.ExceptionConversion
import NativeProxy.Vm.Script

/-!
# What an entry point leaves behind

However the body of an entry point fails, the machine finds an exception pending afterwards:
`Session.Tells` says which one it is and whether it was thrown for the occasion. A fault that stems
from an exception throws that exception again, any other fault and every panic throw a new one, and
nothing is thrown over an exception that is pending already.
-/

namespace NativeProxy

/-- Whether an event is an attempt to throw. -/
def Event.isThrow : Event → Bool
  | .throwObject _ => true
  | .throwNew .. => true
  | _ => false

theorem Event.Releases.isThrow {ref : GlobalRef} {event : Event} (releases : event.Releases ref) :
    event.isThrow = false := by
  cases releases <;> rfl

/-- What is asked of a machine so that a new exception of a class can be thrown. -/
structure Host.MakesExceptions (host : Host) (className : String) : Prop where
  check : host.provides .exceptionCheck = true
  findClass : host.provides .findClass = true
  found : ∀ history, host.findClass history className = .given
  throwNew : host.provides .throwNew = true
  newThrown : ∀ history, (host.status history .throwNew).code = 0

/-- What is asked of a machine so that a fault can be thrown: a new exception of its class can be,
the function that throws a throwable again exists and succeeds, and dropping the throwable of the
fault throws nothing. -/
structure Host.Throws (host : Host) (fault : Fault) : Prop
    extends host.MakesExceptions fault.exceptionClass where
  throwObject : host.provides .throwObject = true
  objectThrown : ∀ history, (host.status history .throwObject).code = 0
  silent : fault.isThrown = true → host.AttachesSilently

/-- The exception that a fault is told by: the throwable it stems from, or one that was made for it
after the first `earlier` requests. The message of the latter begins with that of the fault, and
goes on only if there is a call stack to tell. -/
def Fault.IsToldBy (fault : Fault) (stack : Option String) (earlier : Nat)
    (pending : Option Throwable) : Prop :=
  match fault with
  | .thrown _ _ ref => ∀ exception, ref.object = .throwable exception → pending = some exception
  | fault => ∃ position trace, earlier ≤ position ∧ (stack = none → trace = "") ∧
      pending = some {
        identity := .raised position
        className := some (Units.ofText (Jni.dottedName fault.exceptionClass))
        message := some (Units.ofText (fault.message ++ trace)) }

/-- The call stack that is kept for a fault. -/
def Session.stackOf (session : Session) : Fault → Option String
  | .panicked _ => session.shared.panicStack
  | _ => none

def Session.withStack (session : Session) (stack : String) : Session :=
  { session with shared := { session.shared with panicStack := some stack } }

theorem Session.stackOf_withStack (session : Session) (stack : String) (payload : Fault.Payload) :
    (session.withStack stack).stackOf (.ofPanic payload) = some stack := by
  cases payload <;> rfl

/-- The fault was told between two sessions: an exception that was pending is left alone, otherwise
one is thrown. -/
inductive Session.Tells (fault : Fault) (stack : Option String) (before after : Session) :
    Prop where
  | kept {exception : Throwable} {events : List Event}
      (pending : before.pending = some exception) (still : after.pending = some exception)
      (longer : after.history = before.history ++ events)
      (unthrown : events.countP Event.isThrow = 0) : Tells fault stack before after
  | thrown {events : List Event} (quiet : before.pending = none)
      (told : fault.IsToldBy stack before.history.length after.pending)
      (longer : after.history = before.history ++ events)
      (once : events.countP Event.isThrow = 1) : Tells fault stack before after

/-! ## Messages -/

theorem Native.exceptionMessage_eq_append (fault : Fault) (stack : Option String) :
    ∃ trace, exceptionMessage fault stack = fault.message ++ trace ∧
      (stack = none → trace = "") := by
  cases stack with
  | none => exact ⟨"", by simp [exceptionMessage], fun _ => rfl⟩
  | some stack => exact ⟨_, Backtrace.extendMessage_eq fault.message stack, by simp⟩

/-! ## Throwing -/

namespace Jni

variable {host : Host} {session : Session}

theorem exec_throwObject (provided : host.provides .throwObject = true)
    (thrown : ∀ history, (host.status history .throwObject).code = 0) (object : Object)
    (session : Session) :
    ∃ after, (throwObject object).exec host session = (.ok (), after) ∧
      after.history = session.history ++ [.throwObject object] ∧
      ∀ exception, object = .throwable exception → after.pending = some exception := by
  rw [throwObject, exec_bind, exec_requestStatus, if_pos provided]
  dsimp only
  rw [thrown]
  cases object with
  | throwable exception =>
      refine ⟨_, rfl, rfl, ?_⟩
      rintro _ ⟨⟩
      rfl
  | _ => exact ⟨_, rfl, rfl, by simp⟩

theorem exec_throwNew {className : String} (makes : host.MakesExceptions className)
    (quiet : session.IsQuiet) (message : String) :
    ∃ after, (throwNew className message).exec host session = (.ok (), after) ∧
      after.history = session.history ++ [.findClass className, .exceptionCheck,
        .throwNew className message] ∧
      after.pending = some {
        identity := .raised (session.history.length + 2)
        className := some (Units.ofText (dottedName className))
        message := some (Units.ofText message) } := by
  have found : (findClass className).exec host session =
      (.ok (), (session.record (.findClass className)).record .exceptionCheck) :=
    exec_acquire_of_given makes.findClass makes.check (makes.found _) quiet
  rw [throwNew, exec_bind_of_ok found, exec_bind_of_ok (exec_get host _), exec_bind,
    exec_requestStatus, if_pos makes.throwNew]
  dsimp only
  rw [makes.newThrown]
  refine ⟨_, rfl, ?_, ?_⟩
  · simp [Session.record]
  · change some _ = some _
    simp [Session.record]

end Jni

/-! ## Reporting -/

namespace Native

variable {host : Host} {fault : Fault} {session : Session}

theorem exec_takeStack (fault : Fault) (host : Host) (session : Session) :
    ∃ after, (takeStack fault).exec host session = (session.stackOf fault, after) ∧
      after.history = session.history ∧ after.pending = session.pending := by
  cases fault <;> exact ⟨_, rfl, rfl, rfl⟩

/-- Throwing the fault is one attempt to throw, and it makes pending what tells the fault. -/
def CanThrow (host : Host) (fault : Fault) (stack : Option String) : Prop :=
  ∀ {session : Session}, session.IsQuiet → ∀ earlier ≤ session.history.length,
    ∃ after events, (throwFault fault stack).exec host session = (.ok (), after) ∧
      after.history = session.history ++ events ∧ events.countP Event.isThrow = 1 ∧
      fault.IsToldBy stack earlier after.pending

/-- A fault that stems from no exception is told by a new one. -/
theorem canThrow_of_makes (makes : host.MakesExceptions fault.exceptionClass)
    (unthrown : fault.isThrown = false) (stack : Option String) : CanThrow host fault stack := by
  intro session quiet earlier since
  rcases exceptionMessage_eq_append fault stack with ⟨trace, begins, traceless⟩
  rcases Jni.exec_throwNew makes quiet (exceptionMessage fault stack) with
    ⟨after, ran, longer, pending⟩
  have told : ∃ position trace, earlier ≤ position ∧ (stack = none → trace = "") ∧
      after.pending = some {
        identity := .raised position
        className := some (Units.ofText (Jni.dottedName fault.exceptionClass))
        message := some (Units.ofText (fault.message ++ trace)) } :=
    ⟨_, trace, Nat.le_trans since (Nat.le_add_right _ 2), traceless, begins ▸ pending⟩
  cases fault with
  | thrown className message ref => cases unthrown
  | _ => exact ⟨after, _, ran, longer, rfl, told⟩

theorem canThrow_of_throws (throws : host.Throws fault) (stack : Option String) :
    CanThrow host fault stack := by
  cases fault with
  | thrown className message ref =>
      intro session quiet earlier since
      rcases Jni.exec_throwObject throws.throwObject throws.objectThrown ref.object session with
        ⟨after, ran, longer, pending⟩
      exact ⟨after, _, ran, longer, rfl, pending⟩
  | _ => exact canThrow_of_makes throws.toMakesExceptions rfl stack

/-- A fault that can be thrown is told unless an exception is pending. -/
theorem report_tells_of_canThrow (check : host.provides .exceptionCheck = true) (session : Session)
    (throws : CanThrow host fault (session.stackOf fault)) :
    session.Tells fault (session.stackOf fault) ((report fault).exec host session).2 := by
  rcases exec_takeStack fault host session with ⟨taken, took, sameHistory, samePending⟩
  have checked : Jni.exceptionCheck.run.exec host taken =
      (.ok taken.pending.isSome, taken.record .exceptionCheck) :=
    Jni.exec_exceptionCheck check taken
  have asked : (taken.record .exceptionCheck).history = session.history ++ [.exceptionCheck] := by
    rw [Session.record, sameHistory]
  rw [report, exec_bind, took]
  dsimp only
  rw [exec_bind, checked, samePending]
  cases pending : session.pending with
  | some exception => exact .kept pending (samePending.trans pending) asked rfl
  | none =>
      have quiet : (taken.record .exceptionCheck).IsQuiet := samePending.trans pending
      have since : session.history.length ≤ (taken.record .exceptionCheck).history.length := by
        simp [asked]
      rcases throws quiet _ since with ⟨after, events, ran, further, once, told⟩
      have threw : (throwFault fault (session.stackOf fault)).run.exec host
          (taken.record .exceptionCheck) = (.ok (), after) := ran
      dsimp only [Option.isSome_none]
      rw [exec_bind, threw]
      rw [asked, List.append_assoc] at further
      exact .thrown pending told further once

theorem report_tells (throws : host.Throws fault) (session : Session) :
    session.Tells fault (session.stackOf fault) ((report fault).exec host session).2 :=
  report_tells_of_canThrow throws.check session (canThrow_of_throws throws _)

end Native

/-! ## What throwing and reporting keep -/

section Steady

open Jni (Keeps)

variable {host : Host} {property : Session → Prop}

theorem Session.Steady.throwObject (steady : Session.Steady property) (object : Object) :
    Keeps host property (Jni.throwObject object) := by
  rw [Jni.throwObject]
  apply Keeps.bind (steady.requestStatus _ _ fun _ => steady.recorded rfl)
  intro code
  cases object.throwable? with
  | none =>
      dsimp only
      split
      · exact Keeps.pure _
      · exact (Keeps.throw _).bind fun _ => Keeps.pure _
  | some exception =>
      have raised : Keeps host property (liftM (Native.raise exception) : Jni PUnit) :=
        Keeps.lift (steady.raise exception)
      dsimp only
      split
      · exact raised
      · exact (Keeps.throw _).bind fun _ => raised

theorem Session.Steady.throwNew (steady : Session.Steady property) (className message : String) :
    Keeps host property (Jni.throwNew className message) := by
  rw [Jni.throwNew]
  apply Keeps.bind (steady.findClass className)
  intro _
  apply Keeps.getThen
  intro session holds
  refine Keeps.bind (steady.requestStatus _ _ fun _ => steady.recorded rfl) ?_ session holds
  intro code
  dsimp only
  split
  · exact Keeps.lift (steady.raise _)
  · exact (Keeps.throw _).bind fun _ => Keeps.lift (steady.raise _)

/-- Reporting a fault is an errand, but for the call stack that is taken. -/
theorem Session.Steady.report (steady : Session.Steady property)
    (taken : ∀ session, property session →
      property { session with shared := { session.shared with panicStack := none } })
    (fault : Fault) : Native.Keeps host property (Native.report fault) := by
  have stackTaken : Native.Keeps host property (Native.takeStack fault) := by
    cases fault with
    | panicked text => exact taken
    | _ => exact Native.Keeps.pure none
  have thrown (stack : Option String) :
      Keeps host property (Native.throwFault fault stack) := by
    cases fault with
    | thrown className message ref => exact steady.throwObject ref.object
    | _ => exact steady.throwNew _ _
  rw [Native.report]
  apply stackTaken.bind
  intro stack
  apply Native.Keeps.bind (show Native.Keeps host property Jni.exceptionCheck.run from
    steady.exceptionCheck)
  intro pending
  split
  · apply Native.Keeps.bind (show Native.Keeps host property
      (Native.throwFault fault stack).run from thrown stack)
    intro outcome
    split
    · exact Native.Keeps.pure ()
    · exact steady.log _ _
  · exact Native.Keeps.pure ()

end Steady

/-- Dropping the throwable of a fault that was told changes nothing. -/
theorem Session.Tells.release {host : Host} {fault : Fault} {stack : Option String}
    {before after : Session} (tells : before.Tells fault stack after)
    (silent : fault.isThrown = true → host.AttachesSilently) :
    before.Tells fault stack ((Native.releaseAll fault.refs).exec host after).2 := by
  cases fault with
  | thrown className message ref =>
      have same : ((Native.releaseAll [ref]).exec host after).2.pending = after.pending :=
        Native.releaseAll_keeps (Native.release_pending (silent rfl)) [ref] after rfl
      rcases Native.releaseAll_onlyReleased (fun _ listed => listed) after (.refl [ref] after) with
        ⟨released, further, ofRef⟩
      have unthrown : released.countP Event.isThrow = 0 := by
        apply List.countP_eq_zero.mpr
        intro event happened
        rcases ofRef event happened with ⟨_, _, releases⟩
        simp [releases.isThrow]
      cases tells with
      | @kept exception events pending still longer none =>
          rw [longer, List.append_assoc] at further
          exact .kept pending (same.trans still) further (by simp [none, unthrown])
      | @thrown events quiet told longer once =>
          rw [longer, List.append_assoc] at further
          exact .thrown quiet (same ▸ told) further (by simp [once, unthrown])
  | _ => exact tells

/-- An entry point returns the result of its body, or the fallback once the failure was told. -/
theorem Native.guarded_tells {α : Type} {host : Host} {body : Jni (Completion α)}
    {session left : Session} {outcome : Except Fault (Completion α)} (fallback : α)
    (ran : body.exec host session = (outcome, left)) :
    match outcome with
    | .ok (.value result) => (guarded fallback body).exec host session = (result, left)
    | .ok (.panic payload) => host.Throws (.ofPanic payload) →
        ∃ after, (guarded fallback body).exec host session = (fallback, after) ∧
          left.Tells (.ofPanic payload) (some (host.captureStack left.history)) after
    | .error fault => host.Throws fault →
        ∃ after, (guarded fallback body).exec host session = (fallback, after) ∧
          left.Tells fault (left.stackOf fault) after := by
  have began : body.run.exec host session = (outcome, left) := ran
  rw [guarded, exec_bind, began]
  match outcome with
  | .ok (.value result) => rfl
  | .ok (.panic payload) =>
      intro throws
      have tells := report_tells throws (left.withStack (host.captureStack left.history))
      rw [Session.stackOf_withStack] at tells
      -- Only the stack was kept before the report.
      cases tells with
      | kept pending still longer unthrown =>
          exact ⟨_, rfl, .kept pending still longer unthrown⟩
      | thrown quiet told longer once => exact ⟨_, rfl, .thrown quiet told longer once⟩
  | .error fault =>
      intro throws
      exact ⟨_, rfl, (report_tells throws left).release throws.silent⟩

theorem Script.host_throws {script : Script} (complete : script.absent = [])
    (found : script.missingClasses = []) (silent : script.statuses = fun _ => [])
    (fault : Fault) : script.host.Throws fault where
  check := by simp [host, complete]
  findClass := by simp [host, complete]
  found history := by simp [host, found]
  throwNew := by simp [host, complete]
  throwObject := by simp [host, complete]
  newThrown history := by simp [host, silent, answer]
  objectThrown history := by simp [host, silent, answer]
  silent _ := ⟨fun history => by simp [host, silent, answer],
    fun history => by simp [host, silent, answer]⟩

/-- A body panics with something that is no text, and another one fails with a thrown exception. -/
theorem Native.guarded_tells_panic_and_thrown :
    ({} : Script).host.Throws (.ofPanic .other) ∧
      (∃ after, (guarded () (pure (.panic .other))).exec ({} : Script).host {} = ((), after) ∧
        ({} : Session).Tells (.panicked "unknown panic") (some "") after) ∧
      ∃ after, (guarded () (throw (.thrown "java.io.IOException" "closed"
          ⟨0, .throwable .elusive⟩))).exec ({} : Script).host {} = ((), after) ∧
        ({} : Session).Tells (.thrown "java.io.IOException" "closed" ⟨0, .throwable .elusive⟩)
          none after := by
  have throws (fault : Fault) : ({} : Script).host.Throws fault :=
    Script.host_throws rfl rfl rfl fault
  refine ⟨throws _, ?panic, ?thrown⟩
  case panic =>
    exact guarded_tells () (Jni.exec_pure (.panic .other) _ {}) (throws _)
  case thrown =>
    exact guarded_tells () (Jni.exec_throw _ _ {}) (throws _)

end NativeProxy
