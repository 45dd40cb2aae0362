import NativeProxy.Proofs.Pending
import NativeProxy.Proofs.Routine
import NativeProxy.Proofs.Slots

/-!
# Agreement of the operations

The four operations check, call and store in different orders, but what they do is one call of
`Proxy.callMethod` and some tidying up. The runs of `Proxy.invoke`, `Proxy.invokeStored` and
`Proxy.invokeFlag` are written here in terms of that call. Tidying up releases references and
writes log records, so that it runs no method and, where releasing raises nothing, it does not touch
the pending exception: operations that make the same call differ in their answers at most.
-/

namespace NativeProxy

/-- Whether an event runs a method or a constructor of a class. -/
def Event.isMethodCall : Event → Bool
  | .call .. => true
  | .access .. => true
  | .newColor _ => true
  | _ => false

/-- The methods that were run, in order. -/
def History.methodCalls (history : History) : List Event :=
  history.filter Event.isMethodCall

theorem Event.Releases.isMethodCall {ref : GlobalRef} {event : Event}
    (releases : event.Releases ref) : event.isMethodCall = false := by
  cases releases <;> rfl

namespace Operation

variable {host : Host} {proxy : Proxy} {session between : Session} {operation : Operation}
  {index : Nat} {outcome : Except Fault Value}

/-! ## Operations as one call -/

/-- The function behind an operation tells what the operation reports, and leaves what it leaves. -/
theorem exec_of_perform {α : Type} (requested : operation.request proxy = .ok index)
    (called : (proxy.callMethod index operation.args).exec host session = (outcome, between))
    {wrap : α → Answer} (injective : Function.Injective wrap) {function : Native (α × Proxy)}
    {result : α}
    (performs : operation.perform proxy = do
      let (result, next) ← function
      return (wrap result, next))
    (told : operation.report outcome = wrap result) :
    function.exec host session = ((result, operation.settled proxy index outcome),
      ((operation.tidy proxy index outcome).exec host between).2) := by
  have performed := exec_perform_of_ok requested called
  rw [performs, told, Native.exec_bind, Prod.ext_iff, Prod.ext_iff] at performed
  rcases performed with ⟨⟨same, left⟩, after⟩
  exact Prod.ext (Prod.ext (injective same) left) after

theorem exec_invoke {args : List Value}
    (called : (proxy.callMethod index args).exec host session = (outcome, between)) :
    (proxy.invoke index args).exec host session =
      ((outcome, (invoke index args).settled proxy index outcome),
        (((invoke index args).tidy proxy index outcome).exec host between).2) := by
  have requested : (invoke index args).request proxy = .ok index := rfl
  exact exec_of_perform requested called (fun _ _ => Answer.outcome.inj) rfl rfl

theorem exec_invokeStored {args : List Value}
    (allowed : proxy.expect index Proxy.expectStored = .ok ())
    (called : (proxy.callMethod index args).exec host session = (outcome, between)) :
    (proxy.invokeStored index args).exec host session =
      ((outcome, (invokeStored index args).settled proxy index outcome),
        (((invokeStored index args).tidy proxy index outcome).exec host between).2) := by
  have requested : (invokeStored index args).request proxy = .ok index :=
    request_of_allowed allowed
  exact exec_of_perform requested called (fun _ _ => Answer.outcome.inj) rfl rfl

theorem exec_invokeFlag {args : List Value}
    (allowed : proxy.expect index Proxy.expectFlag = .ok ())
    (called : (proxy.callMethod index args).exec host session = (outcome, between)) :
    (proxy.invokeFlag index args).exec host session =
      ((outcome.isOk, (invokeFlag index args).settled proxy index outcome),
        (((invokeFlag index args).tidy proxy index outcome).exec host between).2) := by
  have requested : (invokeFlag index args).request proxy = .ok index :=
    request_of_allowed allowed
  exact exec_of_perform requested called (fun _ _ => Answer.flag.inj) rfl rfl

/-! ## Tidying up -/

open Native (Keeps)

/-- Tidying up runs no method. -/
theorem tidy_methodCalls (calls : List Event) (index : Nat) (outcome : Except Fault Value) :
    Keeps host (fun session => session.history.methodCalls = calls)
      (operation.tidy proxy index outcome) := by
  apply tidy_keeps
  case released =>
    intro ref
    apply Native.release_keeps
    case pended => exact fun _ same => same
    case recorded =>
      intro session event releases same
      rw [Session.record, History.methodCalls, List.filter_append, List.filter_cons_of_neg
        (by simp [releases.isMethodCall]), List.filter_nil, List.append_nil]
      exact same
  case logged => exact fun _ _ _ same => same

theorem tidy_pending (silent : host.AttachesSilently) (pending : Option Throwable) (index : Nat)
    (outcome : Except Fault Value) :
    Keeps host (fun session => session.pending = pending)
      (operation.tidy proxy index outcome) :=
  tidy_keeps (Native.release_pending silent) Native.log_pending index outcome

/-- What becomes of the result of a method that stores it does not depend on the operation. -/
theorem written_invoke_of_stores {args : List Value} (stores : proxy.stores index = true) :
    (invoke index args).written proxy index outcome =
      (invokeStored index args).written proxy index outcome := by
  simp [written, stores]

/-- A flag leaves of a method that returns by value what its outcome would. -/
theorem written_invoke_of_byValue {args : List Value} (byValue : proxy.stores index = false) :
    (invoke index args).written proxy index outcome =
      (invokeFlag index args).written proxy index outcome := by
  cases outcome with
  | error fault => rfl
  | ok value => simp [written, byValue, Except.isOk, Except.toBool]

end Operation

namespace Proxy

variable {proxy : Proxy} {index : Nat} {method : Method}

theorem expect_eq {demand : Method → Except Fault Unit}
    (known : proxy.method? index = some method) : proxy.expect index demand = demand method := by
  rw [expect, known]

theorem stores_eq (known : proxy.method? index = some method) :
    proxy.stores index = method.isStored := by
  rw [stores, known, Option.any_some]

theorem indexOf_eq_error {name signature : String} {fault : Fault}
    (unknown : proxy.indexOf name signature = .error fault) :
    fault = .unknownMethod proxy.interface.name (name ++ signature) := by
  have located : (Operation.call name signature []).locate proxy = .error fault := unknown
  rcases Operation.locate_fault located with ⟨_, _, _, same, isUnknown⟩
  cases same
  exact isUnknown

/-- However the machine behaves, the operations agree: calling a method by its texts is calling it
by its index, or refused without any effect; asking for the stored result changes nothing for a
method that stores it; and asking for a flag only replaces the outcome by whether it is a success.
-/
theorem operations_agree {host : Host} (silent : host.AttachesSilently) (proxy : Proxy)
    (session : Session) (index : Nat) (args : List Value) :
    (∀ name signature, proxy.indexOf name signature = .ok index →
      (proxy.call name signature args).exec host session =
        (proxy.invoke index args).exec host session) ∧
    (∀ name signature, (∀ other, proxy.indexOf name signature ≠ .ok other) →
      (proxy.call name signature args).exec host session =
        ((.error (.unknownMethod proxy.interface.name (name ++ signature)), proxy), session)) ∧
    ∀ method, proxy.method? index = some method →
      (method.isStored = true →
        (proxy.invokeStored index args).exec host session =
          (proxy.invoke index args).exec host session) ∧
      (method.flagsFailure = true →
        ∃ outcome invoked afterInvoke flagged afterFlag,
          (proxy.invoke index args).exec host session = ((outcome, invoked), afterInvoke) ∧
          (proxy.invokeFlag index args).exec host session =
            ((outcome.isOk, flagged), afterFlag) ∧
          afterFlag.history.methodCalls = afterInvoke.history.methodCalls ∧
          afterFlag.pending = afterInvoke.pending) := by
  rcases called : (proxy.callMethod index args).exec host session with ⟨outcome, between⟩
  refine ⟨?known, ?unknown, fun method isMethod => ⟨?stored, ?flagged⟩⟩
  case known =>
    intro name signature found
    rw [call, found]
  case unknown =>
    intro name signature unfound
    cases located : proxy.indexOf name signature with
    | ok other => exact absurd located (unfound other)
    | error fault =>
        rw [call, located, indexOf_eq_error located]
        rfl
  case stored =>
    intro isStored
    have stores : proxy.stores index = true := (stores_eq isMethod).trans isStored
    have allowed : proxy.expect index expectStored = .ok () := by
      rw [expect_eq isMethod, expectStored, if_pos isStored]
    rw [Operation.exec_invokeStored allowed called, Operation.exec_invoke called,
      Operation.settled, Operation.settled, Operation.tidy, Operation.tidy,
      Operation.written_invoke_of_stores stores]
    rfl
  case flagged =>
    intro flags
    have allowed : proxy.expect index expectFlag = .ok () := by
      rw [expect_eq isMethod, expectFlag, if_pos flags]
    refine ⟨_, _, _, _, _, Operation.exec_invoke called, Operation.exec_invokeFlag allowed called,
      ?calls, ?pending⟩
    case calls =>
      exact (Operation.tidy_methodCalls _ index outcome between rfl).trans
        (Operation.tidy_methodCalls _ index outcome between rfl).symm
    case pending =>
      exact (Operation.tidy_pending silent _ index outcome between rfl).trans
        (Operation.tidy_pending silent _ index outcome between rfl).symm

theorem counting_attachesSilently : Script.counting.host.AttachesSilently where
  thread history := by simp [Script.host, Script.counting, Script.answer]
  attach history := by simp [Script.host, Script.counting, Script.answer]

/-- The method of the counter stores its results and flags its failures. -/
theorem counting_operations_agree :
    (counting.call "next" "()I" []).exec Script.counting.host .counting =
        (counting.invoke 0 []).exec Script.counting.host .counting ∧
      (counting.invokeStored 0 []).exec Script.counting.host .counting =
        (counting.invoke 0 []).exec Script.counting.host .counting ∧
      ∃ afterInvoke afterFlag,
        (counting.invoke 0 []).exec Script.counting.host .counting =
          ((.ok (.int 1), counting.withSlot 0 (some (.int 1))), afterInvoke) ∧
        (counting.invokeFlag 0 []).exec Script.counting.host .counting =
          ((true, counting), afterFlag) ∧
        afterFlag.history.methodCalls = afterInvoke.history.methodCalls ∧
        afterFlag.pending = afterInvoke.pending := by
  rcases operations_agree counting_attachesSilently counting .counting 0 [] with
    ⟨known, _, declared⟩
  rcases declared _ rfl with ⟨stored, flagged⟩
  rcases flagged rfl with ⟨_, _, _, _, _, invoked, flag, calls, pending⟩
  refine ⟨known "next" "()I" rfl, stored rfl, _, _, rfl, rfl, ?_⟩
  cases invoked
  cases flag
  exact ⟨calls, pending⟩

end Proxy

end NativeProxy
