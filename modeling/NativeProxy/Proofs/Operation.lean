import NativeProxy.Proofs.Execution
import NativeProxy.Proxy.Invoke

/-!
# Operations on a proxy

The operations differ in how they name a method, in what they demand of it, and in what becomes of
the result; in between each of them makes the same call. `Operation.perform_eq` writes all four in
this one form, so that a law about operations follows from one about the call.
-/

namespace NativeProxy

/-- An operation on a proxy. -/
inductive Operation where
  | invoke (index : Nat) (args : List Value)
  | call (name signature : String) (args : List Value)
  | invokeStored (index : Nat) (args : List Value)
  | invokeFlag (index : Nat) (args : List Value)
deriving Repr

/-- What an operation tells its caller. -/
inductive Answer where
  | outcome (result : Except Fault Value)
  | flag (success : Bool)

namespace Operation

/-- Runs an operation; the proxy it leaves has the stored results of the call. -/
def perform (proxy : Proxy) : Operation → Native (Answer × Proxy)
  | .invoke index args => do
    let (result, next) ← proxy.invoke index args
    return (.outcome result, next)
  | .call name signature args => do
    let (result, next) ← proxy.call name signature args
    return (.outcome result, next)
  | .invokeStored index args => do
    let (result, next) ← proxy.invokeStored index args
    return (.outcome result, next)
  | .invokeFlag index args => do
    let (success, next) ← proxy.invokeFlag index args
    return (.flag success, next)

/-! ## The parts of an operation -/

/-- The refusal of an operation that the mode of its method does not allow. -/
def allow (proxy : Proxy) : Operation → Except Fault Unit
  | .invokeStored index _ => proxy.expect index Proxy.expectStored
  | .invokeFlag index _ => proxy.expect index Proxy.expectFlag
  | _ => .ok ()

/-- The index of the method that an operation names. -/
def locate (proxy : Proxy) : Operation → Except Fault Nat
  | .invoke index _ => .ok index
  | .call name signature _ => proxy.indexOf name signature
  | .invokeStored index _ => .ok index
  | .invokeFlag index _ => .ok index

def args : Operation → List Value
  | .invoke _ args => args
  | .call _ _ args => args
  | .invokeStored _ args => args
  | .invokeFlag _ args => args

/-- The index of the method that an operation calls, or the fault of an operation that does not get
as far as a call. -/
def request (proxy : Proxy) (operation : Operation) : Except Fault Nat := do
  operation.allow proxy
  operation.locate proxy

/-- What an operation tells of the outcome of its call. -/
def report (outcome : Except Fault Value) : Operation → Answer
  | .invokeFlag _ _ => .flag outcome.isOk
  | _ => .outcome outcome

/-- What an operation writes into the slot of the method it called, if it writes at all. -/
def written (proxy : Proxy) (index : Nat) (outcome : Except Fault Value) :
    Operation → Option (Option Value)
  | .invokeStored _ _ => some outcome.toOption
  | .invokeFlag _ _ => if outcome.isOk then none else some none
  | _ => if outcome.isOk && !proxy.stores index then none else some outcome.toOption

/-- The proxy an operation leaves. -/
def settled (proxy : Proxy) (index : Nat) (outcome : Except Fault Value)
    (operation : Operation) : Proxy :=
  match operation.written proxy index outcome with
  | none => proxy
  | some slot => proxy.withSlot index slot

/-- How an operation ends: one that flags failures drops the outcome. -/
def wrapUp (proxy : Proxy) (outcome : Except Fault Value) : Operation → Native Unit
  | .invokeFlag index _ =>
    match outcome with
    | .ok value => Native.releaseAll value.refs
    | .error fault => do
      if fault.isCallMode then
        Native.log .error (proxy.interface.name ++ ": " ++ fault.message)
      else
        Native.log .debug (proxy.interface.name ++ ": call #" ++ toString index ++
          " failed: " ++ fault.message)
      Native.releaseAll fault.refs
  | _ => return ()

/-- What an operation does after its call. -/
def tidy (proxy : Proxy) (index : Nat) (outcome : Except Fault Value) (operation : Operation) :
    Native Unit := do
  if (operation.written proxy index outcome).isSome then
    Native.releaseAll (proxy.slotRefs index)
  operation.wrapUp proxy outcome

section Request

variable {proxy : Proxy} {operation : Operation} {fault : Fault}

theorem request_of_refused (refused : operation.allow proxy = .error fault) :
    operation.request proxy = .error fault := by
  rw [request, refused]
  rfl

theorem request_of_allowed (allowed : operation.allow proxy = .ok ()) :
    operation.request proxy = operation.locate proxy := by
  rw [request, allowed]
  rfl

theorem request_eq_ok {index : Nat} (requested : operation.request proxy = .ok index) :
    operation.allow proxy = .ok () ∧ operation.locate proxy = .ok index := by
  cases allowed : operation.allow proxy with
  | error fault => exact absurd (request_of_refused allowed ▸ requested) (by simp)
  | ok _ => exact ⟨rfl, request_of_allowed allowed ▸ requested⟩

theorem request_eq_error (refused : operation.request proxy = .error fault) :
    operation.allow proxy = .error fault ∨
      operation.allow proxy = .ok () ∧ operation.locate proxy = .error fault := by
  cases allowed : operation.allow proxy with
  | error objection =>
      rw [request_of_refused allowed, Except.error.injEq] at refused
      exact .inl (congrArg _ refused)
  | ok _ => exact .inr ⟨rfl, request_of_allowed allowed ▸ refused⟩

theorem expect_fault {index : Nat} {demand : Method → Except Fault Unit}
    (refuses : ∀ method, demand method = .error fault → fault.isCallMode = true)
    (refused : proxy.expect index demand = .error fault) : fault.isCallMode = true := by
  rw [Proxy.expect] at refused
  split at refused
  · exact refuses _ refused
  · exact absurd refused (by simp)

theorem allow_fault (refused : operation.allow proxy = .error fault) :
    fault.isCallMode = true := by
  rw [allow.eq_def] at refused
  split at refused
  · refine expect_fault ?_ refused
    intro method refusal
    rw [Proxy.expectStored] at refusal
    split at refusal
    · exact absurd refusal (by simp)
    · exact Except.error.inj refusal ▸ rfl
  · refine expect_fault ?_ refused
    intro method refusal
    rw [Proxy.expectFlag] at refusal
    split at refusal
    · exact absurd refusal (by simp)
    · exact Except.error.inj refusal ▸ rfl
  · exact absurd refused (by simp)

theorem locate_fault (refused : operation.locate proxy = .error fault) :
    ∃ name signature args, operation = .call name signature args ∧
      fault = .unknownMethod proxy.interface.name (name ++ signature) := by
  cases operation with
  | call name signature args =>
      refine ⟨name, signature, args, rfl, ?_⟩
      rw [locate, Proxy.indexOf, Interface.indexOf] at refused
      split at refused
      · exact absurd refused (by simp)
      · exact (Except.error.inj refused).symm
  | _ => exact absurd refused (by simp [locate])

end Request

theorem perform_invoke_eq (proxy : Proxy) (index : Nat) (args : List Value) :
    (invoke index args).perform proxy = (do
      let outcome ← (proxy.callMethod index args).run
      (invoke index args).tidy proxy index outcome
      return (.outcome outcome, (invoke index args).settled proxy index outcome)) := by
  simp only [perform, Proxy.invoke, Proxy.dispatch, bind_assoc]
  congr 1
  funext outcome
  rcases outcome with fault | value
  · rfl
  · by_cases stores : proxy.stores index = true
    · simp only [pure_bind, tidy, written, settled, stores, if_true]
      rfl
    · simp only [pure_bind, tidy, written, settled, stores]
      rfl

/-- Every operation makes at most one call and then tidies up. -/
theorem perform_eq (proxy : Proxy) (operation : Operation) :
    operation.perform proxy =
      match operation.request proxy with
      | .error fault => do
        operation.wrapUp proxy (.error fault)
        return (operation.report (.error fault), proxy)
      | .ok index => do
        let outcome ← (proxy.callMethod index operation.args).run
        operation.tidy proxy index outcome
        return (operation.report outcome, operation.settled proxy index outcome) := by
  cases operation with
  | invoke index args => exact perform_invoke_eq proxy index args
  | call name signature args =>
      rw [request_of_allowed rfl]
      simp only [perform, Proxy.call, locate]
      cases proxy.indexOf name signature with
      | error fault => rfl
      | ok index => exact perform_invoke_eq proxy index args
  | invokeStored index args =>
      simp only [perform, Proxy.invokeStored]
      cases mode : proxy.expect index Proxy.expectStored with
      | error fault =>
          have refused : (invokeStored index args).allow proxy = .error fault := mode
          rw [request_of_refused refused]
          rfl
      | ok _ =>
          have allowed : (invokeStored index args).allow proxy = .ok () := mode
          rw [request_of_allowed allowed]
          simp only [Proxy.dispatch, bind_assoc, locate]
          congr 1
          funext outcome
          rcases outcome with fault | value
          · rfl
          · rfl
  | invokeFlag index args =>
      simp only [perform, Proxy.invokeFlag]
      cases mode : proxy.expect index Proxy.expectFlag with
      | error fault =>
          have refused : (invokeFlag index args).allow proxy = .error fault := mode
          rw [request_of_refused refused]
          simp only [wrapUp, pure_bind, allow_fault refused, if_true]
          rfl
      | ok _ =>
          have allowed : (invokeFlag index args).allow proxy = .ok () := mode
          rw [request_of_allowed allowed]
          simp only [Proxy.dispatch, bind_assoc, locate]
          congr 1
          funext outcome
          rcases outcome with fault | value
          · by_cases refused : fault.isCallMode = true
            · simp only [bind_assoc, pure_bind, tidy, wrapUp, refused, if_true]
              rfl
            · simp only [bind_assoc, pure_bind, tidy, wrapUp, refused]
              rfl
          · rfl

/-! ## Running an operation -/

section Run

open Native (Keeps)

variable {host : Host} {proxy next : Proxy} {operation : Operation} {session after : Session}

theorem exec_perform_of_error {fault : Fault} (refused : operation.request proxy = .error fault) :
    (operation.perform proxy).exec host session =
      ((operation.report (.error fault), proxy),
        ((operation.wrapUp proxy (.error fault)).exec host session).2) := by
  rw [perform_eq, refused]
  rfl

theorem exec_perform_of_ok {index : Nat} {outcome : Except Fault Value} {between : Session}
    (requested : operation.request proxy = .ok index)
    (called : (proxy.callMethod index operation.args).exec host session = (outcome, between)) :
    (operation.perform proxy).exec host session =
      ((operation.report outcome, operation.settled proxy index outcome),
        ((operation.tidy proxy index outcome).exec host between).2) := by
  have ran : (proxy.callMethod index operation.args).run.exec host session =
    (outcome, between) := called
  rw [perform_eq, requested]
  dsimp only
  rw [Native.exec_bind, ran]
  rfl

/-- What an operation did: it was refused, or it made a call and settled it. -/
theorem perform_cases {answer : Answer}
    (ran : (operation.perform proxy).exec host session = ((answer, next), after)) :
    (∃ fault, operation.request proxy = .error fault ∧ answer = operation.report (.error fault) ∧
      next = proxy ∧ after = ((operation.wrapUp proxy (.error fault)).exec host session).2) ∨
    ∃ index outcome between, operation.request proxy = .ok index ∧
      (proxy.callMethod index operation.args).exec host session = (outcome, between) ∧
      answer = operation.report outcome ∧ next = operation.settled proxy index outcome ∧
      after = ((operation.tidy proxy index outcome).exec host between).2 := by
  cases requested : operation.request proxy with
  | error fault =>
      rw [exec_perform_of_error requested] at ran
      simp only [Prod.mk.injEq] at ran
      rcases ran with ⟨⟨rfl, rfl⟩, rfl⟩
      exact .inl ⟨fault, rfl, rfl, rfl, rfl⟩
  | ok index =>
      rcases called : (proxy.callMethod index operation.args).exec host session with
        ⟨outcome, between⟩
      rw [exec_perform_of_ok requested called] at ran
      simp only [Prod.mk.injEq] at ran
      rcases ran with ⟨⟨rfl, rfl⟩, rfl⟩
      exact .inr ⟨index, outcome, between, rfl, called, rfl, rfl, rfl⟩

variable {property : Session → Prop}

theorem wrapUp_keeps (released : ∀ ref, Keeps host property (Native.release ref))
    (logged : ∀ level text, Keeps host property (Native.log level text))
    (outcome : Except Fault Value) : Keeps host property (operation.wrapUp proxy outcome) := by
  rw [wrapUp.eq_def]
  split
  · split
    · exact Native.releaseAll_keeps released _
    · have dropped (fault : Fault) := Native.releaseAll_keeps released fault.refs
      dsimp only
      split
      · exact (logged _ _).bind fun _ => dropped _
      · exact (logged _ _).bind fun _ => dropped _
  · exact Keeps.pure _

theorem tidy_keeps (released : ∀ ref, Keeps host property (Native.release ref))
    (logged : ∀ level text, Keeps host property (Native.log level text)) (index : Nat)
    (outcome : Except Fault Value) :
    Keeps host property (operation.tidy proxy index outcome) := by
  have finished : Keeps host property (operation.wrapUp proxy outcome) :=
    wrapUp_keeps released logged outcome
  rw [tidy]
  dsimp only
  split
  · exact (Native.releaseAll_keeps released _).bind fun _ => finished
  · exact finished

/-- What a call, a release and a log record keep is kept by every operation. -/
theorem perform_keeps (released : ∀ ref, Keeps host property (Native.release ref))
    (logged : ∀ level text, Keeps host property (Native.log level text))
    (called : ∀ index args, Jni.Keeps host property (proxy.callMethod index args))
    (operation : Operation) : Keeps host property (operation.perform proxy) := by
  rw [perform_eq]
  cases operation.request proxy with
  | error fault => exact (wrapUp_keeps released logged _).bind fun _ => Keeps.pure _
  | ok index =>
      dsimp only
      apply Keeps.bind (called index operation.args)
      intro outcome
      exact (tidy_keeps released logged index outcome).bind fun _ => Keeps.pure _

end Run

end Operation

end NativeProxy
