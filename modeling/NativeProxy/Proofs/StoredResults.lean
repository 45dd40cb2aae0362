import NativeProxy.Proofs.Slots

/-!
# Stored results

What the slot of a method that stores its results holds in a run. A call that fails empties the
slot and a call that succeeds fills it, but for one that only flags its success: such a call drops
its result and leaves the slot as it was. The slot therefore tells of the last call that was not of
that kind.
-/

namespace NativeProxy

namespace Call

/-- The call succeeded, and its result was dropped. -/
def isSilent (call : Call) : Bool :=
  call.flagged && call.outcome.isOk

/-- The last of the calls of a method. -/
def last? (index : Nat) (calls : List Call) : Option Call :=
  (calls.filter fun call => call.index == index).getLast?

/-- The calls without those whose results were dropped. -/
def heard (calls : List Call) : List Call :=
  calls.filter fun call => !call.isSilent

/-- The result of a call that succeeded. -/
def value? (call : Call) : Option Value :=
  call.outcome.toOption

section Last

variable {index : Nat} {calls : List Call} {call : Call}

theorem last_append_self (calls : List Call) (call : Call) :
    last? call.index (calls ++ [call]) = some call := by
  simp [last?]

theorem last_append_of_ne (other : call.index ≠ index) :
    last? index (calls ++ [call]) = last? index calls := by
  simp [last?, other]

theorem heard_append_of_silent (silent : call.isSilent = true) :
    heard (calls ++ [call]) = heard calls := by
  simp [heard, silent]

theorem heard_append_of_heard (told : call.isSilent = false) :
    heard (calls ++ [call]) = heard calls ++ [call] := by
  simp [heard, told]

/-- A last call whose result was not dropped is also the last of those that were heard. -/
theorem last_heard (told : ∀ call, last? index calls = some call → call.isSilent = false) :
    last? index (heard calls) = last? index calls := by
  have swapped : (heard calls).filter (fun call => call.index == index) =
      (calls.filter fun call => call.index == index).filter fun call => !call.isSilent := by
    rw [heard, List.filter_comm]
  rw [last?, swapped, last?]
  rcases List.eq_nil_or_concat' (calls.filter fun call => call.index == index) with
    none | ⟨before, final, ending⟩
  · rw [none, List.filter_nil]
  · have heardFinal : final.isSilent = false := told final (by rw [last?, ending]; simp)
    rw [ending, List.filter_append]
    simp [heardFinal]

end Last

end Call

namespace Operation

variable {proxy : Proxy} {operation : Operation} {index : Nat} {method : Method}

/-- Every operation writes the result of its call, or its absence, into the slot of a method that
stores its results, unless it flags a success. -/
theorem written_of_stored (known : proxy.method? index = some method)
    (stored : method.isStored = true) (outcome : Except Fault Value) :
    operation.written proxy index outcome =
      if operation.isFlag && outcome.isOk then none else some outcome.toOption := by
  have marked : proxy.stores index = true := by
    rw [Proxy.stores, known]
    exact stored
  cases operation with
  | invoke _ _ => simp [written, isFlag, marked]
  | call _ _ _ => simp [written, isFlag, marked]
  | invokeStored _ _ => simp [written, isFlag]
  | invokeFlag _ _ =>
      cases outcome with
      | ok value => rfl
      | error fault => rfl

theorem cached_settled (operation : Operation) (sound : proxy.Sound)
    (known : proxy.method? index = some method) (stored : method.isStored = true)
    (outcome : Except Fault Value) :
    (operation.settled proxy index outcome).cached index =
      if (Call.mk index outcome operation.isFlag).isSilent then proxy.cached index
      else outcome.toOption := by
  have within : index < proxy.slots.length := by
    rw [sound.slots]
    exact (List.getElem?_eq_some_iff.mp known).1
  rw [settled, written_of_stored known stored, Call.isSilent]
  split
  · next silent =>
      split at silent
      · next flagged => rw [if_pos flagged]
      · exact absurd silent (by simp)
  · next slot told =>
      split at told
      · exact absurd told (by simp)
      · next heard =>
          rw [if_neg heard, Option.some.inj told, Proxy.cached, Proxy.withSlot,
            List.getElem?_set_self within, Option.join_some]

end Operation

namespace Run

variable {host : Host} {built proxy : Proxy} {calls : List Call} {session : Session} {index : Nat}
  {method : Method}

theorem method_known (run : Run host built calls proxy session)
    (known : built.method? index = some method) : proxy.method? index = some method := by
  rw [run.only_slots]
  exact known

/-- The slot of a method that stores its results holds the result of its last call that was
heard. -/
theorem cached_eq (run : Run host built calls proxy session)
    (known : built.method? index = some method) (stored : method.isStored = true) :
    proxy.cached index = (Call.last? index (Call.heard calls)).bind Call.value? := by
  induction run with
  | bound made => exact Proxy.cached_of_bind made index
  | @performed calls proxy next session after answer operation earlier ran ih =>
      rcases operation.perform_cases ran with
        ⟨fault, refused, _, rfl, _⟩ | ⟨called, outcome, between, requested, ended, _, rfl, _⟩
      · rw [Operation.call_of_refused refused, Option.toList_none, List.append_nil]
        exact ih
      · rw [Operation.call_of_called requested ended, Option.toList_some]
        by_cases same : called = index
        · subst same
          have left := Operation.cached_settled operation earlier.reachable.sound
            (earlier.method_known known) stored outcome
          cases silent : (Call.mk called outcome operation.isFlag).isSilent with
          | true =>
              rw [Call.heard_append_of_silent silent, left, silent, ← ih]
              rfl
          | false =>
              have last := Call.last_append_self (Call.heard calls)
                ⟨called, outcome, operation.isFlag⟩
              rw [Call.heard_append_of_heard silent, last, left, silent]
              rfl
        · have untouched : (operation.settled proxy called outcome).cached index =
              proxy.cached index := by
            rw [Proxy.cached, Operation.settled_slots_of_ne same, Proxy.cached]
          cases silent : (Call.mk called outcome operation.isFlag).isSilent with
          | true => rw [Call.heard_append_of_silent silent, untouched, ih]
          | false =>
              rw [Call.heard_append_of_heard silent, Call.last_append_of_ne same, untouched, ih]
  | elsewhere earlier passed ih => exact ih

/-- The slot of a method that stores its results holds the result of the last call that was heard.
It is therefore never older than the last call, unless that call only flagged its success. -/
theorem stored_result_of_last_call (run : Run host built calls proxy session)
    (known : built.method? index = some method) (stored : method.isStored = true) :
    proxy.cached index = (Call.last? index (Call.heard calls)).bind Call.value? ∧
      ((∀ call, Call.last? index calls = some call → call.isSilent = false) →
        proxy.cached index = (Call.last? index calls).bind Call.value?) := by
  refine ⟨run.cached_eq known stored, ?_⟩
  intro told
  rw [run.cached_eq known stored, Call.last_heard told]

/-- The counter is called twice, and both calls tell their results. -/
theorem stored_result_of_counting :
    ∃ calls proxy session, Run Script.counting.host .counting calls proxy session ∧
      calls.map Call.value? = [some (.int 1), some (.int 2)] ∧
      proxy.cached 0 = some (.int 2) := by
  have first : Run Script.counting.host .counting [⟨0, .ok (.int 1), false⟩] _ _ :=
    .performed (.invoke 0 []) (.bound Proxy.bind_counting) rfl
  have second : Run Script.counting.host .counting
      [⟨0, .ok (.int 1), false⟩, ⟨0, .ok (.int 2), false⟩] _ _ :=
    .performed (.invokeStored 0 []) first rfl
  refine ⟨_, _, _, second, rfl, ?_⟩
  have known : Proxy.counting.method? 0 = some _ := rfl
  exact (stored_result_of_last_call second known rfl).2 (by rintro _ ⟨⟩; rfl)

/-- A call that only flags its success leaves an older result in the slot. -/
theorem stored_result_stale_after_flag :
    ¬ ∀ {host : Host} {built proxy : Proxy} {calls : List Call} {session : Session} {index : Nat}
        {method : Method}, Run host built calls proxy session →
      built.method? index = some method → method.isStored = true →
      proxy.cached index = (Call.last? index calls).bind Call.value? := by
  intro fresh
  have first : Run Script.counting.host .counting [⟨0, .ok (.int 1), false⟩] _ _ :=
    .performed (.invoke 0 []) (.bound Proxy.bind_counting) rfl
  have second : Run Script.counting.host .counting
      [⟨0, .ok (.int 1), false⟩, ⟨0, .ok (.int 2), true⟩] _ _ :=
    .performed (.invokeFlag 0 []) first rfl
  have known : Proxy.counting.method? 0 = some _ := rfl
  have same : some (Value.int 1) = some (Value.int 2) := fresh second known rfl
  exact absurd (Value.int.inj (Option.some.inj same)) (by decide)

end Run

end NativeProxy
