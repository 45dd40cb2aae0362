import NativeProxy.Arguments

/-!
# Checking is exact

A value is admitted for a parameter if its plan converts it, or if there is no conversion and the
policy passes null instead. The check of a call accepts exactly the lists of the right length that
are admitted throughout, and otherwise tells of the first thing that is wrong with them: their
number, or the first argument that is not admitted.
-/

namespace NativeProxy

namespace Policy

/-- The value is taken for a parameter with the plan: the plan has no conversion and null is passed
instead, or it has one and the value fits. -/
def Admits (policy : Policy) (plan : Plan) (value : Value) : Prop :=
  plan.isUnsupported = true ∧ policy = .passNull ∨
    plan.isUnsupported = false ∧ value.fits plan = true

instance (policy : Policy) (plan : Plan) (value : Value) : Decidable (policy.Admits plan value) :=
  inferInstanceAs (Decidable (_ ∨ _))

def AdmitsAll (policy : Policy) (plans : List Plan) (args : List Value) : Prop :=
  ∀ (index : Nat) (plan : Plan) (value : Value), plans[index]? = some plan →
    args[index]? = some value → policy.Admits plan value

/-- The argument at the index is not admitted, and all before it are. -/
structure FirstRefusal (policy : Policy) (plans : List Plan) (args : List Value) (index : Nat)
    (plan : Plan) (value : Value) : Prop where
  planned : plans[index]? = some plan
  given : args[index]? = some value
  refused : ¬ policy.Admits plan value
  earlier : ∀ before < index, ∀ plan value, plans[before]? = some plan →
    args[before]? = some value → policy.Admits plan value

section Lists

variable {policy : Policy} {plan : Plan} {plans : List Plan} {value : Value} {args : List Value}
  {index : Nat}

theorem AdmitsAll.cons (first : policy.Admits plan value) (rest : policy.AdmitsAll plans args) :
    policy.AdmitsAll (plan :: plans) (value :: args) := by
  intro index other given planned present
  cases index with
  | zero =>
      simp only [List.getElem?_cons_zero, Option.some.injEq] at planned present
      subst planned present
      exact first
  | succ index => exact rest index other given planned present

/-- What is admitted under `reject` has a conversion, so the policy does not matter for it. -/
theorem AdmitsAll.of_reject (admitted : reject.AdmitsAll plans args) :
    policy.AdmitsAll plans args := by
  intro index plan value planned given
  rcases admitted index plan value planned given with ⟨_, ⟨⟩⟩ | converted
  exact .inr converted

theorem FirstRefusal.head (refused : ¬ policy.Admits plan value) :
    policy.FirstRefusal (plan :: plans) (value :: args) 0 plan value where
  planned := rfl
  given := rfl
  refused := refused
  earlier before isBefore := by omega

theorem FirstRefusal.cons {other : Plan} {given : Value} (first : policy.Admits other given)
    (rest : policy.FirstRefusal plans args index plan value) :
    policy.FirstRefusal (other :: plans) (given :: args) (index + 1) plan value where
  planned := rest.planned
  given := rest.given
  refused := rest.refused
  earlier before isBefore := by
    intro plan value planned present
    cases before with
    | zero =>
        simp only [List.getElem?_cons_zero, Option.some.injEq] at planned present
        subst planned present
        exact first
    | succ before => exact rest.earlier before (by omega) plan value planned present

theorem FirstRefusal.not_admitsAll (refusal : policy.FirstRefusal plans args index plan value) :
    ¬ policy.AdmitsAll plans args :=
  fun admitted => refusal.refused (admitted index plan value refusal.planned refusal.given)

/-- There is one first refusal only. -/
theorem FirstRefusal.unique {other : Nat} {otherPlan : Plan} {otherValue : Value}
    (refusal : policy.FirstRefusal plans args index plan value)
    (second : policy.FirstRefusal plans args other otherPlan otherValue) :
    index = other ∧ plan = otherPlan ∧ value = otherValue := by
  have same : index = other := by
    rcases Nat.lt_trichotomy index other with before | same | after
    · exact absurd (second.earlier _ before _ _ refusal.planned refusal.given) refusal.refused
    · exact same
    · exact absurd (refusal.earlier _ after _ _ second.planned second.given) second.refused
  subst same
  have samePlan := refusal.planned.symm.trans second.planned
  have sameValue := refusal.given.symm.trans second.given
  exact ⟨rfl, Option.some.inj samePlan, Option.some.inj sameValue⟩

end Lists

end Policy

namespace Method

variable {policy : Policy} {plans : List Plan} {args : List Value} {start : Nat}

/-- What is wrong with an argument that its plan does not admit: there is no conversion for it, or
its value is of another type. -/
def objection (method : Method) (index : Nat) (plan : Plan) (value : Value) : Fault :=
  match plan with
  | .unsupported nativeType => .unsupportedConversion method.text index nativeType
  | plan => .argumentType method.text index plan.name value.kind

theorem checkArgument_eq (method : Method) (policy : Policy) (index : Nat) (plan : Plan)
    (value : Value) :
    method.checkArgument policy index plan value =
      if policy.Admits plan value then .ok () else .error (method.objection index plan value) := by
  cases plan with
  | unsupported nativeType =>
      cases policy <;> simp [checkArgument, objection, Policy.Admits, Plan.isUnsupported]
  | _ => simp [checkArgument, objection, Policy.Admits, Plan.isUnsupported]

/-- The check goes through, or it stops at the first refusal. -/
theorem checkFrom_cases (method : Method) (policy : Policy) (start : Nat) (plans : List Plan)
    (args : List Value) :
    (method.checkFrom policy start plans args = .ok () ∧ policy.AdmitsAll plans args) ∨
      ∃ index plan value, policy.FirstRefusal plans args index plan value ∧
        method.checkFrom policy start plans args =
          .error (method.objection (start + index) plan value) := by
  induction plans generalizing start args with
  | nil => exact .inl ⟨by simp [checkFrom], by simp [Policy.AdmitsAll]⟩
  | cons plan plans ih =>
      cases args with
      | nil => exact .inl ⟨by simp [checkFrom], by simp [Policy.AdmitsAll]⟩
      | cons value args =>
          rw [checkFrom, checkArgument_eq]
          by_cases first : policy.Admits plan value
          · rw [if_pos first]
            rcases ih (start + 1) args with
              ⟨accepted, admitted⟩ | ⟨index, other, given, refusal, refused⟩
            · exact .inl ⟨accepted, admitted.cons first⟩
            · refine .inr ⟨index + 1, other, given, refusal.cons first, refused.trans ?_⟩
              rw [Nat.add_right_comm, Nat.add_assoc]
          · rw [if_neg first]
            exact .inr ⟨0, plan, value, .head first, rfl⟩

theorem checkFrom_eq_ok_iff {method : Method} :
    method.checkFrom policy start plans args = .ok () ↔ policy.AdmitsAll plans args := by
  rcases method.checkFrom_cases policy start plans args with
    ⟨accepted, admitted⟩ | ⟨_, _, _, refusal, refused⟩
  · simp [accepted, admitted]
  · simp [refused, refusal.not_admitsAll]

theorem checkFrom_eq_error_iff {method : Method} {fault : Fault} :
    method.checkFrom policy start plans args = .error fault ↔
      ∃ index plan value, policy.FirstRefusal plans args index plan value ∧
        fault = method.objection (start + index) plan value := by
  rcases method.checkFrom_cases policy start plans args with
    ⟨accepted, admitted⟩ | ⟨index, plan, value, refusal, refused⟩
  · simp only [accepted, reduceCtorEq, false_iff]
    rintro ⟨_, _, _, refusal, _⟩
    exact refusal.not_admitsAll admitted
  · simp only [refused, Except.error.injEq]
    constructor
    · rintro rfl
      exact ⟨index, plan, value, refusal, rfl⟩
    · rintro ⟨_, _, _, other, rfl⟩
      rcases refusal.unique other with ⟨rfl, rfl, rfl⟩
      rfl

/-- Where every plan has a conversion, the policy is never asked. -/
theorem checkFrom_policy {method : Method} (other : Policy)
    (supported : ∀ plan ∈ plans, plan.isUnsupported = false) :
    method.checkFrom policy start plans args = method.checkFrom other start plans args := by
  induction plans generalizing start args with
  | nil => cases args <;> rfl
  | cons plan plans ih =>
      cases args with
      | nil => rfl
      | cons value args =>
          have first : plan.isUnsupported = false := supported plan List.mem_cons_self
          have others : method.checkFrom policy (start + 1) plans args =
              method.checkFrom other (start + 1) plans args :=
            ih fun other later => supported other (List.mem_cons_of_mem plan later)
          simp [checkFrom, checkArgument_eq, Policy.Admits, first, others]

theorem checkArguments_eq_ok_iff {method : Method} :
    method.checkArguments args policy = .ok () ↔
      method.params.length = args.length ∧ policy.AdmitsAll method.params args := by
  rw [checkArguments]
  split
  · next same => simp [same, checkFrom_eq_ok_iff]
  · next different => simp [different]

/-- The check accepts exactly the argument lists of the right length whose arguments are all
admitted; otherwise it reports a wrong length before anything else, and then the first argument that
is not admitted. What is accepted where nothing unsupported may be passed is accepted everywhere,
and a method that supports all its parameters is checked alike under both policies. -/
theorem checkArguments_exact (method : Method) (args : List Value) :
    (∀ policy, method.checkArguments args policy = .ok () ↔
      method.params.length = args.length ∧ policy.AdmitsAll method.params args) ∧
    (∀ policy fault, method.checkArguments args policy = .error fault ↔
      method.params.length ≠ args.length ∧
          fault = .argumentCount method.text method.params.length args.length ∨
        method.params.length = args.length ∧ ∃ index plan value,
          policy.FirstRefusal method.params args index plan value ∧
            fault = method.objection index plan value) ∧
    (method.checkArguments args .reject = .ok () →
      method.checkArguments args .passNull = .ok ()) ∧
    ((∀ plan ∈ method.params, plan.isUnsupported = false) →
      method.checkArguments args .reject = method.checkArguments args .passNull) := by
  refine ⟨fun _ => checkArguments_eq_ok_iff, ?refused, ?lenient, ?supported⟩
  case refused =>
    intro policy fault
    by_cases same : method.params.length = args.length
    · simp [checkArguments, same, checkFrom_eq_error_iff]
    · simp [checkArguments, same, eq_comm]
  case lenient =>
    simp only [checkArguments_eq_ok_iff]
    exact fun ⟨same, admitted⟩ => ⟨same, admitted.of_reject⟩
  case supported =>
    intro supported
    simp only [checkArguments, checkFrom_policy .passNull supported]

end Method

end NativeProxy
