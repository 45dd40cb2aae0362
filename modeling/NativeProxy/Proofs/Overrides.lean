import NativeProxy.Proofs.ResultPassing

/-!
# Overridden plans

A description starts with the plans of its types, and refinements override some of them.
`Refinement.cases_of_accepted` says once what an accepted refinement does: it overrides the plan of
one position whose type is a reference, or it leaves all plans alone. `Method.Refined` keeps the
overrides that were accepted, so that every plan of a description is known: it is that of the last
override of its position, or still that of its type.
-/

namespace NativeProxy

/-- A position of a signature: one of the parameters, or the result. -/
inductive Position where
  | param (index : Nat)
  | result
deriving DecidableEq, Repr

def Signature.typeAt (signature : Signature) : Position → Option Descriptor
  | .param index => signature.params[index]?
  | .result => some signature.result

def Method.planAt (method : Method) : Position → Option Plan
  | .param index => method.params[index]?
  | .result => some method.result

/-- A plan that replaces the one a position has. -/
structure Override where
  position : Position
  plan : Plan
deriving DecidableEq, Repr

namespace Override

variable {position : Position} {overrides : List Override} {override : Override} {method : Method}

/-! ## The last override of a position -/

/-- The plan that the last override of a position puts there. -/
def last? (position : Position) (overrides : List Override) : Option Plan :=
  ((overrides.filter fun override => override.position = position).getLast?).map Override.plan

theorem last_append_self (overrides : List Override) (override : Override) :
    last? override.position (overrides ++ [override]) = some override.plan := by
  simp [last?]

theorem last_append_of_ne (other : override.position ≠ position) :
    last? position (overrides ++ [override]) = last? position overrides := by
  simp [last?, other]

theorem mem_of_last {plan : Plan} (last : last? position overrides = some plan) :
    ⟨position, plan⟩ ∈ overrides := by
  simp only [last?, Option.map_eq_some_iff] at last
  rcases last with ⟨override, isLast, rfl⟩
  have among := List.mem_of_getLast? isLast
  simp only [List.mem_filter, decide_eq_true_eq] at among
  rcases among with ⟨listed, rfl⟩
  exact listed

/-! ## Replacing a plan -/

/-- The description with the plan of the position replaced. -/
def put (method : Method) (override : Override) : Method :=
  match override.position with
  | .param index => { method with params := method.params.set index override.plan }
  | .result => { method with result := override.plan }

@[simp]
theorem put_selector (method : Method) (override : Override) :
    (override.put method).selector = method.selector := by
  rw [put]
  split <;> rfl

theorem planAt_put_of_ne (other : override.position ≠ position) :
    (override.put method).planAt position = method.planAt position := by
  rcases override with ⟨_ | _, plan⟩
  case param index =>
    cases position with
    | param place =>
        have apart : index ≠ place := fun same => other (congrArg Position.param same)
        simp [put, Method.planAt, apart]
    | result => rfl
  case result =>
    cases position with
    | param place => rfl
    | result => exact absurd rfl other

/-- A position that had a plan has the one that was put there. -/
theorem planAt_put_self {before : Plan} (known : method.planAt override.position = some before) :
    (override.put method).planAt override.position = some override.plan := by
  rcases override with ⟨_ | _, plan⟩
  case param index =>
    have within : index < method.params.length := (List.getElem?_eq_some_iff.mp known).1
    simp [put, Method.planAt, within]
  case result => rfl

end Override

/-! ## One refinement -/

namespace Refinement

/-- The override that a refinement asks for, if any. -/
def override? : Refinement → Option Override
  | .storing => none
  | .flagging => none
  | .unsupportedParam index nativeType => some ⟨.param index, .unsupported nativeType⟩
  | .colorParam index => some ⟨.param index, .color⟩
  | .colorResult => some ⟨.result, .color⟩

variable {method next : Method} {refinement : Refinement} {override : Override}

/-- Overrides are for colours and for what has no conversion. -/
theorem plan_of_override (asked : refinement.override? = some override) :
    override.plan = .color ∨ ∃ nativeType, override.plan = .unsupported nativeType := by
  cases refinement with
  | unsupportedParam index nativeType => cases asked; exact .inr ⟨nativeType, rfl⟩
  | colorParam index => cases asked; exact .inl rfl
  | colorResult => cases asked; exact .inl rfl
  | _ => cases asked

/-- The override may be made: its position has a type, and that is a reference. -/
def Allowed (signature : Signature) (override : Override) : Prop :=
  ∃ type, signature.typeAt override.position = some type ∧ type.isReference = true

theorem withParam_eq_put {index : Nat} {plan : Plan} (made : plan.isReference = true)
    (refines : method.withParam index plan = .ok next) :
    Allowed method.signature ⟨.param index, plan⟩ ∧
      next = Override.put method ⟨.param index, plan⟩ := by
  rcases Method.withParam_eq_ok refines with ⟨type, found, allowed, rfl⟩
  exact ⟨⟨type, found, allowed made⟩, rfl⟩

/-- An accepted refinement makes the override that it asks for, which is an allowed one; without an
override it leaves the selector and all plans as they are. -/
theorem cases_of_accepted (refines : refinement.apply method = .ok next) :
    (refinement.override? = none ∧ next.selector = method.selector ∧
      ∀ position, next.planAt position = method.planAt position) ∨
    ∃ override, refinement.override? = some override ∧ Allowed method.signature override ∧
      next = override.put method := by
  cases refinement with
  | storing => cases refines; exact .inl ⟨rfl, rfl, fun position => by cases position <;> rfl⟩
  | flagging => cases refines; exact .inl ⟨rfl, rfl, fun position => by cases position <;> rfl⟩
  | unsupportedParam index nativeType => exact .inr ⟨_, rfl, withParam_eq_put rfl refines⟩
  | colorParam index => exact .inr ⟨_, rfl, withParam_eq_put rfl refines⟩
  | colorResult =>
      rcases Method.withColorResult_eq_ok refines with ⟨reference, rfl⟩
      exact .inr ⟨_, rfl, ⟨_, rfl, reference⟩, rfl⟩

/-- A refinement is accepted exactly if the override that it asks for is allowed. -/
theorem accepted_iff (method : Method) (refinement : Refinement) :
    (∃ next, refinement.apply method = .ok next) ↔
      ∀ override, refinement.override? = some override → Allowed method.signature override := by
  constructor
  · rintro ⟨next, refines⟩ override asked
    rcases cases_of_accepted refines with ⟨none, _⟩ | ⟨made, same, allowed, _⟩
    · simp [none] at asked
    · rw [same, Option.some.injEq] at asked
      exact asked ▸ allowed
  · intro allowed
    cases refinement with
    | storing => exact ⟨_, rfl⟩
    | flagging => exact ⟨_, rfl⟩
    | unsupportedParam index nativeType =>
        rcases allowed _ rfl with ⟨type, found, reference⟩
        have atIndex : method.signature.params[index]? = some type := found
        simp [apply, Method.withUnsupportedParam, Method.withParam, atIndex, reference]
    | colorParam index =>
        rcases allowed _ rfl with ⟨type, found, reference⟩
        have atIndex : method.signature.params[index]? = some type := found
        simp [apply, Method.withColorParam, Method.withParam, atIndex, reference]
    | colorResult =>
        rcases allowed _ rfl with ⟨type, ⟨⟩, reference⟩
        simp [apply, Method.withColorResult, reference]

theorem selector_of_accepted (refines : refinement.apply method = .ok next) :
    next.selector = method.selector := by
  rcases cases_of_accepted refines with ⟨_, same, _⟩ | ⟨override, _, _, rfl⟩
  · exact same
  · exact override.put_selector method

/-- A position that a refinement does not override keeps its plan. -/
theorem planAt_of_others (refines : refinement.apply method = .ok next) {position : Position}
    (others : ∀ override, refinement.override? = some override → override.position ≠ position) :
    next.planAt position = method.planAt position := by
  rcases cases_of_accepted refines with ⟨_, _, same⟩ | ⟨override, asked, _, rfl⟩
  · exact same position
  · exact Override.planAt_put_of_ne (others override asked)

end Refinement

/-! ## Sequences of refinements -/

namespace Method

/-- The descriptions that refinements make of `start`, with the overrides that were accepted, oldest
first. A refinement that is refused leaves the description as it is. -/
inductive Refined (start : Method) : List Override → Method → Prop where
  | start : Refined start [] start
  | accepted {overrides : List Override} {method next : Method} {refinement : Refinement}
      (earlier : Refined start overrides method) (refines : refinement.apply method = .ok next) :
      Refined start (overrides ++ refinement.override?.toList) next
  | refused {overrides : List Override} {method : Method} {refinement : Refinement} {fault : Fault}
      (earlier : Refined start overrides method)
      (refuses : refinement.apply method = .error fault) : Refined start overrides method

/-- Every position of the signature has a plan, and that suits its type. -/
theorem Built.exists_planAt {method : Method} (built : method.Built) {position : Position}
    {type : Descriptor} (typed : method.signature.typeAt position = some type) :
    ∃ plan, method.planAt position = some plan ∧ plan.Suits type := by
  cases position with
  | param index =>
      have atIndex : method.signature.params[index]? = some type := typed
      rcases List.getElem?_eq_some_iff.mp atIndex with ⟨within, rfl⟩
      have planned : index < method.params.length := by
        rw [built.suited.length_eq]
        exact within
      exact ⟨_, List.getElem?_eq_getElem planned, built.suited.get planned within⟩
  | result =>
      cases typed
      exact ⟨_, rfl, built.returnsSuited.suits⟩

namespace Refined

variable {start method : Method} {overrides : List Override}

theorem built (refined : start.Refined overrides method) (first : start.Built) : method.Built := by
  induction refined with
  | start => exact first
  | accepted earlier refines ih => exact .refined _ ih refines
  | refused earlier refuses ih => exact ih

theorem selector_eq (refined : start.Refined overrides method) :
    method.selector = start.selector := by
  induction refined with
  | start => rfl
  | accepted earlier refines ih => exact (Refinement.selector_of_accepted refines).trans ih
  | refused earlier refuses ih => exact ih

theorem plan_of_mem (refined : start.Refined overrides method) {override : Override}
    (listed : override ∈ overrides) :
    override.plan = .color ∨ ∃ nativeType, override.plan = .unsupported nativeType := by
  induction refined with
  | start => cases listed
  | accepted earlier refines ih =>
      rcases List.mem_append.mp listed with before | last
      · exact ih before
      · exact Refinement.plan_of_override (Option.mem_toList.mp last)
  | refused earlier refuses ih => exact ih listed

/-- The last override of a position decides its plan. -/
theorem planAt_eq (refined : start.Refined overrides method) (first : start.Built)
    (position : Position) :
    method.planAt position = (Override.last? position overrides).or (start.planAt position) := by
  induction refined with
  | start => rfl
  | @accepted overrides method next refinement earlier refines ih =>
      rcases Refinement.cases_of_accepted refines with
        ⟨none, _, same⟩ | ⟨override, asked, ⟨type, typed, _⟩, rfl⟩
      · simp [none, same, ih]
      · rw [asked, Option.toList_some]
        by_cases here : override.position = position
        · subst here
          rcases (earlier.built first).exists_planAt typed with ⟨before, known, _⟩
          rw [Override.planAt_put_self known, Override.last_append_self, Option.some_or]
        · rw [Override.planAt_put_of_ne here, Override.last_append_of_ne here, ih]
  | refused earlier refuses ih => exact ih

end Refined

end Method

/-! ## Plans and types -/

theorem Plan.eq_primitive_iff {plan : Plan} {type : Descriptor} (suits : plan.Suits type)
    (copied : Primitive) : plan = .primitive copied ↔ type = .primitive copied := by
  constructor
  · rintro rfl
    exact eq_primitive_of_suits suits
  · rintro rfl
    exact suits

theorem Plan.eq_stringClass_of_text {type : Descriptor} (planned : ofType type = .text) :
    type = .object Descriptor.stringClass := by
  cases type with
  | primitive type => cases planned
  | object className =>
      by_cases isString : className = Descriptor.stringClass
      · rw [isString]
      · simp only [ofType, Descriptor.isClass, Descriptor.primitive?, beq_iff_eq, isString,
          if_false] at planned
        split at planned <;> cases planned
  | array element => cases planned

theorem Method.planAt_ofSelector (selector : Selector) (position : Position) :
    (ofSelector selector).planAt position =
      (selector.signature.typeAt position).map Plan.ofType := by
  cases position with
  | param index => exact List.getElem?_map
  | result => rfl

/-- However a description that was read is refined, every position of its signature has one plan. It
copies values exactly if the type is a primitive one or `void`, and then of that very type; texts
are converted for strings only; and it is the plan of the type unless an accepted refinement has
overridden it, for a colour or for want of a conversion, the last one winning. A refinement is
accepted exactly if the position that it overrides has a type that is a reference, and changes
neither the selector nor another position. -/
theorem Method.Refined.plans_match_types {name text : String} {start method : Method}
    {overrides : List Override} (parsed : Method.parse name text = .ok start)
    (refined : start.Refined overrides method) :
    method.selector = start.selector ∧
    method.params.length = method.signature.params.length ∧
    (∀ position type, method.signature.typeAt position = some type →
      ∃ plan, method.planAt position = some plan ∧
        (∀ copied, plan = .primitive copied ↔ type = .primitive copied) ∧
        (plan = .text → type = .object Descriptor.stringClass) ∧
        plan = (Override.last? position overrides).getD (Plan.ofType type)) ∧
    (∀ override ∈ overrides,
      override.plan = .color ∨ ∃ nativeType, override.plan = .unsupported nativeType) ∧
    ∀ refinement : Refinement,
      ((∃ next, refinement.apply method = .ok next) ↔
        ∀ override, refinement.override? = some override →
          ∃ type, method.signature.typeAt override.position = some type ∧
            type.isReference = true) ∧
      ∀ next, refinement.apply method = .ok next →
        next.selector = method.selector ∧
        ∀ position, (∀ override, refinement.override? = some override →
          override.position ≠ position) → next.planAt position = method.planAt position := by
  have first : start.Built := .parsed parsed
  have built : method.Built := refined.built first
  refine ⟨refined.selector_eq, built.suited.length_eq, ?plans, fun _ => refined.plan_of_mem,
    fun refinement => ⟨refinement.accepted_iff method, fun next refines =>
      ⟨Refinement.selector_of_accepted refines, fun _ => Refinement.planAt_of_others refines⟩⟩⟩
  case plans =>
    intro position type typed
    rcases built.exists_planAt typed with ⟨plan, planned, suits⟩
    have decided : plan = (Override.last? position overrides).getD (Plan.ofType type) := by
      rcases parse_eq_ok parsed with ⟨selector, _, rfl⟩
      have same := refined.planAt_eq first position
      have typedBefore : selector.signature.typeAt position = some type := by
        rw [← typed, signature, refined.selector_eq]
        rfl
      simp only [planned, planAt_ofSelector, typedBefore, Option.map_some] at same
      cases last : Override.last? position overrides with
      | none => simpa [last] using same
      | some overridden => simpa [last] using same
    refine ⟨plan, planned, Plan.eq_primitive_iff suits, ?text, decided⟩
    case text =>
      rintro rfl
      cases last : Override.last? position overrides with
      | none =>
          rw [last, Option.getD_none] at decided
          exact Plan.eq_stringClass_of_text decided.symm
      | some overridden =>
          rw [last, Option.getD_some] at decided
          rcases refined.plan_of_mem (Override.mem_of_last last) with isColor | ⟨_, isUnsupported⟩
          · exact absurd (decided.trans isColor) (by simp)
          · exact absurd (decided.trans isUnsupported) (by simp)

/-- The paint is taken for a colour first, and the number cannot be overridden. -/
theorem Method.Refined.painting_plans_match :
    ∃ start, Method.parse "paint" Signature.painting.text = .ok start ∧
      start.Refined [⟨.param 2, .color⟩, ⟨.param 3, .color⟩, ⟨.param 3, .unsupported "SkPaint"⟩]
        .painting ∧
      Method.painting.planAt (.param 3) = some (.unsupported "SkPaint") ∧
      ¬ ∃ next, (Refinement.colorParam 0).apply .painting = .ok next := by
  have parsed := Method.parse_text Signature.painting_wellFormed "paint"
  have refused : (Refinement.colorParam 0).apply (ofSelector ⟨"paint", .painting⟩) =
      .error _ := rfl
  have canvas : (Refinement.colorParam 2).apply (ofSelector ⟨"paint", .painting⟩) =
      .ok { painting with params := [.primitive .int, .text, .color, .object] } := rfl
  have paint : (Refinement.colorParam 3).apply
      { painting with params := [.primitive .int, .text, .color, .object] } =
        .ok { painting with params := [.primitive .int, .text, .color, .color] } := rfl
  have unsupported : (Refinement.unsupportedParam 3 "SkPaint").apply
      { painting with params := [.primitive .int, .text, .color, .color] } = .ok painting := rfl
  have refined : (ofSelector ⟨"paint", .painting⟩).Refined
      [⟨.param 2, .color⟩, ⟨.param 3, .color⟩, ⟨.param 3, .unsupported "SkPaint"⟩] painting :=
    .accepted (.accepted (.accepted (.refused .start refused) canvas) paint) unsupported
  rcases plans_match_types parsed refined with ⟨_, _, plans, _, steps⟩
  refine ⟨_, parsed, refined, ?_, ?_⟩
  · rcases plans (.param 3) _ rfl with ⟨plan, planned, _, _, decided⟩
    rw [planned, decided]
    rfl
  · rw [(steps (.colorParam 0)).1]
    intro allowed
    rcases allowed _ rfl with ⟨_, ⟨⟩, reference⟩
    cases reference

end NativeProxy
