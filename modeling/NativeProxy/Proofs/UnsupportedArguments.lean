import NativeProxy.Proofs.ArgumentChecking
import NativeProxy.Proofs.ReachedCalls

/-!
# Values without a conversion

A value that is given for an unsupported parameter is neither looked at nor passed on. Two lists of
arguments that differ in such values only are checked alike and converted alike, so an operation
cannot tell them apart: it is the same program with either list. What Java gets in their place is
null, and where that is not allowed Java gets nothing at all.
-/

namespace NativeProxy

variable {host : Host} {proxy : Proxy} {session after : Session} {operation : Operation}
  {method : Method} {plans : List Plan} {args others : List Value}

/-! ## Lists that are told apart by unsupported values only -/

/-- The lists are equal, but for the values that they have for parameters without a conversion. -/
inductive Plan.SameSupported : List Plan → List Value → List Value → Prop where
  | equal (plans : List Plan) (args : List Value) : SameSupported plans args args
  | supported (plan : Plan) (value : Value) {plans : List Plan} {args others : List Value}
      (rest : SameSupported plans args others) :
      SameSupported (plan :: plans) (value :: args) (value :: others)
  | unsupported (nativeType : String) (value other : Value) {plans : List Plan}
      {args others : List Value} (rest : SameSupported plans args others) :
      SameSupported (.unsupported nativeType :: plans) (value :: args) (other :: others)

open Plan (SameSupported)

theorem Plan.SameSupported.length_eq (same : SameSupported plans args others) :
    args.length = others.length := by
  induction same with
  | equal => rfl
  | supported _ _ _ ih => simp [ih]
  | unsupported _ _ _ _ ih => simp [ih]

/-- Lists of the same length that are equal at every index but those of unsupported parameters. -/
theorem Plan.SameSupported.of_getElem? (length : args.length = others.length)
    (same : ∀ index : Nat, args[index]? = others[index]? ∨
      ∃ nativeType, plans[index]? = some (.unsupported nativeType)) :
    SameSupported plans args others := by
  induction plans generalizing args others with
  | nil =>
      have all : args = others := List.ext_getElem? fun index => by simpa using same index
      exact all ▸ .equal [] args
  | cons plan plans ih =>
      match args, others, length with
      | [], [], _ => exact .equal _ []
      | value :: args, other :: others, length =>
          have rest : SameSupported plans args others :=
            ih (by simpa using length) fun index => by simpa using same (index + 1)
          rcases same 0 with equal | ⟨nativeType, planned⟩
          · simp only [List.getElem?_cons_zero, Option.some.injEq] at equal
            exact equal ▸ .supported plan value rest
          · simp only [List.getElem?_cons_zero, Option.some.injEq] at planned
            exact planned ▸ .unsupported nativeType value other rest

/-! ## Programs that cannot tell them apart -/

theorem Method.checkFrom_congr (same : SameSupported plans args others) (method : Method)
    (policy : Policy) (start : Nat) :
    method.checkFrom policy start plans args = method.checkFrom policy start plans others := by
  induction same generalizing start with
  | equal => rfl
  | supported plan value _ ih => simp only [checkFrom, ih]
  | unsupported nativeType value other _ ih =>
      have unseen : method.checkArgument policy start (.unsupported nativeType) value =
          method.checkArgument policy start (.unsupported nativeType) other := rfl
      simp only [checkFrom, unseen, ih]

theorem Method.checkArguments_congr (same : SameSupported method.params args others)
    (policy : Policy) :
    method.checkArguments args policy = method.checkArguments others policy := by
  simp only [checkArguments, same.length_eq, checkFrom_congr same]

theorem Jni.convertFrom_congr (same : SameSupported plans args others) (method : Method)
    (start : Nat) :
    convertFrom method start plans args = convertFrom method start plans others := by
  induction same generalizing start with
  | equal => rfl
  | supported plan value _ ih => simp only [convertFrom, ih]
  | unsupported nativeType value other _ ih =>
      have unseen : convertArgument method start (.unsupported nativeType) value =
          convertArgument method start (.unsupported nativeType) other := rfl
      simp only [convertFrom, unseen, ih]

theorem Jni.convertArguments_congr (same : SameSupported method.params args others) :
    convertArguments method args = convertArguments method others :=
  convertFrom_congr same method 0

/-- A call does not depend on what is given for unsupported parameters. -/
theorem Proxy.callMethod_congr {index : Nat} (known : proxy.method? index = some method)
    (same : SameSupported method.params args others) :
    proxy.callMethod index args = proxy.callMethod index others := by
  simp only [callMethod, known, callOnce, Method.checkArguments_congr same,
    Jni.convertArguments_congr same]

namespace Operation

/-- The same operation with other arguments. -/
def withArgs (others : List Value) : Operation → Operation
  | .invoke index _ => .invoke index others
  | .call name signature _ => .call name signature others
  | .invokeStored index _ => .invokeStored index others
  | .invokeFlag index _ => .invokeFlag index others

section WithArgs

variable (others : List Value) (operation : Operation) (proxy : Proxy) (index : Nat)
  (outcome : Except Fault Value)

@[simp] theorem args_withArgs : (operation.withArgs others).args = others := by
  cases operation <;> rfl

@[simp] theorem request_withArgs :
    (operation.withArgs others).request proxy = operation.request proxy := by
  cases operation <;> rfl

@[simp] theorem report_withArgs :
    (operation.withArgs others).report outcome = operation.report outcome := by
  cases operation <;> rfl

@[simp] theorem settled_withArgs :
    (operation.withArgs others).settled proxy index outcome =
      operation.settled proxy index outcome := by
  cases operation <;> rfl

@[simp] theorem wrapUp_withArgs :
    (operation.withArgs others).wrapUp proxy outcome = operation.wrapUp proxy outcome := by
  cases operation <;> rfl

@[simp] theorem tidy_withArgs :
    (operation.withArgs others).tidy proxy index outcome =
      operation.tidy proxy index outcome := by
  cases operation <;> rfl

end WithArgs

/-- An operation that names a method is the same program whatever is given for the unsupported
parameters of that method. -/
theorem perform_withArgs {index : Nat} (located : operation.locate proxy = .ok index)
    (known : proxy.method? index = some method)
    (same : SameSupported method.params operation.args others) :
    (operation.withArgs others).perform proxy = operation.perform proxy := by
  rw [perform_eq, perform_eq, request_withArgs]
  cases requested : operation.request proxy with
  | error fault => simp
  | ok other =>
      have named : other = index := by
        simpa [(request_eq_ok requested).2] using located
      subst named
      simp [Proxy.callMethod_congr known same]

end Operation

/-! ## What Java gets in their place -/

theorem Method.exists_argument {position : Nat} {plan : Plan}
    (length : method.params.length = args.length)
    (parameter : method.params[position]? = some plan) : ∃ value, args[position]? = some value := by
  rcases List.getElem?_eq_some_iff.mp parameter with ⟨within, _⟩
  exact ⟨_, List.getElem?_eq_getElem (length ▸ within)⟩

/-- The converted value of an unsupported argument is null. -/
theorem Jni.unsupported_converted_to_null {raws : List RawValue} {position : Nat}
    {nativeType : String} (length : method.params.length = args.length)
    (ran : (convertArguments method args).exec host session = (.ok raws, after))
    (unsupported : method.params[position]? = some (.unsupported nativeType)) :
    raws[position]? = some .null := by
  rcases Method.exists_argument length unsupported with ⟨value, given⟩
  rcases convertFrom_eq_ok ran unsupported given with ⟨raw, before, left, passed, converted⟩
  rcases exec_bind_eq_ok converted with ⟨_, logged, _, ending⟩
  simp only [exec_pure, Prod.mk.injEq, Except.ok.injEq] at ending
  exact ending.1 ▸ passed

namespace Operation

variable {index position : Nat} {nativeType : String}

/-- An operation on a method with an unsupported parameter is refused where null may not stand for
it. -/
theorem refused_of_unsupported (located : operation.locate proxy = .ok index)
    (known : proxy.method? index = some method) (strict : proxy.config.policy = .reject)
    (unsupported : method.params[position]? = some (.unsupported nativeType)) :
    ∃ fault, operation.accept proxy = .error fault := by
  cases accepted : operation.accept proxy with
  | error fault => exact ⟨fault, rfl⟩
  | ok target =>
      rcases target with ⟨accepts, id⟩
      rcases accept_eq_ok_of_located accepted located known with ⟨_, _, checked⟩
      rcases Method.checkArguments_eq_ok_iff.mp checked with ⟨length, admitted⟩
      rcases Method.exists_argument length unsupported with ⟨value, given⟩
      rcases admitted position _ value unsupported given with ⟨_, passing⟩ | ⟨converts, _⟩
      · exact absurd (strict.symm.trans passing) (by simp)
      · exact absurd converts (by simp [Plan.isUnsupported])

/-- Every call has null in the place of an unsupported argument. -/
theorem Leaves.null_for_unsupported {built : Proxy} {answer : Answer} {events : List Event}
    (left : operation.Leaves host built proxy session answer events)
    (located : operation.locate built = .ok index) (known : built.method? index = some method)
    {receiver : Object} {id : MethodId} {kind : CallKind} {raws : List RawValue}
    (called : .call receiver id kind raws ∈ events)
    (unsupported : method.params[position]? = some (.unsupported nativeType)) :
    raws[position]? = some .null := by
  rcases left.call_of_located located known called with ⟨_, _, checked, _, _, converted⟩
  have length := (Method.checkArguments_eq_ok_iff.mp checked).1
  exact Jni.unsupported_converted_to_null length converted unsupported

end Operation

/-- What is given for unsupported parameters has no influence: an operation ends alike whatever that
is, with the same answer, the same proxy and the same history of the machine. Where null is passed
for such a parameter, every call that is made has it there; where nothing is, the machine is left
alone but for the references of a stored result that is dropped. -/
theorem Reachable.unsupported_arguments_without_influence {index : Nat}
    (reachable : Reachable host proxy session) (located : operation.locate proxy = .ok index)
    (known : proxy.method? index = some method)
    (length : operation.args.length = others.length)
    (same : ∀ position : Nat, operation.args[position]? = others[position]? ∨
      ∃ nativeType, method.params[position]? = some (.unsupported nativeType)) :
    ((operation.withArgs others).perform proxy).exec host session =
        (operation.perform proxy).exec host session ∧
      ∃ events, ((operation.perform proxy).exec host session).2.history =
          session.history ++ events ∧
        (proxy.config.policy = .passNull → ∀ receiver id kind raws,
          .call receiver id kind raws ∈ events → ∀ (position : Nat) (nativeType : String),
            method.params[position]? = some (.unsupported nativeType) →
              raws[position]? = some .null) ∧
        (proxy.config.policy = .reject → ∀ (position : Nat) (nativeType : String),
          method.params[position]? = some (.unsupported nativeType) →
            ∀ event ∈ events, ∃ ref ∈ operation.dropped proxy, event.Releases ref) := by
  refine ⟨?unchanged, ?reached⟩
  case unchanged =>
    rw [Operation.perform_withArgs located known (.of_getElem? length same)]
  case reached =>
    rcases ran : (operation.perform proxy).exec host session with ⟨⟨answer, next⟩, after⟩
    rcases reachable.operation_events ran with ⟨events, longer, left⟩
    refine ⟨events, longer, ?_, ?_⟩
    · intro _ receiver id kind raws called position nativeType unsupported
      exact left.null_for_unsupported located known called unsupported
    · intro strict position nativeType unsupported
      rcases Operation.refused_of_unsupported located known strict unsupported with
        ⟨fault, refused⟩
      simp only [Operation.Leaves, refused] at left
      exact left.2

/-! ## A stream to draw on -/

/-- The target draws a line of some width on a stream. -/
def Script.drawing : Script where
  methods := [{
    name := "draw"
    signature := "(Ljava/io/OutputStream;I)V"
    outcomes := [.returns .void] }]

/-- The method that `Script.drawing` answers. The stream has no conversion. -/
def Method.drawing : Method where
  selector := ⟨"draw", ⟨[.object "java/io/OutputStream", .primitive .int], .primitive .void⟩⟩
  params := [.unsupported "std::ostream&", .primitive .int]
  result := .primitive .void
  mode := .byValue
  flagsFailure := false

def Interface.drawing : Interface where
  name := "Drawing"
  methods := [.drawing]

/-- The proxy that binding a target to `Interface.drawing` makes. -/
def Proxy.drawing (policy : Policy) : Proxy where
  target := ⟨25, .plain "target"⟩
  targetClass := ⟨27, .loadedClass "Target"⟩
  interface := .drawing
  bindings := [⟨Method.drawing.selector,
    some ⟨"Target", "draw", "(Ljava/io/OutputStream;I)V"⟩⟩]
  slots := [none]
  config := { policy := policy }

/-- The session that making `Proxy.drawing` leaves. -/
def Session.drawing (policy : Policy) : Session :=
  ((Proxy.bind (some (.plain "target")) .drawing { policy := policy }).exec
    Script.drawing.host {}).2

theorem Proxy.bind_drawing (policy : Policy) :
    (bind (some (.plain "target")) .drawing { policy := policy }).exec Script.drawing.host {} =
      (.ok (.drawing policy), .drawing policy) := by
  cases policy with
  | passNull => rfl
  | reject => rfl

/-- What Java gets when a line is to be drawn on a text or on a number. -/
theorem Reachable.drawing_on_anything :
    ((Operation.invoke 0 [.byte 7, .int 3]).perform (.drawing .passNull)).exec
          Script.drawing.host (.drawing .passNull) =
        ((Operation.invoke 0 [.text "file", .int 3]).perform (.drawing .passNull)).exec
          Script.drawing.host (.drawing .passNull) ∧
      (∃ events raws, (((Operation.invoke 0 [.text "file", .int 3]).perform
            (.drawing .passNull)).exec Script.drawing.host (.drawing .passNull)).2.history =
          (Session.drawing .passNull).history ++ events ∧
        .call (.plain "target") ⟨"Target", "draw", "(Ljava/io/OutputStream;I)V"⟩
          (.primitive .void) raws ∈ events ∧ raws[0]? = some .null) ∧
      ∃ events, (((Operation.invoke 0 [.text "file", .int 3]).perform
            (.drawing .reject)).exec Script.drawing.host (.drawing .reject)).2.history =
          (Session.drawing .reject).history ++ events ∧ events.countP Event.isCall = 0 := by
  have same (position : Nat) :
      [Value.text "file", .int 3][position]? = [Value.byte 7, .int 3][position]? ∨
        ∃ nativeType, Method.drawing.params[position]? = some (.unsupported nativeType) := by
    cases position with
    | zero => exact .inr ⟨_, rfl⟩
    | succ position => exact .inl rfl
  have inert (policy : Policy) :=
    @unsupported_arguments_without_influence Script.drawing.host (.drawing policy)
      (.drawing policy) (.invoke 0 [.text "file", .int 3]) .drawing [.byte 7, .int 3] 0
      (.bound (Proxy.bind_drawing policy)) rfl rfl rfl same
  refine ⟨(inert .passNull).1, ?_, ?_⟩
  · rcases (inert .passNull).2 with ⟨events, longer, nulls, _⟩
    have happened : (((Operation.invoke 0 [.text "file", .int 3]).perform
        (.drawing .passNull)).exec Script.drawing.host (.drawing .passNull)).2.history =
          (Session.drawing .passNull).history ++ [.pushFrame 16,
            .call (.plain "target") ⟨"Target", "draw", "(Ljava/io/OutputStream;I)V"⟩
              (.primitive .void) [.null, .int 3], .exceptionCheck, .exceptionCheck,
            .popFrame] := rfl
    have called : .call (.plain "target") ⟨"Target", "draw", "(Ljava/io/OutputStream;I)V"⟩
        (.primitive .void) [.null, .int 3] ∈ events := by
      rw [List.append_cancel_left (longer.symm.trans happened)]
      simp
    exact ⟨events, _, longer, called, nulls rfl _ _ _ _ called 0 _ rfl⟩
  · rcases (inert .reject).2 with ⟨events, longer, _, released⟩
    refine ⟨events, longer, List.countP_eq_zero.mpr ?_⟩
    intro event happened
    rcases released rfl 0 _ rfl event happened with ⟨ref, _, releases⟩
    simp [releases.isCall]

end NativeProxy
