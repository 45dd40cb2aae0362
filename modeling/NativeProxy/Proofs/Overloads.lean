import Mathlib.Data.List.Nodup
import NativeProxy.Proofs.Lookups

/-!
# Lookup of overloads

Methods are added to an interface one by one, and one whose selector is already there is refused.
Refusal compares selectors, lookup compares a name and a printed signature. For methods read from
texts the two agree (`Interface.Declared.selector_eq_iff`, `Interface.Declared.isOverload_iff`), so
that the texts of the methods of an interface stay distinct through every sequence of additions
(`Interface.Assembled.lists`), and looking a method up by its texts is exact.
-/

namespace NativeProxy

namespace Interface

/-! ## Declared methods -/

/-- A method with the name and the signature text that its selector was read from. -/
structure Declared where
  method : Method
  source : String × String
  read : method.ReadFrom source

namespace Declared

theorem name_eq (declared : Declared) : declared.method.name = declared.source.1 :=
  (Selector.parse_eq_ok.mp declared.read).1

theorem signature_text (declared : Declared) :
    declared.method.signature.text = declared.source.2 :=
  (Selector.parse_eq_ok.mp declared.read).2.2

theorem text_eq (declared : Declared) :
    declared.method.text = declared.source.1 ++ declared.source.2 := by
  rw [← declared.name_eq, ← declared.signature_text]
  rfl

/-- A lookup takes a method for an overload exactly if it asks for the texts of that method. -/
theorem isOverload_iff (declared : Declared) (name signature : String) :
    isOverload name signature declared.method = true ↔ declared.source = (name, signature) := by
  rw [isOverload, declared.name_eq, declared.signature_text, Bool.and_eq_true, beq_iff_eq,
    beq_iff_eq, Prod.ext_iff]

/-- Two methods have one selector exactly if they were read from the same texts. -/
theorem selector_eq_iff (first second : Declared) :
    first.method.selector = second.method.selector ↔ first.source = second.source := by
  constructor
  · intro same
    rw [Prod.ext_iff, ← first.name_eq, ← second.name_eq, ← first.signature_text,
      ← second.signature_text, Method.name, Method.name, Method.signature, Method.signature, same]
    exact ⟨rfl, rfl⟩
  · intro same
    have read : Selector.parse second.source.1 second.source.2 = .ok first.method.selector :=
      same ▸ first.read
    exact Except.ok.inj (read.symm.trans second.read)

end Declared

/-! ## Sequences of additions -/

/-- An interface after a sequence of additions that began with `start`, and the methods that were
accepted, in order. A method that is refused leaves the interface as it is. -/
inductive Assembled (start : Interface) : List Declared → Interface → Prop where
  | start : Assembled start [] start
  | accepted {kept : List Declared} {interface larger : Interface} {declared : Declared}
      (earlier : Assembled start kept interface)
      (added : interface.add declared.method = .ok larger) :
      Assembled start (kept ++ [declared]) larger
  | refused {kept : List Declared} {interface : Interface} {declared : Declared} {fault : Fault}
      (earlier : Assembled start kept interface)
      (failed : interface.add declared.method = .error fault) : Assembled start kept interface

/-- The methods of an interface are those kept, in order, and no two of them were read from the
same texts. -/
structure Lists (interface : Interface) (kept : List Declared) : Prop where
  methods : interface.methods = kept.map Declared.method
  distinct : (kept.map Declared.source).Nodup

variable {interface larger start : Interface} {kept : List Declared} {declared : Declared}

theorem Lists.any_selector_iff (lists : interface.Lists kept) (declared : Declared) :
    interface.methods.any (·.selector == declared.method.selector) = true ↔
      declared.source ∈ kept.map Declared.source := by
  rw [lists.methods, List.any_map, List.any_eq_true, List.mem_map]
  refine exists_congr fun earlier => and_congr_right fun _ => ?_
  exact beq_iff_eq.trans (earlier.selector_eq_iff declared)

/-- An addition fails exactly if a method with the same texts is kept already. -/
theorem Lists.add_eq (lists : interface.Lists kept) (declared : Declared) :
    interface.add declared.method =
      if declared.source ∈ kept.map Declared.source then
        .error (.config (interface.name ++ ": duplicate method " ++
          (declared.source.1 ++ declared.source.2)))
      else .ok { interface with methods := interface.methods ++ [declared.method] } := by
  rw [add, declared.text_eq, ← ite_congr (propext (lists.any_selector_iff declared))
    (fun _ => rfl) (fun _ => rfl)]

theorem Lists.accepted (lists : interface.Lists kept)
    (added : interface.add declared.method = .ok larger) :
    larger.Lists (kept ++ [declared]) := by
  have fresh : declared.source ∉ kept.map Declared.source := by
    intro known
    rw [lists.add_eq, if_pos known] at added
    cases added
  constructor
  case methods => rw [methods_of_add added, lists.methods, List.map_append, List.map_singleton]
  case distinct =>
    rw [List.map_append, List.map_singleton, ← List.concat_eq_append]
    exact List.Nodup.concat fresh lists.distinct

theorem name_of_add {method : Method} (added : interface.add method = .ok larger) :
    larger.name = interface.name := by
  rw [add] at added
  split at added
  · cases added
  · cases added
    rfl

theorem Assembled.lists (assembled : Assembled start kept interface)
    (empty : start.methods = []) : interface.Lists kept := by
  induction assembled with
  | start => exact ⟨empty, List.nodup_nil⟩
  | accepted earlier added ih => exact ih.accepted added
  | refused earlier failed ih => exact ih

theorem Assembled.name_eq (assembled : Assembled start kept interface) :
    interface.name = start.name := by
  induction assembled with
  | start => rfl
  | accepted earlier added ih => exact (name_of_add added).trans ih
  | refused earlier failed ih => exact ih

/-! ## Lookup -/

theorem Lists.isOverload_getElem_iff (lists : interface.Lists kept) (name signature : String)
    {index : Nat} (bound : index < interface.methods.length) :
    isOverload name signature interface.methods[index] = true ↔
      (kept.map Declared.source)[index]? = some (name, signature) := by
  have kept_bound : index < kept.length := by simpa [lists.methods] using bound
  have same : interface.methods[index] = kept[index].method := by
    simp only [lists.methods, List.getElem_map]
  rw [same, Declared.isOverload_iff, List.getElem?_map, List.getElem?_eq_getElem kept_bound,
    Option.map_some, Option.some.injEq]

theorem indexOf_eq_ok_iff {name signature : String} {index : Nat} :
    interface.indexOf name signature = .ok index ↔
      interface.methods.findIdx? (isOverload name signature) = some index := by
  rw [indexOf]
  cases interface.methods.findIdx? (isOverload name signature) <;> simp

theorem Lists.indexOf_eq_ok_iff (lists : interface.Lists kept) {name signature : String}
    {index : Nat} :
    interface.indexOf name signature = .ok index ↔
      (kept.map Declared.source)[index]? = some (name, signature) := by
  rw [Interface.indexOf_eq_ok_iff, List.findIdx?_eq_some_iff_getElem]
  constructor
  · rintro ⟨bound, found, _⟩
    exact (lists.isOverload_getElem_iff name signature bound).mp found
  · intro isSource
    have bound : index < interface.methods.length := by
      have listed := (List.getElem?_eq_some_iff.mp isSource).1
      rwa [lists.methods, List.length_map, ← kept.length_map Declared.source]
    refine ⟨bound, (lists.isOverload_getElem_iff name signature bound).mpr isSource, ?_⟩
    intro earlier isEarlier found
    -- an earlier match would be a second method read from the same texts
    have isToo := (lists.isOverload_getElem_iff name signature (Nat.lt_trans isEarlier bound)).mp
      found
    have same : earlier = index :=
      (List.getElem?_inj (List.getElem?_eq_some_iff.mp isToo).1 lists.distinct).mp
        (isToo.trans isSource.symm)
    omega

theorem Lists.indexOf_of_notMem (lists : interface.Lists kept) {name signature : String}
    (unknown : (name, signature) ∉ kept.map Declared.source) :
    interface.indexOf name signature =
      .error (.unknownMethod interface.name (name ++ signature)) := by
  have unfound : interface.methods.findIdx? (isOverload name signature) = none := by
    rw [List.findIdx?_eq_none_iff, lists.methods]
    intro method isMethod
    rcases List.mem_map.mp isMethod with ⟨declared, isKept, rfl⟩
    rw [Bool.eq_false_iff, Ne, declared.isOverload_iff]
    intro same
    exact unknown (same ▸ List.mem_map_of_mem isKept)
  rw [indexOf, unfound]

/-- An interface that was put together from methods read from texts holds the accepted ones in
order, refuses exactly the methods whose texts it has, and finds a method by its texts, at its own
index, and by no other texts. -/
theorem Assembled.lookup_exact {name : String} {namespaceName : Option String}
    (assembled : Assembled { name, namespaceName } kept interface) :
    interface.methods = kept.map Declared.method ∧
    (∀ declared : Declared, interface.add declared.method =
      if declared.source ∈ kept.map Declared.source then
        .error (.config (name ++ ": duplicate method " ++
          (declared.source.1 ++ declared.source.2)))
      else .ok { interface with methods := interface.methods ++ [declared.method] }) ∧
    (∀ methodName signature index, interface.indexOf methodName signature = .ok index ↔
      index < interface.size ∧ ∃ declared, kept[index]? = some declared ∧
        declared.method.name = methodName ∧ declared.source.2 = signature) ∧
    ∀ methodName signature,
      (∀ index, interface.indexOf methodName signature ≠ .ok index) →
        interface.indexOf methodName signature =
          .error (.unknownMethod name (methodName ++ signature)) := by
  have lists : interface.Lists kept := assembled.lists rfl
  have sameName : interface.name = name := assembled.name_eq
  refine ⟨lists.methods, ?additions, ?found, ?unknown⟩
  case additions =>
    intro declared
    rw [lists.add_eq, sameName]
  case found =>
    intro methodName signature index
    rw [lists.indexOf_eq_ok_iff, List.getElem?_map, Option.map_eq_some_iff]
    constructor
    · rintro ⟨declared, isKept, isSource⟩
      have bound : index < interface.size := by
        rw [size, lists.methods, List.length_map]
        exact (List.getElem?_eq_some_iff.mp isKept).1
      exact ⟨bound, declared, isKept, by rw [declared.name_eq, isSource], by rw [isSource]⟩
    · rintro ⟨_, declared, isKept, isName, isText⟩
      exact ⟨declared, isKept, Prod.ext (declared.name_eq ▸ isName) isText⟩
  case unknown =>
    intro methodName signature unfound
    rw [← sameName]
    apply lists.indexOf_of_notMem
    intro known
    rcases List.getElem?_of_mem known with ⟨index, isSource⟩
    exact unfound index (lists.indexOf_eq_ok_iff.mpr isSource)

/-- The method `find` with one parameter of a primitive type. -/
def Declared.find (type : Primitive) (isField : type ≠ .void) : Declared where
  method := .ofSelector ⟨"find", ⟨[.primitive type], .primitive .void⟩⟩
  source := ("find", Signature.text ⟨[.primitive type], .primitive .void⟩)
  read := Selector.parse_eq_ok.mpr
    ⟨rfl, ⟨List.forall_mem_singleton.mpr isField, .inl rfl⟩, rfl⟩

/-- The interface with the overloads of `find` for `int` and `long`. -/
def finding : Interface where
  name := "Finding"
  methods := [(Declared.find .int (by decide)).method, (Declared.find .long (by decide)).method]

theorem finding_lookup_exact :
    finding.indexOf "find" "(J)V" = .ok 1 ∧
      finding.add (Declared.find .int (by decide)).method =
        .error (.config "Finding: duplicate method find(I)V") := by
  -- the first overload is added once more, and refused
  have again : finding.add (Declared.find .int (by decide)).method = .error _ := rfl
  have assembled : Assembled { name := "Finding", namespaceName := none }
      [.find .int (by decide), .find .long (by decide)] finding :=
    .refused (.accepted (.accepted .start rfl) rfl) again
  rcases assembled.lookup_exact with ⟨_, additions, found, _⟩
  refine ⟨(found "find" "(J)V" 1).mpr ⟨by decide, _, rfl, rfl, rfl⟩, ?_⟩
  rw [additions, if_pos (by decide)]
  rfl

end Interface

end NativeProxy
