import NativeProxy.Proofs.Signature.RoundTrip

/-!
# Keys of overloads

A key writes letters and an underscore for the punctuation of a signature, and class names may
hold these as well. Two kinds of signatures share a key: those that differ in a slash and an
underscore of a class name only, and those where an `E` in a class name can be taken for the end of
the name. Without names of the second kind the key tells everything but the slashes.

The closing parenthesis becomes the letter of the type `char`, so a key is read as the parameters,
a `char` and the result, one type after the other. Only the end of a class name could be mistaken.
-/

namespace NativeProxy

/-! ## Class names that hide an end -/

namespace Selector

/-- The character that a slash in a class name shares its key with. -/
def unslash (c : Char) : Char :=
  if c = '/' then '_' else c

/-- Whether a letter of a key can stand for a primitive type or begin an array type. -/
def isTypeLetter (c : Char) : Bool :=
  (Signature.fieldLetter? c).isSome || c == 'A'

/-- Whether a part of a key can be read as types up to the start of a class name. -/
def opensClass : List Char → Bool
  | [] => false
  | c :: rest => c == 'L' || isTypeLetter c && opensClass rest

/-- Whether an `E` can be read as the end of a class name, with another class name behind it. -/
def hidesEnd : List Char → Bool
  | [] => false
  | c :: rest => c == 'E' && opensClass rest || hidesEnd rest

theorem keyChar_eq_unslash {c : Char} (legal : Descriptor.isNameChar c = true) :
    keyChar c = unslash c := by
  by_cases slash : c = '/'
  · subst slash
    rfl
  · unfold keyChar
    split <;> simp_all [Descriptor.isNameChar, unslash]

theorem keyChar_unslash (c : Char) : keyChar (unslash c) = keyChar c := by
  by_cases slash : c = '/' <;> simp [unslash, slash, keyChar]

theorem opensClass_unslash (text : List Char) :
    opensClass (text.map unslash) = opensClass text := by
  induction text with
  | nil => rfl
  | cons c text ih =>
      by_cases slash : c = '/'
      · subst slash
        rfl
      · simp [opensClass, unslash, slash, ih]

theorem hidesEnd_unslash (text : List Char) : hidesEnd (text.map unslash) = hidesEnd text := by
  induction text with
  | nil => rfl
  | cons c text ih =>
      have same := opensClass_unslash text
      by_cases slash : c = '/' <;> simp [hidesEnd, unslash, slash, ih, same]

theorem hidesEnd_append (before : List Char) {after : List Char}
    (opens : opensClass after = true) : hidesEnd (before ++ 'E' :: after) = true := by
  induction before with
  | nil => simp [hidesEnd, opens]
  | cons c before ih => simp [hidesEnd, ih]

end Selector

open Selector

theorem Primitive.letter_inj {type other : Primitive} (same : type.letter = other.letter) :
    type = other := by
  cases type <;> cases other <;> first | rfl | simp [letter] at same

namespace Descriptor

/-- No end is hidden in a class name. The first character of a name is never taken for its end. -/
def IsPlain : Descriptor → Prop
  | primitive _ => True
  | object className => hidesEnd className.toList.tail = false
  | array element => element.IsPlain

/-- The characters of the type in a key. -/
def keyed (type : Descriptor) : List Char :=
  type.render.map keyChar

/-- The characters of the type, with underscores for slashes. -/
def unslashed (type : Descriptor) : List Char :=
  type.render.map unslash

theorem keyed_primitive (type : Primitive) : (primitive type).keyed = [type.letter] := by
  cases type <;> rfl

theorem keyed_object {className : String} (field : (object className).IsField) :
    (object className).keyed = 'L' :: className.toList.map unslash ++ ['E'] := by
  have legal := List.all_eq_true.mp field.2
  simp only [keyed, render, List.map_append, List.map_cons, List.map_nil]
  rw [List.map_congr_left fun c listed => keyChar_eq_unslash (legal c listed)]
  rfl

theorem keyed_array (element : Descriptor) : (array element).keyed = 'A' :: element.keyed := rfl

theorem keyed_ne_nil (type : Descriptor) : type.keyed ≠ [] := by
  cases type <;> simp [keyed, render]

/-- What can follow a type in a key: up to any `E` it is read as types and the start of a class. -/
def IsSequel (rest : List Char) : Prop :=
  ∀ before after, rest = before ++ 'E' :: after → opensClass before = true

theorem isSequel_nil : IsSequel [] := by
  intro before after split
  simp at split

theorem isSequel_keyed {type : Descriptor} (field : type.IsField) {rest : List Char}
    (sequel : IsSequel rest) : IsSequel (type.keyed ++ rest) := by
  induction type with
  | primitive type =>
      intro before after split
      have known : isTypeLetter type.letter = true := by
        simp [isTypeLetter, Primitive.fieldLetter?_letter field]
      rw [keyed_primitive] at split
      cases before with
      | nil => cases type <;> simp [Primitive.letter] at split
      | cons c before =>
          simp only [List.cons_append, List.nil_append, List.cons.injEq] at split
          rcases split with ⟨rfl, split⟩
          simp [opensClass, known, sequel before after split]
  | object className =>
      intro before after split
      rw [keyed_object field] at split
      cases before with
      | nil => simp at split
      | cons c before =>
          simp only [List.cons_append, List.cons.injEq] at split
          rcases split with ⟨rfl, _⟩
          rfl
  | array element ih =>
      intro before after split
      rw [keyed_array] at split
      cases before with
      | nil => simp at split
      | cons c before =>
          simp only [List.cons_append, List.cons.injEq] at split
          rcases split with ⟨rfl, split⟩
          have opens := ih field before after split
          simp [opensClass, isTypeLetter, opens]

theorem isSequel_result {type : Descriptor} (returned : type.IsReturn) : IsSequel type.keyed := by
  rcases returned with rfl | field
  · intro before after split
    rw [keyed_primitive] at split
    cases before <;> simp [Primitive.letter] at split
  · have sequel := isSequel_keyed field isSequel_nil
    rwa [List.append_nil] at sequel

theorem isSequel_types {types : List Descriptor} (fields : ∀ type ∈ types, type.IsField)
    {rest : List Char} (sequel : IsSequel rest) : IsSequel (types.flatMap keyed ++ rest) := by
  induction types with
  | nil => exact sequel
  | cons type types ih =>
      rw [List.flatMap_cons, List.append_assoc]
      apply isSequel_keyed (fields type List.mem_cons_self)
      exact ih fun other listed => fields other (List.mem_cons_of_mem type listed)

/-! ## Reading a key -/

/-- A class name does not go on where another one ends. -/
theorem plain_ends_here {name shorter longer rest : List Char}
    (plain : hidesEnd name.tail = false) (given : shorter ≠ [])
    (begins : name.map unslash = shorter ++ longer) (sequel : IsSequel rest)
    {after : List Char} (split : 'E' :: rest = longer ++ 'E' :: after) : longer = [] := by
  cases longer with
  | nil => rfl
  | cons c longer =>
      simp only [List.cons_append, List.cons.injEq] at split
      rcases split with ⟨rfl, split⟩
      cases shorter with
      | nil => exact absurd rfl given
      | cons first shorter =>
          have hidden := hidesEnd_append shorter (sequel longer after split)
          have tail := congrArg List.tail begins
          rw [List.cons_append, List.tail_cons] at tail
          rw [← tail, ← List.map_tail, hidesEnd_unslash, plain] at hidden
          exact absurd hidden (by simp)

/-- Two class names that begin the same key end at the same place. -/
theorem className_keyed_inj {name other rest otherRest : List Char} (given : name ≠ [])
    (otherGiven : other ≠ []) (plain : hidesEnd name.tail = false)
    (otherPlain : hidesEnd other.tail = false) (sequel : IsSequel rest)
    (otherSequel : IsSequel otherRest)
    (same : name.map unslash ++ 'E' :: rest = other.map unslash ++ 'E' :: otherRest) :
    name.map unslash = other.map unslash ∧ rest = otherRest := by
  rcases List.append_eq_append_iff.mp same with
    ⟨longer, begins, split⟩ | ⟨longer, begins, split⟩
  · have ended := plain_ends_here otherPlain (by simpa using given) begins sequel split
    subst ended
    simp_all
  · have ended := plain_ends_here plain (by simpa using otherGiven) begins otherSequel split
    subst ended
    simp_all

theorem isField_of_isReturn {type : Descriptor} (reference : type.isReference = true)
    (returned : type.IsReturn) : type.IsField := by
  rcases returned with rfl | field
  · simp at reference
  · exact field

/-- The first type of a key can be read from it, up to its slashes. -/
theorem keyed_append_inj {type other : Descriptor} (returned : type.IsReturn)
    (otherReturned : other.IsReturn) (plain : type.IsPlain) (otherPlain : other.IsPlain)
    {rest otherRest : List Char} (sequel : IsSequel rest) (otherSequel : IsSequel otherRest)
    (same : type.keyed ++ rest = other.keyed ++ otherRest) :
    type.unslashed = other.unslashed ∧ rest = otherRest := by
  induction type generalizing other with
  | primitive type =>
      cases other with
      | primitive other =>
          simp only [keyed_primitive, List.cons_append, List.nil_append, List.cons.injEq] at same
          exact ⟨by rw [Primitive.letter_inj same.1], same.2⟩
      | object className =>
          rw [keyed_primitive, keyed_object (isField_of_isReturn rfl otherReturned)] at same
          cases type <;> simp [Primitive.letter] at same
      | array element =>
          rw [keyed_primitive, keyed_array] at same
          cases type <;> simp [Primitive.letter] at same
  | object className =>
      have field := isField_of_isReturn rfl returned
      cases other with
      | primitive other =>
          rw [keyed_primitive, keyed_object field] at same
          cases other <;> simp [Primitive.letter] at same
      | object otherName =>
          have otherField := isField_of_isReturn rfl otherReturned
          have given : className.toList ≠ [] := by simpa using field.1
          have otherGiven : otherName.toList ≠ [] := by simpa using otherField.1
          rw [keyed_object field, keyed_object otherField] at same
          simp only [List.cons_append, List.append_assoc, List.nil_append, List.cons.injEq,
            true_and] at same
          rcases className_keyed_inj given otherGiven plain otherPlain sequel otherSequel same with
            ⟨sameName, sameRest⟩
          exact ⟨by simp [unslashed, render, sameName], sameRest⟩
      | array element =>
          rw [keyed_object field, keyed_array] at same
          simp at same
  | array element ih =>
      have field : (array element).IsField := isField_of_isReturn rfl returned
      cases other with
      | primitive other =>
          rw [keyed_primitive, keyed_array] at same
          cases other <;> simp [Primitive.letter] at same
      | object className =>
          rw [keyed_object (isField_of_isReturn rfl otherReturned), keyed_array] at same
          simp at same
      | array otherElement =>
          have otherField : (array otherElement).IsField := isField_of_isReturn rfl otherReturned
          simp only [keyed_array, List.cons_append, List.cons.injEq, true_and] at same
          have otherReturns : otherElement.IsReturn := .inr otherField
          rcases ih (.inr field) otherReturns plain otherPlain same with ⟨sameElement, sameRest⟩
          exact ⟨congrArg (unslash '[' :: ·) sameElement, sameRest⟩

end Descriptor

namespace Signature

open Descriptor

/-- No end is hidden in a class name. -/
def IsPlain (signature : Signature) : Prop :=
  (∀ type ∈ signature.params, type.IsPlain) ∧ signature.result.IsPlain

/-- The characters of the signature, with underscores for slashes. -/
def unslashed (signature : Signature) : List Char :=
  signature.render.map unslash

/-- The signature with a parameter of type `char` in place of the closing parenthesis. -/
def closed (signature : Signature) : Signature :=
  ⟨signature.params ++ [.primitive .char], signature.result⟩

theorem closed_wellFormed {signature : Signature} (wellFormed : signature.WellFormed) :
    signature.closed.WellFormed := by
  refine ⟨?_, wellFormed.2⟩
  intro type listed
  rcases List.mem_append.mp listed with param | closing
  · exact wellFormed.1 type param
  · rw [List.mem_singleton.mp closing]
    exact Primitive.noConfusion

theorem closed_isPlain {signature : Signature} (plain : signature.IsPlain) :
    signature.closed.IsPlain := by
  refine ⟨?_, plain.2⟩
  intro type listed
  rcases List.mem_append.mp listed with param | closing
  · exact plain.1 type param
  · rw [List.mem_singleton.mp closing]
    trivial

/-- A key reads as the types of the closed signature. -/
theorem render_keyed (signature : Signature) :
    signature.render.map keyChar =
      'O' :: (signature.closed.params.flatMap keyed ++ signature.closed.result.keyed) := by
  have types : (signature.params.flatMap Descriptor.render).map keyChar =
      signature.params.flatMap keyed := List.map_flatMap
  simp [render, types, closed, keyed, Descriptor.render, Primitive.letter, keyChar]

theorem unslashed_eq (signature : Signature) :
    signature.unslashed =
      '(' :: ((signature.params.map Descriptor.unslashed).flatten ++
        ')' :: signature.result.unslashed) := by
  have types : (signature.params.flatMap Descriptor.render).map unslash =
      (signature.params.map Descriptor.unslashed).flatten := List.map_flatMap
  simp [unslashed, render, types, Descriptor.unslashed, unslash]

/-- A result is not the first of several types. -/
theorem keyed_result_ne {type other : Descriptor} {params : List Descriptor}
    {result : Descriptor} (returned : other.IsReturn) (otherPlain : other.IsPlain)
    (field : type.IsField) (plain : type.IsPlain) (fields : ∀ type ∈ params, type.IsField)
    (resultReturned : result.IsReturn) :
    other.keyed ≠ (type :: params).flatMap keyed ++ result.keyed := by
  intro same
  rw [List.flatMap_cons, List.append_assoc] at same
  have sequel := isSequel_types fields (isSequel_result resultReturned)
  have whole : other.keyed ++ [] = type.keyed ++ (params.flatMap keyed ++ result.keyed) := by
    rw [List.append_nil, same]
  have nothing := (keyed_append_inj returned (.inr field) otherPlain plain isSequel_nil sequel
    whole).2
  exact keyed_ne_nil result (List.append_eq_nil_iff.mp nothing.symm).2

/-- The types of a key can be read from it, up to their slashes. -/
theorem types_keyed_inj {params otherParams : List Descriptor} {result otherResult : Descriptor}
    (formed : WellFormed ⟨params, result⟩) (otherFormed : WellFormed ⟨otherParams, otherResult⟩)
    (plain : IsPlain ⟨params, result⟩) (otherPlain : IsPlain ⟨otherParams, otherResult⟩)
    (same : params.flatMap keyed ++ result.keyed =
      otherParams.flatMap keyed ++ otherResult.keyed) :
    params.map Descriptor.unslashed = otherParams.map Descriptor.unslashed ∧
      result.unslashed = otherResult.unslashed := by
  rcases formed with ⟨fields, returned⟩
  rcases otherFormed with ⟨otherFields, otherReturned⟩
  rcases plain with ⟨plainParams, plainResult⟩
  rcases otherPlain with ⟨otherPlainParams, otherPlainResult⟩
  dsimp only at *
  induction params generalizing otherParams with
  | nil =>
      cases otherParams with
      | nil =>
          rw [List.flatMap_nil, List.nil_append, List.nil_append, ← List.append_nil result.keyed,
            ← List.append_nil otherResult.keyed] at same
          exact ⟨rfl, (keyed_append_inj returned otherReturned plainResult otherPlainResult
            isSequel_nil isSequel_nil same).1⟩
      | cons other otherParams =>
          simp only [List.forall_mem_cons] at otherFields otherPlainParams
          exact absurd same (keyed_result_ne returned plainResult otherFields.1
            otherPlainParams.1 otherFields.2 otherReturned)
  | cons type params ih =>
      simp only [List.forall_mem_cons] at fields plainParams
      cases otherParams with
      | nil =>
          exact absurd same.symm (keyed_result_ne otherReturned otherPlainResult fields.1
            plainParams.1 fields.2 returned)
      | cons other otherParams =>
          simp only [List.forall_mem_cons] at otherFields otherPlainParams
          simp only [List.flatMap_cons, List.append_assoc] at same
          rcases keyed_append_inj (.inr fields.1) (.inr otherFields.1) plainParams.1
            otherPlainParams.1 (isSequel_types fields.2 (isSequel_result returned))
            (isSequel_types otherFields.2 (isSequel_result otherReturned)) same with
            ⟨sameType, sameRest⟩
          rcases ih sameRest fields.2 otherFields.2 plainParams.2 otherPlainParams.2 with
            ⟨sameParams, sameResult⟩
          exact ⟨by rw [List.map_cons, List.map_cons, sameType, sameParams], sameResult⟩

/-- Two signatures without hidden ends that share their characters in a key differ in slashes. -/
theorem unslashed_of_keyed {left right : Signature} (leftFormed : left.WellFormed)
    (rightFormed : right.WellFormed) (leftPlain : left.IsPlain) (rightPlain : right.IsPlain)
    (same : left.render.map keyChar = right.render.map keyChar) :
    left.unslashed = right.unslashed := by
  rw [render_keyed, render_keyed, List.cons.injEq] at same
  rcases types_keyed_inj (closed_wellFormed leftFormed) (closed_wellFormed rightFormed)
    (closed_isPlain leftPlain) (closed_isPlain rightPlain) same.2 with ⟨sameParams, sameResult⟩
  simp only [List.map_append, List.append_cancel_right_eq] at sameParams sameResult
  rw [unslashed_eq, unslashed_eq, sameParams, sameResult]

theorem keyed_of_unslashed {left right : Signature} (same : left.unslashed = right.unslashed) :
    left.render.map keyChar = right.render.map keyChar := by
  have through (signature : Signature) :
      signature.render.map keyChar = signature.unslashed.map keyChar := by
    simp [unslashed, Function.comp_def, keyChar_unslash]
  rw [through, through, same]

theorem parse_of_render {text : String} {signature : Signature}
    (formed : signature.WellFormed) (spelled : signature.render = text.toList) :
    parse text = .ok signature := by
  rw [parse_eq_ok, read_eq_ok_iff]
  exact ⟨formed, spelled⟩

end Signature

/-! ## Overloads -/

namespace Selector

theorem key_eq_iff_keyed {name : String} {left right : Signature} :
    (⟨name, left⟩ : Selector).key = (⟨name, right⟩ : Selector).key ↔
      left.render.map keyChar = right.render.map keyChar := by
  rw [key, key, String.append_right_inj, String.ofList_inj]

/-- Without underscores, what differs in slashes only does not differ. -/
theorem unslash_inj {text other : List Char} (free : '_' ∉ text) (otherFree : '_' ∉ other)
    (same : text.map unslash = other.map unslash) : text = other := by
  have restored {text : List Char} (free : '_' ∉ text) :
      (text.map unslash).map (fun c => if c = '_' then '/' else c) = text := by
    rw [List.map_map]
    conv => rhs; rw [← List.map_id text]
    apply List.map_congr_left
    intro c listed
    have kept : c ≠ '_' := fun underscore => free (underscore ▸ listed)
    by_cases slash : c = '/' <;> simp [unslash, slash, kept]
  rw [← restored free, ← restored otherFree, same]

/-- Where no class name hides an end, two overloads share a key exactly if their signatures differ
in slashes and underscores only; without underscores the keys of all signatures differ. -/
theorem key_tells_overloads_apart {first second : String} {left right : Signature}
    (readLeft : Signature.parse first = .ok left) (readRight : Signature.parse second = .ok right)
    (plainLeft : left.IsPlain) (plainRight : right.IsPlain) (name : String) :
    ((⟨name, left⟩ : Selector).key = (⟨name, right⟩ : Selector).key ↔
        first.toList.map unslash = second.toList.map unslash) ∧
      ('_' ∉ first.toList → '_' ∉ second.toList → left ≠ right →
        (⟨name, left⟩ : Selector).key ≠ (⟨name, right⟩ : Selector).key) := by
  rw [Signature.parse_eq_ok, Signature.read_eq_ok_iff] at readLeft readRight
  rcases readLeft with ⟨leftFormed, leftText⟩
  rcases readRight with ⟨rightFormed, rightText⟩
  have shared : (⟨name, left⟩ : Selector).key = (⟨name, right⟩ : Selector).key ↔
      first.toList.map unslash = second.toList.map unslash := by
    rw [key_eq_iff_keyed, ← leftText, ← rightText]
    exact ⟨Signature.unslashed_of_keyed leftFormed rightFormed plainLeft plainRight,
      Signature.keyed_of_unslashed⟩
  refine ⟨shared, ?_⟩
  intro free otherFree distinct same
  have sameText : left.render = right.render := by
    rw [leftText, rightText, unslash_inj free otherFree (shared.mp same)]
  have readBack := Signature.read_render leftFormed
  rw [sameText, Signature.read_render rightFormed, Except.ok.injEq] at readBack
  exact distinct readBack.symm

/-- Names that hide an end cannot be allowed: here the class `aECLb` reads as the class `a`, the
type `char` and the class `b`. -/
example : (⟨"f", ⟨[.object "aECLb"], .primitive .void⟩⟩ : Selector).key =
    (⟨"f", ⟨[.object "a", .primitive .char, .object "b"], .primitive .void⟩⟩ : Selector).key := by
  decide

/-- The signature of a method that takes an object of the given class and returns a text. -/
def finding (className : String) : Signature :=
  ⟨[.object className], .object Descriptor.stringClass⟩

theorem key_tells_find_apart :
    Signature.parse "(Ljava/lang/String;)Ljava/lang/String;" = .ok (finding "java/lang/String") ∧
      Signature.parse "(Ljava/awt/Color;)Ljava/lang/String;" = .ok (finding "java/awt/Color") ∧
      (⟨"find", finding "java/lang/String"⟩ : Selector).key ≠
        (⟨"find", finding "java/awt/Color"⟩ : Selector).key := by
  have formed {className : String} (field : (Descriptor.object className).IsField) :
      (finding className).WellFormed :=
    ⟨List.forall_mem_singleton.mpr field, .inr ⟨by decide, by decide⟩⟩
  have plainText : (Descriptor.object Descriptor.stringClass).IsPlain := by
    show hidesEnd Descriptor.stringClass.toList.tail = false
    decide
  have plain {className : String} (name : hidesEnd className.toList.tail = false) :
      (finding className).IsPlain :=
    ⟨List.forall_mem_singleton.mpr name, plainText⟩
  have readPath : Signature.parse "(Ljava/lang/String;)Ljava/lang/String;" =
      .ok (finding "java/lang/String") :=
    Signature.parse_of_render (formed ⟨by decide, by decide⟩) (by decide)
  have readColor : Signature.parse "(Ljava/awt/Color;)Ljava/lang/String;" =
      .ok (finding "java/awt/Color") :=
    Signature.parse_of_render (formed ⟨by decide, by decide⟩) (by decide)
  refine ⟨readPath, readColor, ?_⟩
  exact (key_tells_overloads_apart readPath readColor (plain (by decide)) (plain (by decide))
    "find").2 (by decide) (by decide) (by decide)

/-- A slash and an underscore share a key. -/
theorem key_shared_by_slash_and_underscore :
    ¬ ∀ (name first second : String) (left right : Signature),
      Signature.parse first = .ok left → Signature.parse second = .ok right → left ≠ right →
        (⟨name, left⟩ : Selector).key ≠ (⟨name, right⟩ : Selector).key := by
  intro apart
  have formed {className : String} (field : (Descriptor.object className).IsField) :
      Signature.WellFormed ⟨[.object className], .primitive .void⟩ :=
    ⟨List.forall_mem_singleton.mpr field, .inl rfl⟩
  have slash : Signature.parse "(La/b;)V" = .ok ⟨[.object "a/b"], .primitive .void⟩ :=
    Signature.parse_of_render (formed ⟨by decide, by decide⟩) (by decide)
  have underscore : Signature.parse "(La_b;)V" = .ok ⟨[.object "a_b"], .primitive .void⟩ :=
    Signature.parse_of_render (formed ⟨by decide, by decide⟩) (by decide)
  exact apart "f" _ _ _ _ slash underscore (by decide) (by decide)

end Selector

end NativeProxy
