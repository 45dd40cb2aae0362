import NativeProxy.Signature.Parser

/-!
# Reading back what is written

The reader of signatures accepts the rendered well-formed signatures and no other text. Each
reader is compared with the rendering twice: it reads a rendering with anything behind it and
stops at its end, and whatever it accepts is a rendering followed by the rest it returns. A
class name ends at the first semicolon, so neither direction depends on what the rest is.
-/

namespace NativeProxy

namespace Primitive

theorem fieldLetter?_letter {type : Primitive} (field : type ≠ .void) :
    Signature.fieldLetter? type.letter = some type := by
  cases type with
  | void => exact absurd rfl field
  | _ => rfl

end Primitive

namespace Signature

theorem letter_of_fieldLetter? {c : Char} {type : Primitive}
    (found : fieldLetter? c = some type) : type.letter = c ∧ type ≠ .void := by
  unfold fieldLetter? at found
  split at found <;> cases found <;> exact ⟨rfl, by simp⟩

/-! ## Class names -/

theorem splitAtSemicolon_append {name : List Char} (free : ∀ c ∈ name, c ≠ ';')
    (rest : List Char) :
    ∃ shorter, splitAtSemicolon (name ++ ';' :: rest) = some (name, ⟨rest, shorter⟩) := by
  induction name with
  | nil => exact ⟨by simp, by simp [splitAtSemicolon]⟩
  | cons c name ih =>
      have here : c ≠ ';' := free c List.mem_cons_self
      rcases ih fun other mem => free other (List.mem_cons_of_mem c mem) with ⟨shorter, split⟩
      refine ⟨by simp; omega, ?_⟩
      simp [splitAtSemicolon, here, split]

theorem eq_append_of_splitAtSemicolon {text name : List Char} {rest : Rest text}
    (split : splitAtSemicolon text = some (name, rest)) :
    text = name ++ ';' :: rest.1 := by
  induction text generalizing name with
  | nil => simp [splitAtSemicolon] at split
  | cons c text ih =>
      rw [splitAtSemicolon] at split
      split at split
      · next semicolon =>
          simp only [Option.some.injEq, Prod.mk.injEq] at split
          rcases split with ⟨rfl, rfl⟩
          simp [semicolon]
      · rcases Option.map_eq_some_iff.mp split with ⟨⟨before, after⟩, inner, same⟩
        simp only [Prod.mk.injEq] at same
        rcases same with ⟨rfl, rfl⟩
        simp [ih inner]

theorem ne_semicolon_of_isNameChar {c : Char} (legal : Descriptor.isNameChar c = true) :
    c ≠ ';' := by
  rintro rfl
  simp [Descriptor.isNameChar] at legal

theorem readClassName_append {className : String}
    (field : (Descriptor.object className).IsField) (rest : List Char) :
    ∃ shorter,
      readClassName (className.toList ++ ';' :: rest) = .ok (className, ⟨rest, shorter⟩) := by
  rcases field with ⟨given, legal⟩
  have free : ∀ c ∈ className.toList, c ≠ ';' := fun c mem =>
    ne_semicolon_of_isNameChar (List.all_eq_true.mp legal c mem)
  rcases splitAtSemicolon_append free rest with ⟨shorter, split⟩
  refine ⟨shorter, ?_⟩
  have notEmpty : className.toList.isEmpty = false := by simpa using given
  simp [readClassName, split, notEmpty, legal]

theorem eq_append_of_readClassName {text : List Char} {className : String} {rest : Rest text}
    (read : readClassName text = .ok (className, rest)) :
    text = className.toList ++ ';' :: rest.1 ∧ (Descriptor.object className).IsField := by
  rw [readClassName] at read
  split at read
  · exact absurd read (by simp)
  · next name after split =>
      have whole := eq_append_of_splitAtSemicolon split
      split at read
      · exact absurd read (by simp)
      · next notEmpty =>
          split at read
          · next legal =>
              simp only [Except.ok.injEq, Prod.mk.injEq] at read
              rcases read with ⟨rfl, rfl⟩
              refine ⟨by simpa using whole, ?_, by simpa using legal⟩
              simpa using notEmpty
          · exact absurd read (by simp)

/-! ## Field types -/

theorem readField_render_append {type : Descriptor} (field : type.IsField) (rest : List Char) :
    ∃ shorter, readField (type.render ++ rest) = .ok (type, ⟨rest, shorter⟩) := by
  induction type with
  | primitive type =>
      have letter := Primitive.fieldLetter?_letter field
      refine ⟨by simp [Descriptor.render], ?_⟩
      simp [Descriptor.render, readField, letter]
  | object className =>
      rcases readClassName_append field rest with ⟨shorter, read⟩
      have whole : (Descriptor.object className).render ++ rest =
          'L' :: (className.toList ++ ';' :: rest) := by
        simp [Descriptor.render]
      have noLetter : fieldLetter? 'L' = none := rfl
      rw [whole]
      refine ⟨Nat.lt_succ_of_lt shorter, ?_⟩
      simp [readField, noLetter, read, bind, Except.bind, pure, Except.pure]
  | array element ih =>
      rcases ih field with ⟨shorter, read⟩
      have noLetter : fieldLetter? '[' = none := rfl
      refine ⟨Nat.lt_succ_of_lt shorter, ?_⟩
      simp [Descriptor.render, readField, noLetter, read, bind, Except.bind, pure, Except.pure]

theorem eq_append_of_readField {text : List Char} {type : Descriptor} {rest : Rest text}
    (read : readField text = .ok (type, rest)) :
    text = type.render ++ rest.1 ∧ type.IsField := by
  induction text generalizing type with
  | nil => simp [readField] at read
  | cons c text ih =>
      rw [readField] at read
      split at read
      · next letterType found =>
          simp only [Except.ok.injEq, Prod.mk.injEq] at read
          rcases read with ⟨rfl, rfl⟩
          rcases letter_of_fieldLetter? found with ⟨same, field⟩
          exact ⟨by simp [Descriptor.render, same], field⟩
      · split at read
        · next opensClass =>
            cases name : readClassName text with
            | error defect => simp [name, bind, Except.bind] at read
            | ok named =>
                rcases named with ⟨className, after⟩
                simp only [name, bind, Except.bind, pure, Except.pure, Except.ok.injEq,
                  Prod.mk.injEq] at read
                rcases read with ⟨rfl, rfl⟩
                rcases eq_append_of_readClassName name with ⟨whole, field⟩
                exact ⟨by simp [Descriptor.render, opensClass, whole], field⟩
        · split at read
          · next opensArray =>
              cases inner : readField text with
              | error defect => simp [inner, bind, Except.bind] at read
              | ok found =>
                  rcases found with ⟨element, after⟩
                  simp only [inner, bind, Except.bind, pure, Except.pure, Except.ok.injEq,
                    Prod.mk.injEq] at read
                  rcases read with ⟨rfl, rfl⟩
                  rcases ih inner with ⟨whole, field⟩
                  refine ⟨?_, field⟩
                  simp only [Descriptor.render, List.cons_append, opensArray]
                  rw [← whole]
          · split at read <;> exact absurd read (by simp)

/-! ## Parameters and results -/

/-- The closing parenthesis starts no field type, so the reader of the parameters never takes a
type for the end of the list. -/
theorem render_eq_cons {type : Descriptor} (field : type.IsField) :
    ∃ c rest, type.render = c :: rest ∧ c ≠ ')' := by
  cases type with
  | primitive type => exact ⟨type.letter, [], rfl, by cases type <;> simp [Primitive.letter]⟩
  | object className => exact ⟨'L', className.toList ++ [';'], rfl, by simp⟩
  | array element => exact ⟨'[', element.render, rfl, by simp⟩

theorem readParams_of_readField {text : List Char} {type : Descriptor} {rest : Rest text}
    (notClosing : ∀ tail, text ≠ ')' :: tail) (read : readField text = .ok (type, rest)) :
    readParams text =
      (readParams rest.1).map fun (types, remaining) => (type :: types, remaining) := by
  cases text with
  | nil => simp [readField] at read
  | cons c text =>
      rw [readParams]
      · simp only [read, bind, Except.bind, pure, Except.pure]
        cases readParams rest.1 <;> rfl
      · intro closing
        exact notClosing text (by rw [closing])

theorem readParams_render_append {params : List Descriptor}
    (fields : ∀ type ∈ params, type.IsField) (rest : List Char) :
    readParams (params.flatMap Descriptor.render ++ ')' :: rest) = .ok (params, rest) := by
  induction params with
  | nil => simp [readParams]
  | cons type params ih =>
      have field : type.IsField := fields type List.mem_cons_self
      have others := ih fun other mem => fields other (List.mem_cons_of_mem type mem)
      rcases readField_render_append field (params.flatMap Descriptor.render ++ ')' :: rest) with
        ⟨shorter, read⟩
      have notClosing : ∀ tail,
          type.render ++ (params.flatMap Descriptor.render ++ ')' :: rest) ≠ ')' :: tail := by
        rcases render_eq_cons field with ⟨c, after, starts, notClosing⟩
        intro tail
        simp [starts, notClosing]
      rw [List.flatMap_cons, List.append_assoc, readParams_of_readField notClosing read, others]
      rfl

theorem eq_append_of_readParams {text rest : List Char} {params : List Descriptor}
    (read : readParams text = .ok (params, rest)) :
    text = params.flatMap Descriptor.render ++ ')' :: rest ∧ ∀ type ∈ params, type.IsField := by
  fun_induction readParams text generalizing params rest with
  | case1 => exact absurd read (by simp)
  | case2 text =>
      simp only [Except.ok.injEq, Prod.mk.injEq] at read
      rcases read with ⟨rfl, rfl⟩
      simp
  | case3 c text notClosing ih =>
      cases first : readField (c :: text) with
      | error defect => simp [first, bind, Except.bind] at read
      | ok found =>
          rcases found with ⟨type, after⟩
          cases later : readParams after.1 with
          | error defect => simp [first, later, bind, Except.bind] at read
          | ok others =>
              rcases others with ⟨types, remaining⟩
              simp only [first, later, bind, Except.bind, pure, Except.pure, Except.ok.injEq,
                Prod.mk.injEq] at read
              rcases read with ⟨rfl, rfl⟩
              rcases eq_append_of_readField first with ⟨whole, field⟩
              rcases ih after later with ⟨wholeRest, fields⟩
              refine ⟨?_, ?_⟩
              · rw [whole, wholeRest, List.flatMap_cons, List.append_assoc]
              · exact List.forall_mem_cons.mpr ⟨field, fields⟩

theorem readResult_of_readField {text : List Char} {type : Descriptor} {rest : Rest text}
    (read : readField text = .ok (type, rest)) : readResult text = .ok (type, rest.1) := by
  unfold readResult
  split
  · next tail =>
      have isVoid : readField ('V' :: tail) = .error .misplacedVoid := rfl
      simp [isVoid] at read
  · simp [read, bind, Except.bind, pure, Except.pure]

theorem readResult_render_append {type : Descriptor} (returned : type.IsReturn)
    (rest : List Char) : readResult (type.render ++ rest) = .ok (type, rest) := by
  rcases returned with rfl | field
  · rfl
  · rcases readField_render_append field rest with ⟨shorter, read⟩
    exact readResult_of_readField read

theorem eq_append_of_readResult {text rest : List Char} {type : Descriptor}
    (read : readResult text = .ok (type, rest)) :
    text = type.render ++ rest ∧ type.IsReturn := by
  unfold readResult at read
  split at read
  · simp only [Except.ok.injEq, Prod.mk.injEq] at read
    rcases read with ⟨rfl, rfl⟩
    exact ⟨rfl, Or.inl rfl⟩
  · cases field : readField text with
    | error defect => simp [field, bind, Except.bind] at read
    | ok found =>
        rcases found with ⟨found, after⟩
        simp only [field, bind, Except.bind, pure, Except.pure, Except.ok.injEq,
          Prod.mk.injEq] at read
        rcases read with ⟨rfl, rfl⟩
        rcases eq_append_of_readField field with ⟨whole, isField⟩
        exact ⟨whole, Or.inr isField⟩

/-! ## Signatures -/

theorem read_render {signature : Signature} (wellFormed : signature.WellFormed) :
    read signature.render = .ok signature := by
  rcases wellFormed with ⟨fields, returned⟩
  have params := readParams_render_append fields signature.result.render
  have result := readResult_render_append returned []
  rw [List.append_nil] at result
  simp [read, render, params, result, bind, Except.bind, pure, Except.pure]

theorem wellFormed_of_read {text : List Char} {signature : Signature}
    (accepted : read text = .ok signature) : text = signature.render ∧ signature.WellFormed := by
  unfold read at accepted
  split at accepted
  · next rest =>
      cases first : readParams rest with
      | error defect => simp [first, bind, Except.bind] at accepted
      | ok found =>
          rcases found with ⟨params, afterParams⟩
          cases second : readResult afterParams with
          | error defect => simp [first, second, bind, Except.bind] at accepted
          | ok returned =>
              rcases returned with ⟨result, remaining⟩
              simp only [first, second, bind, Except.bind, pure, Except.pure] at accepted
              split at accepted
              · next nothingLeft =>
                  rw [Except.ok.injEq] at accepted
                  subst accepted
                  rcases eq_append_of_readParams first with ⟨wholeParams, fields⟩
                  rcases eq_append_of_readResult second with ⟨wholeResult, isReturn⟩
                  rw [List.isEmpty_iff.mp nothingLeft, List.append_nil] at wholeResult
                  refine ⟨?_, fields, isReturn⟩
                  rw [wholeParams, wholeResult]
                  rfl
              · exact absurd accepted (by simp)
  · exact absurd accepted (by simp)

theorem read_eq_ok_iff {text : List Char} {signature : Signature} :
    read text = .ok signature ↔ signature.WellFormed ∧ signature.render = text := by
  constructor
  · intro accepted
    rcases wellFormed_of_read accepted with ⟨whole, wellFormed⟩
    exact ⟨wellFormed, whole.symm⟩
  · rintro ⟨wellFormed, rfl⟩
    exact read_render wellFormed

theorem text_eq_iff {text : String} {signature : Signature} :
    signature.text = text ↔ signature.render = text.toList := by
  constructor
  · rintro rfl
    simp [Signature.text]
  · intro same
    simp [Signature.text, same]

theorem parse_eq_ok {text : String} {signature : Signature} :
    parse text = .ok signature ↔ read text.toList = .ok signature := by
  rw [parse]
  cases read text.toList with
  | error defect => exact ⟨nofun, nofun⟩
  | ok found =>
      change (Except.ok found : Except Fault Signature) = .ok signature ↔ _
      rw [Except.ok.injEq, Except.ok.injEq]

/-- The reader accepts the texts of the well-formed signatures, reading back the signature that
was written, and refuses every other text with a fault that names the text unchanged. -/
theorem parse_accepts_exactly_texts (text : String) :
    (∀ signature, parse text = .ok signature ↔
      signature.WellFormed ∧ signature.text = text) ∧
    ((∃ signature, parse text = .ok signature) ∨
      ∃ defect : Defect, parse text = .error (.malformedSignature text defect.reason)) := by
  constructor
  · intro signature
    rw [parse_eq_ok, read_eq_ok_iff, text_eq_iff]
  · cases outcome : read text.toList with
    | ok signature => exact Or.inl ⟨signature, parse_eq_ok.mpr outcome⟩
    | error defect =>
        refine Or.inr ⟨defect, ?_⟩
        rw [parse, outcome]
        rfl

end Signature

/-- A selector keeps the name and the text it was read from. -/
theorem Selector.parse_eq_ok {name text : String} {selector : Selector} :
    parse name text = .ok selector ↔ selector.name = name ∧ selector.signature.WellFormed ∧
      selector.signature.text = text := by
  rw [parse]
  constructor
  · intro parsed
    cases reads : Signature.parse text with
    | error fault =>
        rw [reads] at parsed
        cases parsed
    | ok signature =>
        rw [reads] at parsed
        cases parsed
        rw [Signature.parse_eq_ok, Signature.read_eq_ok_iff, ← Signature.text_eq_iff] at reads
        exact ⟨rfl, reads⟩
  · rintro ⟨rfl, wellFormed, rfl⟩
    have reads : Signature.parse selector.signature.text = .ok selector.signature := by
      rw [Signature.parse_eq_ok, Signature.read_eq_ok_iff]
      exact ⟨wellFormed, Signature.text_eq_iff.mp rfl⟩
    rw [reads]
    rfl

end NativeProxy
