import NativeProxy.Proofs.Signature.RoundTrip

/-!
# Where a signature ends

The text of a signature says itself where it ends. Cut off anywhere before, it makes the reader
that was at work miss the rest, and with anything behind it the readers stop at its end and leave
the rest over. Each reader is followed through a cut of what it reads: the cut either falls into
the first thing the reader reads or comes after it.
-/

namespace NativeProxy

namespace Signature

/-- What a reader reports that came to the end of a text too soon. -/
def Defect.isOfEnd : Defect → Bool
  | unterminatedParameterList => true
  | unterminatedClassName => true
  | unexpectedEnd => true
  | _ => false

theorem Defect.reason_of_isOfEnd {defect : Defect} (ofEnd : defect.isOfEnd = true) :
    defect.reason ∈ ["unterminated parameter list", "unterminated class name",
      "unexpected end of signature"] := by
  unfold isOfEnd at ofEnd
  split at ofEnd
  · simp [reason]
  · simp [reason]
  · simp [reason]
  · cases ofEnd

/-- A cut of two texts in a row falls into the first of them or comes after it. -/
theorem cut_cases {first second before after : List Char}
    (cut : first ++ second = before ++ after) :
    (∃ missing, missing ≠ [] ∧ first = before ++ missing) ∨
      ∃ rest, before = first ++ rest ∧ second = rest ++ after := by
  rcases List.append_eq_append_iff.mp cut with ⟨rest, whole, left⟩ | ⟨missing, whole, left⟩
  · exact .inr ⟨rest, whole, left⟩
  · by_cases nothing : missing = []
    · subst nothing
      exact .inr ⟨[], by simpa using whole.symm, by simpa using left.symm⟩
    · exact .inl ⟨missing, nothing, whole⟩

/-- What is cut off from a single character leaves nothing. -/
theorem nil_of_cut {c : Char} {before after : List Char} (cut : [c] = before ++ after)
    (more : after ≠ []) : before = [] := by
  rcases List.singleton_eq_append_iff.mp cut with ⟨nothing, _⟩ | ⟨_, nothing⟩
  · exact nothing
  · exact absurd nothing more

/-! ## Field types -/

theorem splitAtSemicolon_of_free {name : List Char} (free : ∀ c ∈ name, c ≠ ';') :
    splitAtSemicolon name = none := by
  induction name with
  | nil => rfl
  | cons c name ih =>
      have here : c ≠ ';' := free c List.mem_cons_self
      have later := ih fun other mem => free other (List.mem_cons_of_mem c mem)
      simp [splitAtSemicolon, here, later]

/-- A class name holds no semicolon, so a part of it has no end. -/
theorem readClassName_of_cut {className : String}
    (field : (Descriptor.object className).IsField) {before after : List Char}
    (cut : className.toList ++ [';'] = before ++ after) (more : after ≠ []) :
    readClassName before = .error .unterminatedClassName := by
  have part : ∃ missing, className.toList = before ++ missing := by
    rcases cut_cases cut with ⟨missing, _, whole⟩ | ⟨rest, whole, left⟩
    · exact ⟨missing, whole⟩
    · rw [nil_of_cut left more, List.append_nil] at whole
      exact ⟨[], by rw [whole, List.append_nil]⟩
  rcases part with ⟨missing, whole⟩
  have free : ∀ c ∈ before, c ≠ ';' := by
    intro c mem
    apply ne_semicolon_of_isNameChar
    apply List.all_eq_true.mp field.2
    rw [whole]
    exact List.mem_append_left missing mem
  rw [readClassName, splitAtSemicolon_of_free free]

theorem readField_of_cut {type : Descriptor} (field : type.IsField) {before after : List Char}
    (cut : type.render = before ++ after) (more : after ≠ []) :
    ∃ defect, readField before = .error defect ∧ defect.isOfEnd = true := by
  cases before with
  | nil => exact ⟨.unexpectedEnd, rfl, rfl⟩
  | cons c before =>
      induction type generalizing c before with
      | primitive type => exact absurd (nil_of_cut cut more) (by simp)
      | object className =>
          simp only [Descriptor.render, List.cons_append, List.cons.injEq] at cut
          rcases cut with ⟨rfl, cut⟩
          have noLetter : fieldLetter? 'L' = none := rfl
          refine ⟨.unterminatedClassName, ?_, rfl⟩
          simp [readField, noLetter, readClassName_of_cut field cut more, bind, Except.bind]
      | array element ih =>
          simp only [Descriptor.render, List.cons_append, List.cons.injEq] at cut
          rcases cut with ⟨rfl, cut⟩
          have noLetter : fieldLetter? '[' = none := rfl
          cases before with
          | nil =>
              refine ⟨.unexpectedEnd, ?_, rfl⟩
              simp [readField, noLetter, bind, Except.bind]
          | cons next before =>
              rcases ih field next before cut with ⟨defect, failed, ofEnd⟩
              refine ⟨defect, ?_, ofEnd⟩
              rw [readField, noLetter]
              simp [failed, bind, Except.bind]

/-! ## Parameters and results -/

theorem readParams_of_readField_error {c : Char} {text : List Char} {defect : Defect}
    (notClosing : c ≠ ')') (failed : readField (c :: text) = .error defect) :
    readParams (c :: text) = .error defect := by
  rw [readParams]
  · simp [failed, bind, Except.bind]
  · exact notClosing

theorem readParams_of_cut {params : List Descriptor} (fields : ∀ type ∈ params, type.IsField)
    {before after : List Char}
    (cut : params.flatMap Descriptor.render ++ [')'] = before ++ after) (more : after ≠ []) :
    ∃ defect, readParams before = .error defect ∧ defect.isOfEnd = true := by
  induction params generalizing before with
  | nil =>
      rw [nil_of_cut cut more]
      exact ⟨.unterminatedParameterList, by rw [readParams], rfl⟩
  | cons type params ih =>
      have field : type.IsField := fields type List.mem_cons_self
      rcases render_eq_cons field with ⟨first, others, starts, notClosing⟩
      rw [List.flatMap_cons, List.append_assoc] at cut
      rcases cut_cases cut with ⟨missing, present, whole⟩ | ⟨rest, rfl, left⟩
      · cases before with
        | nil => exact ⟨.unterminatedParameterList, by rw [readParams], rfl⟩
        | cons c before =>
            rcases readField_of_cut field whole present with ⟨defect, failed, ofEnd⟩
            rw [starts, List.cons_append, List.cons.injEq] at whole
            refine ⟨defect, readParams_of_readField_error ?_ failed, ofEnd⟩
            rw [← whole.1]
            exact notClosing
      · rcases ih (fun other mem => fields other (List.mem_cons_of_mem type mem)) left with
          ⟨defect, failed, ofEnd⟩
        rcases readField_render_append field rest with ⟨shorter, read⟩
        refine ⟨defect, ?_, ofEnd⟩
        rw [readParams_of_readField _ read, failed]
        · rfl
        · intro tail
          simp [starts, notClosing]

theorem readResult_of_cut {type : Descriptor} (returned : type.IsReturn)
    {before after : List Char} (cut : type.render = before ++ after) (more : after ≠ []) :
    ∃ defect, readResult before = .error defect ∧ defect.isOfEnd = true := by
  rcases returned with rfl | field
  · rw [nil_of_cut cut more]
    exact ⟨.unexpectedEnd, rfl, rfl⟩
  · rcases readField_of_cut field cut more with ⟨defect, failed, ofEnd⟩
    refine ⟨defect, ?_, ofEnd⟩
    unfold readResult
    split
    · next tail =>
        -- A part of a field type never begins like `void`.
        have isVoid : readField ('V' :: tail) = .error .misplacedVoid := rfl
        rw [isVoid, Except.error.injEq] at failed
        rw [← failed] at ofEnd
        cases ofEnd
    · simp [failed, bind, Except.bind]

/-! ## Signatures -/

variable {signature : Signature}

theorem read_of_cut (wellFormed : signature.WellFormed) {c : Char} {before after : List Char}
    (cut : signature.render = (c :: before) ++ after) (more : after ≠ []) :
    ∃ defect, read (c :: before) = .error defect ∧ defect.isOfEnd = true := by
  rcases wellFormed with ⟨fields, returned⟩
  rw [render, List.cons_append, List.cons_append, List.cons.injEq] at cut
  rcases cut with ⟨rfl, cut⟩
  rw [List.append_cons] at cut
  rcases cut_cases cut with ⟨missing, present, whole⟩ | ⟨rest, rfl, left⟩
  · rcases readParams_of_cut fields whole present with ⟨defect, failed, ofEnd⟩
    refine ⟨defect, ?_, ofEnd⟩
    simp [read, failed, bind, Except.bind]
  · rcases readResult_of_cut returned left more with ⟨defect, failed, ofEnd⟩
    have params := readParams_render_append fields rest
    refine ⟨defect, ?_, ofEnd⟩
    rw [← List.append_cons]
    simp [read, params, failed, bind, Except.bind]

theorem read_render_append (wellFormed : signature.WellFormed) {more : List Char}
    (present : more ≠ []) : read (signature.render ++ more) = .error .trailingCharacters := by
  rcases wellFormed with ⟨fields, returned⟩
  have params := readParams_render_append fields (signature.result.render ++ more)
  have result := readResult_render_append returned more
  have notEmpty : more.isEmpty = false := by simpa using present
  simp [read, render, params, result, notEmpty, bind, Except.bind]

theorem parse_eq_error {text : String} {defect : Defect}
    (failed : read text.toList = .error defect) :
    parse text = .error (.malformedSignature text defect.reason) := by
  rw [parse, failed]
  rfl

/-- An accepted text is accepted as a whole only: any part of it from its start misses the rest, and
with anything behind it the rest is left over. So no other accepted text begins with it. -/
theorem parse_whole_only {text : String} (accepted : parse text = .ok signature) :
    (∀ before after : String, after ≠ "" → before ++ after = text →
      ∃ reason, parse before = .error (.malformedSignature before reason) ∧
        (before = "" → reason = "expected '('") ∧
        (before ≠ "" → reason ∈ ["unterminated parameter list", "unterminated class name",
          "unexpected end of signature"])) ∧
    (∀ more : String, more ≠ "" → parse (text ++ more) =
      .error (.malformedSignature (text ++ more) "trailing characters after return type")) ∧
    ∀ (more : String) (other : Signature), parse (text ++ more) = .ok other → more = "" := by
  rw [parse_eq_ok, read_eq_ok_iff] at accepted
  rcases accepted with ⟨wellFormed, whole⟩
  have extended : ∀ more : String, more ≠ "" → parse (text ++ more) =
      .error (.malformedSignature (text ++ more) "trailing characters after return type") := by
    intro more present
    have left : more.toList ≠ [] := by simpa using present
    have failed : read (text ++ more).toList = .error .trailingCharacters := by
      rw [String.toList_append, ← whole]
      exact read_render_append wellFormed left
    exact parse_eq_error failed
  refine ⟨?cut, extended, ?only⟩
  case cut =>
    rintro before after present rfl
    have missing : after.toList ≠ [] := by simpa using present
    rw [String.toList_append] at whole
    cases start : before.toList with
    | nil =>
        have nothing : before = "" := by simpa using start
        subst nothing
        exact ⟨_, parse_eq_error rfl, fun _ => rfl, fun given => absurd rfl given⟩
    | cons c rest =>
        rw [start] at whole
        rcases read_of_cut wellFormed whole missing with ⟨defect, failed, ofEnd⟩
        rw [← start] at failed
        refine ⟨defect.reason, parse_eq_error failed, ?_, fun _ => defect.reason_of_isOfEnd ofEnd⟩
        rintro rfl
        cases start
  case only =>
    intro more other accepted
    by_cases nothing : more = ""
    · exact nothing
    · rw [extended more nothing] at accepted
      cases accepted

/-- Takes a class and an array. -/
def listing : Signature :=
  ⟨[.object "java/lang/String", .array (.primitive .int)], .primitive .void⟩

theorem parse_whole_listing_only :
    parse "(Ljava/lang/String;[I)V" = .ok listing ∧
      (∃ reason, parse "(Ljava/lang" = .error (.malformedSignature "(Ljava/lang" reason) ∧
        reason ∈ ["unterminated parameter list", "unterminated class name",
          "unexpected end of signature"]) ∧
      parse "(Ljava/lang/String;[I)V;)" =
        .error (.malformedSignature "(Ljava/lang/String;[I)V;)"
          "trailing characters after return type") := by
  have wellFormed : listing.WellFormed := by
    refine ⟨?_, .inl rfl⟩
    intro type among
    simp only [listing, List.mem_cons, List.not_mem_nil, or_false] at among
    rcases among with rfl | rfl
    · exact ⟨by decide, by decide⟩
    · exact Primitive.noConfusion
  have accepted : parse "(Ljava/lang/String;[I)V" = .ok listing := by
    rw [parse_eq_ok, read_eq_ok_iff]
    exact ⟨wellFormed, by decide⟩
  rcases parse_whole_only accepted with ⟨cut, extended, _⟩
  rcases cut "(Ljava/lang" "/String;[I)V" (by decide) (by decide) with
    ⟨reason, failed, _, ofEnd⟩
  exact ⟨accepted, ⟨reason, failed, ofEnd (by decide)⟩, extended ";)" (by decide)⟩

end Signature

end NativeProxy
