import NativeProxy.Text.Utf16

/-!
# Well-formed UTF-16

Units are well-formed if every surrogate belongs to a pair. `decode?` reads just these, and writing
what it read yields the same units; reading what was written for a text yields the text. So text
crosses the boundary unchanged in either direction, and the lossy reading is never used for it.
-/

namespace NativeProxy

namespace Units

/-- Every unit is a character of its own or belongs to a pair of surrogates. -/
inductive IsWellFormed : Units → Prop where
  | nil : IsWellFormed []
  | plain {unit : UInt16} {rest : Units} (notHigh : isHigh unit = false)
      (notLow : isLow unit = false) (others : IsWellFormed rest) : IsWellFormed (unit :: rest)
  | pair {high low : UInt16} {rest : Units} (opens : isHigh high = true)
      (closes : isLow low = true) (others : IsWellFormed rest) :
      IsWellFormed (high :: low :: rest)

/-! ## Surrogates as numbers -/

theorem isHigh_iff {unit : UInt16} :
    isHigh unit = true ↔ 0xD800 ≤ unit.toNat ∧ unit.toNat < 0xDC00 := by
  simp [isHigh, UInt16.le_iff_toNat_le, UInt16.lt_iff_toNat_lt]

theorem isLow_iff {unit : UInt16} :
    isLow unit = true ↔ 0xDC00 ≤ unit.toNat ∧ unit.toNat < 0xE000 := by
  simp [isLow, UInt16.le_iff_toNat_le, UInt16.lt_iff_toNat_lt]

theorem isHigh_eq_false_iff {unit : UInt16} :
    isHigh unit = false ↔ unit.toNat < 0xD800 ∨ 0xDC00 ≤ unit.toNat := by
  rw [Bool.eq_false_iff, ne_eq, isHigh_iff]
  omega

theorem isLow_eq_false_iff {unit : UInt16} :
    isLow unit = false ↔ unit.toNat < 0xDC00 ∨ 0xE000 ≤ unit.toNat := by
  rw [Bool.eq_false_iff, ne_eq, isLow_iff]
  omega

theorem toNat_ofNat {code : Nat} (small : code < 0x10000) : (UInt16.ofNat code).toNat = code := by
  rw [UInt16.toNat_ofNat', Nat.mod_eq_of_lt small]

/-- No character has the code of a surrogate. -/
theorem code_valid (c : Char) : c.toNat < 0xD800 ∨ 0xDFFF < c.toNat ∧ c.toNat < 0x110000 :=
  c.valid

theorem charOfNat_toNat {code : Nat} (valid : code.isValidChar) :
    (Char.ofNat code).toNat = code := by
  rw [Char.ofNat, dif_pos valid]
  rfl

/-! ## Reading -/

theorem decode?_cons_of_plain {unit : UInt16} (notHigh : isHigh unit = false)
    (notLow : isLow unit = false) (rest : Units) :
    decode? (unit :: rest) = (decode? rest).map (Char.ofNat unit.toNat :: ·) := by
  cases rest with
  | nil => simp [decode?, notHigh, notLow]
  | cons next rest => simp [decode?, notHigh, notLow]

theorem decode?_cons_of_pair {high low : UInt16} (opens : isHigh high = true)
    (closes : isLow low = true) (rest : Units) :
    decode? (high :: low :: rest) = (decode? rest).map (pairChar high low :: ·) := by
  rw [decode?, if_pos opens, if_pos closes]

/-! ## Writing and reading a character -/

theorem toNat_pairChar {high low : UInt16} (opens : isHigh high = true)
    (closes : isLow low = true) :
    (pairChar high low).toNat =
      0x10000 + (high.toNat - 0xD800) * 0x400 + (low.toNat - 0xDC00) := by
  rw [isHigh_iff] at opens
  rw [isLow_iff] at closes
  apply charOfNat_toNat
  right
  omega

/-- The character of a pair is written as the pair. -/
theorem ofChar_pairChar {high low : UInt16} (opens : isHigh high = true)
    (closes : isLow low = true) : ofChar (pairChar high low) = [high, low] := by
  have code := toNat_pairChar opens closes
  rw [isHigh_iff] at opens
  rw [isLow_iff] at closes
  rw [ofChar, if_neg (by omega), code]
  have first : 0xD800 + (0x10000 + (high.toNat - 0xD800) * 0x400 + (low.toNat - 0xDC00) -
      0x10000) / 0x400 = high.toNat := by omega
  have second : 0xDC00 + (0x10000 + (high.toNat - 0xD800) * 0x400 + (low.toNat - 0xDC00) -
      0x10000) % 0x400 = low.toNat := by omega
  rw [first, second, UInt16.ofNat_toNat, UInt16.ofNat_toNat]

/-- The character of any other unit is written as that unit. -/
theorem ofChar_plain {unit : UInt16} (notHigh : isHigh unit = false)
    (notLow : isLow unit = false) : ofChar (Char.ofNat unit.toNat) = [unit] := by
  rw [isHigh_eq_false_iff] at notHigh
  rw [isLow_eq_false_iff] at notLow
  have small := unit.toNat_lt
  have valid : unit.toNat.isValidChar := by
    unfold Nat.isValidChar
    omega
  rw [ofChar, charOfNat_toNat valid, if_pos small, UInt16.ofNat_toNat]

/-- A character is written as one unit that is no surrogate, or as a pair. -/
theorem ofChar_cases (c : Char) :
    (∃ unit, ofChar c = [unit] ∧ isHigh unit = false ∧ isLow unit = false ∧
      Char.ofNat unit.toNat = c) ∨
    ∃ high low, ofChar c = [high, low] ∧ isHigh high = true ∧ isLow low = true ∧
      pairChar high low = c := by
  have valid := code_valid c
  by_cases small : c.toNat < 0x10000
  · have code := toNat_ofNat small
    refine .inl ⟨UInt16.ofNat c.toNat, if_pos small, ?_, ?_, ?_⟩
    · rw [isHigh_eq_false_iff]
      omega
    · rw [isLow_eq_false_iff]
      omega
    · rw [code, Char.ofNat_toNat]
  · have high : (UInt16.ofNat (0xD800 + (c.toNat - 0x10000) / 0x400)).toNat =
        0xD800 + (c.toNat - 0x10000) / 0x400 := toNat_ofNat (by omega)
    have low : (UInt16.ofNat (0xDC00 + (c.toNat - 0x10000) % 0x400)).toNat =
        0xDC00 + (c.toNat - 0x10000) % 0x400 := toNat_ofNat (by omega)
    have opens : isHigh (UInt16.ofNat (0xD800 + (c.toNat - 0x10000) / 0x400)) = true := by
      rw [isHigh_iff]
      omega
    have closes : isLow (UInt16.ofNat (0xDC00 + (c.toNat - 0x10000) % 0x400)) = true := by
      rw [isLow_iff]
      omega
    refine .inr ⟨_, _, if_neg small, opens, closes, ?_⟩
    apply Char.toNat_inj.mp
    rw [toNat_pairChar opens closes]
    omega

/-- What was written for a character is read as that character. -/
theorem decode?_ofChar_append (c : Char) (rest : Units) :
    decode? (ofChar c ++ rest) = (decode? rest).map (c :: ·) := by
  rcases ofChar_cases c with
    ⟨unit, written, notHigh, notLow, same⟩ | ⟨high, low, written, opens, closes, same⟩
  · rw [written, List.singleton_append, decode?_cons_of_plain notHigh notLow, same]
  · rw [written, List.cons_append, List.singleton_append, decode?_cons_of_pair opens closes, same]

/-! ## Writing and reading a text -/

theorem decode?_flatMap_ofChar (chars : List Char) :
    decode? (chars.flatMap ofChar) = some chars := by
  induction chars with
  | nil => rfl
  | cons c chars ih => rw [List.flatMap_cons, decode?_ofChar_append, ih, Option.map_some]

/-- Well-formed units are read, and what was read is written the same. -/
theorem IsWellFormed.decode?_eq_some {units : Units} (wellFormed : units.IsWellFormed) :
    ∃ chars, decode? units = some chars ∧ chars.flatMap ofChar = units := by
  induction wellFormed with
  | nil => exact ⟨[], rfl, rfl⟩
  | @plain unit rest notHigh notLow _ ih =>
      rcases ih with ⟨chars, read, written⟩
      refine ⟨Char.ofNat unit.toNat :: chars, ?_, ?_⟩
      · rw [decode?_cons_of_plain notHigh notLow, read, Option.map_some]
      · rw [List.flatMap_cons, ofChar_plain notHigh notLow, written, List.singleton_append]
  | @pair high low rest opens closes _ ih =>
      rcases ih with ⟨chars, read, written⟩
      refine ⟨pairChar high low :: chars, ?_, ?_⟩
      · rw [decode?_cons_of_pair opens closes, read, Option.map_some]
      · rw [List.flatMap_cons, ofChar_pairChar opens closes, written]
        rfl

theorem ofText_wellFormed (text : String) : (ofText text).IsWellFormed := by
  rw [ofText]
  induction text.toList with
  | nil => exact .nil
  | cons c chars ih =>
      rw [List.flatMap_cons]
      rcases ofChar_cases c with
        ⟨unit, written, notHigh, notLow, _⟩ | ⟨high, low, written, opens, closes, _⟩
      · rw [written]
        exact .plain notHigh notLow ih
      · rw [written]
        exact .pair opens closes ih

/-- Reading what was written for a text yields the text. -/
theorem toText_ofText (text : String) : toText (ofText text) = text := by
  rw [toText, ofText, decode?_flatMap_ofChar, Option.getD_some, String.ofList_toList]

/-- Writing the text that was read from well-formed units yields the units. -/
theorem IsWellFormed.ofText_toText {units : Units} (wellFormed : units.IsWellFormed) :
    ofText (toText units) = units := by
  rcases wellFormed.decode?_eq_some with ⟨chars, read, written⟩
  rw [toText, read, Option.getD_some, ofText, String.toList_ofList, written]

end Units

end NativeProxy
