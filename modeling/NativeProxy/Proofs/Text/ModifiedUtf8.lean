import NativeProxy.Proofs.Text.Utf16

/-!
# Modified UTF-8

On its way between native code and the machine text is a list of bytes: UTF-8 but for zero, which
takes two bytes, and for characters above `0xFFFF`, whose surrogates take three bytes each. The
machine reads these bytes unit by unit, and so writing a text as bytes amounts to writing it as
units. Sessions therefore speak of units only.
-/

namespace NativeProxy

namespace ModifiedUtf8

/-- The bytes of one unit, as the machine hands them out. -/
def ofUnit (unit : UInt16) : List UInt8 :=
  let code := unit.toNat
  if 0 < code ∧ code < 0x80 then
    [UInt8.ofNat code]
  else if code < 0x800 then
    [UInt8.ofNat (0xC0 + code / 0x40), UInt8.ofNat (0x80 + code % 0x40)]
  else
    [UInt8.ofNat (0xE0 + code / 0x1000), UInt8.ofNat (0x80 + code / 0x40 % 0x40),
      UInt8.ofNat (0x80 + code % 0x40)]

def ofUnits (units : Units) : List UInt8 :=
  units.flatMap ofUnit

/-- The bytes of one character, as native code passes them: those of UTF-8 where these have neither
a zero nor more than three bytes. -/
def ofChar (c : Char) : List UInt8 :=
  if c.toNat = 0 then [0xC0, 0x80]
  else if c.toNat < 0x10000 then String.utf8EncodeChar c
  else ofUnits (Units.ofChar c)

def ofText (text : String) : List UInt8 :=
  text.toList.flatMap ofChar

/-- Whether a byte follows the first one of a unit. -/
def isContinuation (byte : UInt8) : Bool :=
  0x80 ≤ byte && byte < 0xC0

/-- The reading of the machine, unit by unit. -/
def toUnits? : List UInt8 → Option Units
  | [] => some []
  | first :: bytes =>
    if first < 0x80 then
      (toUnits? bytes).map (UInt16.ofNat first.toNat :: ·)
    else match bytes with
      | [] => none
      | second :: bytes =>
        if !isContinuation second then none
        else if 0xC0 ≤ first && first < 0xE0 then
          (toUnits? bytes).map
            (UInt16.ofNat ((first.toNat - 0xC0) * 0x40 + (second.toNat - 0x80)) :: ·)
        else match bytes with
          | [] => none
          | third :: bytes =>
            if isContinuation third && 0xE0 ≤ first && first < 0xF0 then
              (toUnits? bytes).map (UInt16.ofNat ((first.toNat - 0xE0) * 0x1000 +
                (second.toNat - 0x80) * 0x40 + (third.toNat - 0x80)) :: ·)
            else none

/-- The reading of native code: units of which every surrogate belongs to a pair. -/
def toText? (bytes : List UInt8) : Option String :=
  ((toUnits? bytes).bind Units.decode?).map String.ofList

/-! ## What the machine reads -/

theorem toNat_ofNat {code : Nat} (small : code < 0x100) : (UInt8.ofNat code).toNat = code := by
  rw [UInt8.toNat_ofNat', Nat.mod_eq_of_lt small]

theorem isContinuation_iff {byte : UInt8} :
    isContinuation byte = true ↔ 0x80 ≤ byte.toNat ∧ byte.toNat < 0xC0 := by
  simp [isContinuation, UInt8.le_iff_toNat_le, UInt8.lt_iff_toNat_lt]

section Read

variable {first second third : UInt8} (bytes : List UInt8)

theorem toUnits?_of_one (low : first.toNat < 0x80) :
    toUnits? (first :: bytes) = (toUnits? bytes).map (UInt16.ofNat first.toNat :: ·) := by
  have short : first < 0x80 := UInt8.lt_iff_toNat_lt.mpr low
  rw [toUnits?.eq_def]
  simp only [short, if_true]

theorem toUnits?_of_two (least : 0xC0 ≤ first.toNat) (most : first.toNat < 0xE0)
    (continues : isContinuation second = true) :
    toUnits? (first :: second :: bytes) = (toUnits? bytes).map
      (UInt16.ofNat ((first.toNat - 0xC0) * 0x40 + (second.toNat - 0x80)) :: ·) := by
  have high : ¬ first < 0x80 := by
    rw [UInt8.lt_iff_toNat_lt]
    change ¬ first.toNat < 0x80
    omega
  have leads : (0xC0 ≤ first && first < 0xE0) = true := by
    simp [UInt8.le_iff_toNat_le, UInt8.lt_iff_toNat_lt, least, most]
  rw [toUnits?.eq_def]
  simp only [high, continues, leads, if_false, if_true, Bool.not_true, Bool.false_eq_true]

theorem toUnits?_of_three (least : 0xE0 ≤ first.toNat) (most : first.toNat < 0xF0)
    (continues : isContinuation second = true) (ends : isContinuation third = true) :
    toUnits? (first :: second :: third :: bytes) = (toUnits? bytes).map
      (UInt16.ofNat ((first.toNat - 0xE0) * 0x1000 + (second.toNat - 0x80) * 0x40 +
        (third.toNat - 0x80)) :: ·) := by
  have high : ¬ first < 0x80 := by
    rw [UInt8.lt_iff_toNat_lt]
    change ¬ first.toNat < 0x80
    omega
  have notTwo : ¬ first < 0xE0 := by
    rw [UInt8.lt_iff_toNat_lt]
    change ¬ first.toNat < 0xE0
    omega
  have leads : (isContinuation third && 0xE0 ≤ first && first < 0xF0) = true := by
    simp [UInt8.le_iff_toNat_le, UInt8.lt_iff_toNat_lt, least, most, ends]
  rw [toUnits?.eq_def]
  simp only [high, notTwo, continues, leads, if_false, if_true, Bool.not_true, Bool.false_eq_true,
    decide_false, Bool.and_false]

end Read

/-- The machine reads the bytes of a unit as that unit. -/
theorem toUnits?_ofUnit_append (unit : UInt16) (bytes : List UInt8) :
    toUnits? (ofUnit unit ++ bytes) = (toUnits? bytes).map (unit :: ·) := by
  have bound := unit.toNat_lt
  rw [ofUnit]
  split
  · next short =>
      have code : (UInt8.ofNat unit.toNat).toNat = unit.toNat := toNat_ofNat (by omega)
      rw [List.singleton_append, toUnits?_of_one, code, UInt16.ofNat_toNat]
      rw [code]
      exact short.2
  · next notShort =>
      split
      · next medium =>
          have first : (UInt8.ofNat (0xC0 + unit.toNat / 0x40)).toNat = 0xC0 + unit.toNat / 0x40 :=
            toNat_ofNat (by omega)
          have second : (UInt8.ofNat (0x80 + unit.toNat % 0x40)).toNat = 0x80 + unit.toNat % 0x40 :=
            toNat_ofNat (by omega)
          have code : (0xC0 + unit.toNat / 0x40 - 0xC0) * 0x40 + (0x80 + unit.toNat % 0x40 - 0x80) =
              unit.toNat := by omega
          rw [List.cons_append, List.singleton_append, toUnits?_of_two, first, second, code,
            UInt16.ofNat_toNat]
          · omega
          · omega
          · rw [isContinuation_iff]
            omega
      · next long =>
          have first : (UInt8.ofNat (0xE0 + unit.toNat / 0x1000)).toNat =
            0xE0 + unit.toNat / 0x1000 := toNat_ofNat (by omega)
          have second : (UInt8.ofNat (0x80 + unit.toNat / 0x40 % 0x40)).toNat =
            0x80 + unit.toNat / 0x40 % 0x40 := toNat_ofNat (by omega)
          have third : (UInt8.ofNat (0x80 + unit.toNat % 0x40)).toNat = 0x80 + unit.toNat % 0x40 :=
            toNat_ofNat (by omega)
          have code : (0xE0 + unit.toNat / 0x1000 - 0xE0) * 0x1000 +
              (0x80 + unit.toNat / 0x40 % 0x40 - 0x80) * 0x40 +
              (0x80 + unit.toNat % 0x40 - 0x80) = unit.toNat := by omega
          rw [List.cons_append, List.cons_append, List.singleton_append, toUnits?_of_three, first,
            second, third, code, UInt16.ofNat_toNat]
          · omega
          · omega
          · rw [isContinuation_iff]
            omega
          · rw [isContinuation_iff]
            omega

theorem toUnits?_ofUnits (units : Units) : toUnits? (ofUnits units) = some units := by
  induction units with
  | nil => rfl
  | cons unit units ih =>
      rw [ofUnits, List.flatMap_cons, toUnits?_ofUnit_append]
      rw [ofUnits] at ih
      rw [ih, Option.map_some]

/-- Native code reads the bytes of well-formed units, and of no others. -/
theorem toText?_ofUnits (units : Units) :
    toText? (ofUnits units) = (Units.decode? units).map String.ofList := by
  rw [toText?, toUnits?_ofUnits, Option.bind_some]

/-- The text of units is the reading of their bytes; ill-formed units have none and are read lossily
instead. -/
theorem toText_eq (units : Units) :
    units.toText = (toText? (ofUnits units)).getD (String.ofList units.lossy) := by
  rw [toText?_ofUnits, Units.toText]
  cases Units.decode? units with
  | none => rfl
  | some chars => rfl

theorem toText?_of_wellFormed {units : Units} (wellFormed : units.IsWellFormed) :
    toText? (ofUnits units) = some units.toText := by
  rcases wellFormed.decode?_eq_some with ⟨chars, read, _⟩
  have isText : toText? (ofUnits units) = some (String.ofList chars) := by
    rw [toText?_ofUnits, read, Option.map_some]
  rw [toText_eq, isText, Option.getD_some]

/-! ## What native code writes -/

/-- The bytes of a character are those of its units. -/
theorem ofChar_eq (c : Char) : ofChar c = ofUnits (Units.ofChar c) := by
  rw [ofChar]
  split
  · next zero =>
      rw [Units.ofChar, if_pos (by omega), zero]
      rfl
  · next nonzero =>
      split
      · next small =>
          have code := Units.toNat_ofNat small
          have value : c.val.toNat = c.toNat := rfl
          rw [Units.ofChar, if_pos small, ofUnits, List.flatMap_singleton, ofUnit, code,
            String.utf8EncodeChar, value]
          by_cases one : c.toNat < 0x80
          · rw [if_pos (by omega), if_pos (by omega)]
          · by_cases two : c.toNat < 0x800
            · rw [if_neg (by omega), if_pos (by omega), if_neg (by omega), if_pos (by omega)]
              have lead : c.toNat / 64 % 0x20 + 0xC0 = 0xC0 + c.toNat / 0x40 := by omega
              rw [lead, Nat.add_comm (c.toNat % 0x40)]
            · have lead : c.toNat / 4096 % 0x10 + 0xE0 = 0xE0 + c.toNat / 0x1000 := by omega
              rw [if_neg (by omega), if_neg (by omega), if_pos (by omega), if_neg (by omega),
                if_neg (by omega), lead, Nat.add_comm (c.toNat % 0x40),
                Nat.add_comm (c.toNat / 64 % 0x40)]
      · rfl

/-- The machine reads the bytes of a text as the units of the text. -/
theorem toUnits?_ofText (text : String) : toUnits? (ofText text) = some (Units.ofText text) := by
  have same : ofText text = ofUnits (Units.ofText text) := by
    rw [ofText, ofUnits, Units.ofText, List.flatMap_assoc]
    exact congrArg (text.toList.flatMap ·) (funext ofChar_eq)
  rw [same, toUnits?_ofUnits]

example : ofText "\x00😀" = [0xC0, 0x80, 0xED, 0xA0, 0xBD, 0xED, 0xB8, 0x80] := by decide

end ModifiedUtf8

end NativeProxy
