/-!
# UTF-16 text

A string of the virtual machine is a list of 16-bit code units, native text is a list of
characters. `encode` writes every character above `0xFFFF` as a surrogate pair, `decode?`
reads well-formed units back and refuses an unpaired surrogate, and `toText` is the reading
used for every string that leaves the machine: it is total, because ill-formed units fall back
to `lossy`.
-/

namespace NativeProxy

/-- The code units of a string of the virtual machine. -/
abbrev Units := List UInt16

namespace Units

/-- The units of one character: itself, or a surrogate pair above `0xFFFF`. -/
def ofChar (c : Char) : Units :=
  if c.toNat < 0x10000 then
    [UInt16.ofNat c.toNat]
  else
    [UInt16.ofNat (0xD800 + (c.toNat - 0x10000) / 0x400),
      UInt16.ofNat (0xDC00 + (c.toNat - 0x10000) % 0x400)]

def ofText (text : String) : Units :=
  text.toList.flatMap ofChar

/-- Whether `unit` opens a surrogate pair. -/
def isHigh (unit : UInt16) : Bool :=
  0xD800 ≤ unit && unit < 0xDC00

/-- Whether `unit` closes a surrogate pair. -/
def isLow (unit : UInt16) : Bool :=
  0xDC00 ≤ unit && unit < 0xE000

def pairChar (high low : UInt16) : Char :=
  Char.ofNat (0x10000 + (high.toNat - 0xD800) * 0x400 + (low.toNat - 0xDC00))

/-- Reads well-formed units; an unpaired surrogate makes the whole list ill-formed. -/
def decode? : Units → Option (List Char)
  | [] => some []
  | high :: low :: rest =>
    if isHigh high then
      if isLow low then (decode? rest).map (pairChar high low :: ·) else none
    else if isLow high then none
    else (decode? (low :: rest)).map (Char.ofNat high.toNat :: ·)
  | [unit] => if isHigh unit || isLow unit then none else some [Char.ofNat unit.toNat]

/-- The reading of one unit inside an ill-formed string. A surrogate unit takes three bytes
and a zero unit two, and none of these bytes is valid on its own. -/
def lossyUnit (unit : UInt16) : List Char :=
  if isHigh unit || isLow unit then ['\uFFFD', '\uFFFD', '\uFFFD']
  else if unit = 0 then ['\uFFFD', '\uFFFD']
  else [Char.ofNat unit.toNat]

/-- The reading of an ill-formed string, unit by unit, paired surrogates included. -/
def lossy (units : Units) : List Char :=
  units.flatMap lossyUnit

/-- The native text of a string of the virtual machine. -/
def toText (units : Units) : String :=
  String.ofList ((decode? units).getD (lossy units))

end Units

end NativeProxy
