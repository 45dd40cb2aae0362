/-!
# Floating-point words and colours

Floating-point numbers cross the boundary as words and are never computed with, so they are
kept as the bits of their binary interchange format: NaN payloads and the sign of zero survive.
Only the comparison of colours looks at what the bits mean.
-/

namespace NativeProxy

structure Binary32 where
  bits : UInt32
deriving DecidableEq, Repr

structure Binary64 where
  bits : UInt64
deriving DecidableEq, Repr

namespace Binary32

def zero : Binary32 := ⟨0⟩

/-- The bits without the sign. -/
def magnitude (number : Binary32) : UInt32 :=
  number.bits &&& 0x7FFFFFFF

/-- Whether the number is a NaN: an exponent of ones above a fraction that is not zero. -/
def isNaN (number : Binary32) : Bool :=
  0x7F800000 < number.magnitude

/-- Equality of numbers: a NaN equals nothing, and the two zeros are equal. -/
def sameNumber (left right : Binary32) : Bool :=
  !left.isNaN && !right.isNaN &&
    (left == right || (left.magnitude == 0 && right.magnitude == 0))

end Binary32

namespace Binary64

def zero : Binary64 := ⟨0⟩

end Binary64

/-- A colour as four components, always in the order red, green, blue, alpha. -/
structure Rgba where
  red : Binary32
  green : Binary32
  blue : Binary32
  alpha : Binary32
deriving DecidableEq, Repr

namespace Rgba

def zero : Rgba := ⟨.zero, .zero, .zero, .zero⟩

def components (color : Rgba) : List Binary32 :=
  [color.red, color.green, color.blue, color.alpha]

/-- The colour with the given components, if there are four. -/
def ofComponents? : List Binary32 → Option Rgba
  | [red, green, blue, alpha] => some ⟨red, green, blue, alpha⟩
  | _ => none

def sameColor (left right : Rgba) : Bool :=
  left.red.sameNumber right.red && left.green.sameNumber right.green &&
    left.blue.sameNumber right.blue && left.alpha.sameNumber right.alpha

theorem ofComponents?_eq_some_iff {components : List Binary32} {color : Rgba} :
    ofComponents? components = some color ↔ components = color.components := by
  constructor
  · intro read
    unfold ofComponents? at read
    split at read
    · rw [Option.some.injEq] at read
      rw [← read]
      rfl
    · exact absurd read (by simp)
  · rintro rfl
    rfl

end Rgba

end NativeProxy
