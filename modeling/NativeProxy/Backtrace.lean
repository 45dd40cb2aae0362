import NativeProxy.Text.Blank

/-!
# Backtraces

A backtrace is the text of a call stack, a frame being an index, a symbol and, on the next
line, a source location that may be missing:

    3: library::module::function
              at ./library/module.src:201:9

`frames` finds the frames of a text, skipping what belongs to none, and `extendMessage` appends
them to a message in the form in which the virtual machine prints its own stack traces.
-/

namespace NativeProxy

namespace Backtrace

/-- A source location; the line is kept as written. -/
structure Location where
  file : List Char
  line : List Char
deriving DecidableEq, Repr

structure Frame where
  symbol : List Char
  location : Option Location
deriving DecidableEq, Repr

/-- Splits a non-empty run of decimal digits and the colon after it off a text. -/
def number? (text : List Char) : Option (List Char × List Char) :=
  match text.takeWhile isDecimal, text.dropWhile isDecimal with
  | [], _ => none
  | digits, ':' :: rest => some (digits, rest)
  | _, _ => none

/-- The text after the index of a frame: white space, which may hold line ends, digits, a colon
and a space. -/
def afterIndex? (text : List Char) : Option (List Char) :=
  match number? (text.dropWhile isBlank) with
  | some (_, ' ' :: rest) => some rest
  | _ => none

/-- Splits a text at its last line end that has something before it; the line end is left out. -/
def splitAtLastLineEnd : List Char → Option (List Char × List Char)
  | [] => none
  | c :: rest =>
    match splitAtLastLineEnd rest with
    | some (before, after) => some (c :: before, after)
    | none =>
      match rest with
      | '\n' :: after => some ([c], after)
      | _ => none

/-- Reads the symbol of a frame. It starts with as few characters of the first line as possible
and goes on without a colon up to a line end, the last one before the next colon. -/
def symbol? : List Char → Option (List Char × List Char)
  | [] => none
  | c :: rest =>
    let run := (c :: rest).takeWhile (· ≠ ':')
    match splitAtLastLineEnd run with
    | some (symbol, after) => some (symbol, after ++ (c :: rest).dropWhile (· ≠ ':'))
    | none =>
      if c = '\n' then none else (symbol? rest).map fun (symbol, after) => (c :: symbol, after)

/-- The file of a location, given what follows the word `at` and ends at a colon. White space
before the file belongs to it only where nothing else is left. -/
def file? (field : List Char) : Option (List Char) :=
  match field with
  | [] => none
  | c :: rest =>
    if isBlank c then
      match rest.dropWhile isBlank with
      | [] => rest.getLast?.map ([·])
      | file => some file
    else none

def atLineEnd : List Char → Bool
  | [] => true
  | c :: _ => c == '\n'

/-- Reads the location of a frame: the word `at`, the file, the line and the column, up to the
end of the line. -/
def location? (text : List Char) : Option (Location × List Char) :=
  match text.dropWhile isBlank with
  | 'a' :: 't' :: field =>
    match file? (field.takeWhile (· ≠ ':')), field.dropWhile (· ≠ ':') with
    | some file, ':' :: afterFile =>
      match number? afterFile with
      | some (line, afterLine) =>
        match afterLine.takeWhile isDecimal, afterLine.dropWhile isDecimal with
        | [], _ => none
        | _, rest => if atLineEnd rest then some (⟨file, line⟩, rest) else none
      | none => none
    | _, _ => none
  | _ => none

/-- Reads a frame from the start of a line, with the rest of the text and whether that rest
starts a line. -/
def frame? (text : List Char) : Option (Frame × Bool × List Char) := do
  let afterIndex ← afterIndex? text
  let (symbol, afterSymbol) ← symbol? afterIndex
  match location? afterSymbol with
  | some (location, rest) => return (⟨symbol, some location⟩, false, rest)
  | none => return (⟨symbol, none⟩, true, afterSymbol)

theorem length_dropWhile_le (p : Char → Bool) (text : List Char) :
    (text.dropWhile p).length ≤ text.length :=
  (List.dropWhile_suffix p).length_le

theorem length_of_number? {text digits rest : List Char}
    (found : number? text = some (digits, rest)) : rest.length < text.length := by
  unfold number? at found
  split at found
  · simp at found
  · next tail _ =>
    have bound := length_dropWhile_le isDecimal text
    simp_all only [Option.some.injEq, Prod.mk.injEq, List.length_cons]
    omega
  · simp at found

theorem length_of_afterIndex? {text rest : List Char} (found : afterIndex? text = some rest) :
    rest.length < text.length := by
  unfold afterIndex? at found
  split at found
  · next number =>
    have shorter := length_of_number? number
    have bound := length_dropWhile_le isBlank text
    simp_all only [Option.some.injEq, List.length_cons]
    omega
  · simp at found

theorem length_of_splitAtLastLineEnd {text before after : List Char}
    (found : splitAtLastLineEnd text = some (before, after)) : after.length ≤ text.length := by
  induction text generalizing before after with
  | nil => simp [splitAtLastLineEnd] at found
  | cons c rest ih =>
    unfold splitAtLastLineEnd at found
    split at found
    · next inner =>
      simp only [Option.some.injEq, Prod.mk.injEq] at found
      have bound := ih inner
      simp only [← found.2, List.length_cons]
      omega
    · split at found
      · simp only [Option.some.injEq, Prod.mk.injEq] at found
        simp only [← found.2, List.length_cons]
        omega
      · simp at found

theorem length_of_symbol? {text symbol rest : List Char}
    (found : symbol? text = some (symbol, rest)) : rest.length ≤ text.length := by
  induction text generalizing symbol rest with
  | nil => simp [symbol?] at found
  | cons c tail ih =>
    unfold symbol? at found
    simp only at found
    split at found
    · next split =>
      simp only [Option.some.injEq, Prod.mk.injEq] at found
      have bound := length_of_splitAtLastLineEnd split
      have whole := congrArg List.length
        (List.takeWhile_append_dropWhile (p := (· ≠ ':')) (l := c :: tail))
      simp only [List.length_append] at whole
      simp only [← found.2, List.length_append]
      omega
    · split at found
      · simp at found
      · obtain ⟨⟨inner, after⟩, read, same⟩ := Option.map_eq_some_iff.mp found
        simp only [Prod.mk.injEq] at same
        have bound := ih read
        simp only [← same.2, List.length_cons]
        omega

theorem length_of_location? {text rest : List Char} {location : Location}
    (found : location? text = some (location, rest)) : rest.length ≤ text.length := by
  unfold location? at found
  split at found
  · next field isAt =>
    split at found
    · next file afterFile _ colon =>
      split at found
      · next line afterLine number =>
        split at found
        · simp at found
        · split at found
          · simp only [Option.some.injEq, Prod.mk.injEq] at found
            have blank := length_dropWhile_le isBlank text
            have name := length_dropWhile_le (· ≠ ':') field
            have digits := length_of_number? number
            have column := length_dropWhile_le isDecimal afterLine
            rw [isAt] at blank
            rw [colon] at name
            simp only [List.length_cons] at blank name
            rw [← found.2]
            omega
          · simp at found
      · simp at found
    · simp at found
  · simp at found

theorem length_of_frame? {text rest : List Char} {frame : Frame} {lineStart : Bool}
    (found : frame? text = some (frame, lineStart, rest)) : rest.length < text.length := by
  simp only [frame?, Option.bind_eq_bind, Option.bind_eq_some_iff, Prod.exists] at found
  obtain ⟨afterIndex, index, symbol, afterSymbol, name, found⟩ := found
  have shorter := length_of_afterIndex? index
  have bound := length_of_symbol? name
  split at found
  · next location =>
    simp only [Option.pure_def, Option.some.injEq, Prod.mk.injEq] at found
    have further := length_of_location? location
    rw [← found.2.2]
    omega
  · simp only [Option.pure_def, Option.some.injEq, Prod.mk.injEq] at found
    rw [← found.2.2]
    omega

/-- The frames of a text. A frame starts at the start of a line; where none starts, the next
character is skipped. -/
def framesFrom (lineStart : Bool) (text : List Char) : List Frame :=
  match text with
  | [] => []
  | c :: rest =>
    match _found : if lineStart then frame? (c :: rest) else none with
    | some (frame, nextStart, after) => frame :: framesFrom nextStart after
    | none => framesFrom (c == '\n') rest
termination_by text.length
decreasing_by
  · split at _found
    · exact length_of_frame? _found
    · simp at _found
  · simp

def frames (text : String) : List Frame :=
  framesFrom true text.toList

/-- The line number as a 32-bit number: `0` where it is too large or has digits other than the
ASCII ones. -/
def lineNumber (line : List Char) : Nat :=
  if line.all Char.isDigit then
    let number := line.foldl (fun value c => value * 10 + (c.toNat - '0'.toNat)) 0
    if number < 0x100000000 then number else 0
  else 0

/-- The line of a printed stack trace for one frame. -/
def Frame.text (frame : Frame) : String :=
  let place := match frame.location with
    | some location => String.ofList location.file ++ ":" ++ toString (lineNumber location.line)
    | none => "__internal__:0"
  "\n        at " ++ String.ofList frame.symbol ++ "(" ++ place ++ ")"

def extendMessage (message backtrace : String) : String :=
  (frames backtrace).foldl (fun text frame => text ++ frame.text) message

end Backtrace

end NativeProxy
