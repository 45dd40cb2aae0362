import NativeProxy.Backtrace

/-!
# Stack traces

A call stack is written as a list of entries. An entry takes one line, with the index and the
symbol, and a second one if the source location is known. `framesFrom_written` reads the frames
back: one for every entry, with the whole symbol and with the location of that entry alone. What
`extendMessage` makes of a call stack written like this is `extendMessage_written`.

The technical part is the symbol. It may hold colons, and it is read together with the lines below
it up to the next colon; `symbol?_append` shows that it ends at the end of its own line all the
same, because the lines below have a colon before they end.
-/

namespace NativeProxy

namespace Backtrace

/-! ## Entries -/

/-- The source location of an entry, on a line of its own. -/
structure Place where
  indent : Nat
  file : List Char
  line : List Char
  column : List Char
  file_ne_nil : file ≠ []
  file_start : ∀ c ∈ file.head?, isBlank c = false
  file_plain : ∀ c ∈ file, c ≠ ':' ∧ c ≠ '\n'
  line_ne_nil : line ≠ []
  line_digits : ∀ c ∈ line, c.isDigit = true
  column_ne_nil : column ≠ []
  column_digits : ∀ c ∈ column, c.isDigit = true

/-- One call of a call stack. -/
structure Entry where
  indent : Nat
  index : List Char
  symbol : List Char
  place : Option Place
  index_ne_nil : index ≠ []
  index_decimal : ∀ c ∈ index, isDecimal c = true
  symbol_ne_nil : symbol ≠ []
  symbol_line : '\n' ∉ symbol
  symbol_end : symbol.getLast? ≠ some ':'

def spaces (indent : Nat) : List Char :=
  List.replicate indent ' '

/-- The line of a source location. -/
def Place.written (place : Place) : List Char :=
  spaces place.indent ++ 'a' :: 't' :: ' ' :: place.file ++ ':' :: place.line ++
    ':' :: place.column ++ ['\n']

/-- The lines of an entry. -/
def Entry.written (entry : Entry) : List Char :=
  spaces entry.indent ++ entry.index ++ ':' :: ' ' :: entry.symbol ++ '\n' ::
    match entry.place with
    | some place => place.written
    | none => []

/-- The text of a call stack. -/
def written (entries : List Entry) : List Char :=
  entries.flatMap Entry.written

/-- The line number that is printed for a location: `0` if it needs more than 32 bits. -/
def Place.number (place : Place) : Nat :=
  if Nat.ofDigitChars 10 place.line 0 < UInt32.size then Nat.ofDigitChars 10 place.line 0 else 0

/-- The line of a stack trace that belongs to an entry. -/
def Entry.printed (entry : Entry) : String :=
  "\n        at " ++ String.ofList entry.symbol ++ "(" ++
    (match entry.place with
      | some place => String.ofList place.file ++ ":" ++ toString place.number
      | none => "__internal__:0") ++ ")"

/-- The frame that an entry stands for. -/
def Entry.frame (entry : Entry) : Frame :=
  ⟨entry.symbol, entry.place.map fun place => ⟨place.file, place.line⟩⟩

theorem written_cons (entry : Entry) (entries : List Entry) :
    written (entry :: entries) = entry.written ++ written entries :=
  List.flatMap_cons

theorem Place.written_append (place : Place) (rest : List Char) :
    place.written ++ rest = spaces place.indent ++ 'a' :: 't' ::
      ((' ' :: place.file) ++ ':' :: (place.line ++ ':' :: (place.column ++ '\n' :: rest))) := by
  simp [Place.written]

theorem Entry.written_append (entry : Entry) (rest : List Char) :
    entry.written ++ rest = spaces entry.indent ++ (entry.index ++ ':' :: ' ' ::
      (entry.symbol ++ '\n' :: ((entry.place.elim [] Place.written) ++ rest))) := by
  cases isPlace : entry.place <;> simp [Entry.written, isPlace]

/-! ## Runs of characters -/

theorem isBlank_of_isDecimal {c : Char} (decimal : isDecimal c = true) : isBlank c = false := by
  have apart : ∀ first ∈ digitZeros, ∀ range ∈ blankRanges,
      first + 9 < range.first ∨ range.last < first := by decide
  simp only [isDecimal, List.any_eq_true, CodeRange.contains, CodeRange.digitsFrom,
    Bool.and_eq_true] at decimal
  rcases decimal with ⟨first, isZero, lower, upper⟩
  rw [isBlank, List.any_eq_false]
  intro range isRange inRange
  simp only [CodeRange.contains, Bool.and_eq_true] at inRange
  have disjoint := apart first isZero range isRange
  have := of_decide_eq_true lower
  have := of_decide_eq_true upper
  have := of_decide_eq_true inRange.1
  have := of_decide_eq_true inRange.2
  omega

theorem dropWhile_spaces_append (indent : Nat) (text : List Char) :
    (spaces indent ++ text).dropWhile isBlank = text.dropWhile isBlank := by
  apply List.dropWhile_append_of_pos
  intro c isSpace
  rw [List.eq_of_mem_replicate isSpace]
  decide

theorem takeWhile_append_of_plain {field : List Char} (plain : ':' ∉ field) (rest : List Char) :
    (field ++ rest).takeWhile (· ≠ ':') = field ++ rest.takeWhile (· ≠ ':') := by
  apply List.takeWhile_append_of_pos
  intro c isField
  exact decide_eq_true (ne_of_mem_of_not_mem isField plain)

theorem dropWhile_append_of_plain {field : List Char} (plain : ':' ∉ field) (rest : List Char) :
    (field ++ rest).dropWhile (· ≠ ':') = rest.dropWhile (· ≠ ':') := by
  apply List.dropWhile_append_of_pos
  intro c isField
  exact decide_eq_true (ne_of_mem_of_not_mem isField plain)

theorem takeWhile_append_colon {field : List Char} (plain : ':' ∉ field) (rest : List Char) :
    (field ++ ':' :: rest).takeWhile (· ≠ ':') = field := by
  rw [takeWhile_append_of_plain plain, List.takeWhile_cons_of_neg (by simp), List.append_nil]

theorem dropWhile_append_colon {field : List Char} (plain : ':' ∉ field) (rest : List Char) :
    (field ++ ':' :: rest).dropWhile (· ≠ ':') = ':' :: rest := by
  rw [dropWhile_append_of_plain plain, List.dropWhile_cons_of_neg (by simp)]

/-! ## Numbers -/

theorem number?_append {digits : List Char} (nonempty : digits ≠ [])
    (decimal : ∀ c ∈ digits, isDecimal c = true) (rest : List Char) :
    number? (digits ++ ':' :: rest) = some (digits, rest) := by
  have notDecimal : ¬isDecimal ':' = true := by decide
  rw [number?, List.takeWhile_append_of_pos decimal, List.dropWhile_append_of_pos decimal,
    List.takeWhile_cons_of_neg notDecimal, List.dropWhile_cons_of_neg notDecimal, List.append_nil]
  cases digits with
  | nil => contradiction
  | cons => rfl

theorem Place.lineNumber_line (place : Place) : lineNumber place.line = place.number := by
  have value : place.line.foldl (fun value c => value * 10 + (c.toNat - '0'.toNat)) 0 =
      Nat.ofDigitChars 10 place.line 0 := by
    rw [Nat.ofDigitChars_eq_foldl]
    congr 1
    funext value c
    rw [Nat.mul_comm]
  rw [lineNumber, if_pos (List.all_eq_true.mpr place.line_digits), value]
  rfl

theorem Entry.index_plain (entry : Entry) : ':' ∉ entry.index := by
  intro isIndex
  exact absurd (entry.index_decimal _ isIndex) (by decide)

theorem Entry.index_line (entry : Entry) : '\n' ∉ entry.index := by
  intro isIndex
  exact absurd (entry.index_decimal _ isIndex) (by decide)

theorem Entry.dropWhile_written (entry : Entry) (rest : List Char) :
    ∃ c tail, (entry.written ++ rest).dropWhile isBlank = c :: tail ∧ isDecimal c = true := by
  rcases List.exists_cons_of_ne_nil entry.index_ne_nil with ⟨c, tail, isIndex⟩
  have decimal : isDecimal c = true := entry.index_decimal c (by simp [isIndex])
  simp only [Entry.written, List.append_assoc, dropWhile_spaces_append, isIndex, List.cons_append]
  rw [List.dropWhile_cons_of_neg (by simp [isBlank_of_isDecimal decimal])]
  exact ⟨c, _, rfl, decimal⟩

/-! ## Symbols -/

theorem splitAtLastLineEnd_eq_none {text : List Char} (oneLine : '\n' ∉ text.tail) :
    splitAtLastLineEnd text = none := by
  induction text with
  | nil => rfl
  | cons c rest ih =>
      have inner : splitAtLastLineEnd rest = none :=
        ih fun isLineEnd => oneLine (List.mem_of_mem_tail isLineEnd)
      simp only [splitAtLastLineEnd, inner]
      cases rest with
      | nil => rfl
      | cons next tail =>
          have notLineEnd : next ≠ '\n' := by
            rintro rfl
            exact oneLine List.mem_cons_self
          simp [notLineEnd]

theorem splitAtLastLineEnd_append {before after : List Char} (nonempty : before ≠ [])
    (oneLine : '\n' ∉ after) :
    splitAtLastLineEnd (before ++ '\n' :: after) = some (before, after) := by
  induction before with
  | nil => contradiction
  | cons c rest ih =>
      have below : splitAtLastLineEnd ('\n' :: after) = none := splitAtLastLineEnd_eq_none oneLine
      cases rest with
      | nil => simp only [List.cons_append, List.nil_append, splitAtLastLineEnd.eq_2, below]
      | cons next tail =>
          have inner := ih (by simp)
          simp only [List.cons_append] at inner ⊢
          simp only [splitAtLastLineEnd.eq_def (c :: _), inner]

/-- A symbol is read up to the end of its line if a colon comes before the next line end. -/
theorem symbol?_append {symbol rest : List Char} (nonempty : symbol ≠ [])
    (oneLine : '\n' ∉ symbol) (ending : symbol.getLast? ≠ some ':')
    (colonFirst : '\n' ∉ rest.takeWhile (· ≠ ':')) :
    symbol? (symbol ++ '\n' :: rest) = some (symbol, rest) := by
  induction symbol with
  | nil => contradiction
  | cons c tail ih =>
      rw [List.cons_append, symbol?, ← List.cons_append]
      by_cases isColon : ':' ∈ c :: tail
      case neg =>
        have notColon : ':' ∉ c :: tail ++ ['\n'] := by simpa using isColon
        rw [List.append_cons, takeWhile_append_of_plain notColon,
          dropWhile_append_of_plain notColon, ← List.append_cons,
          splitAtLastLineEnd_append nonempty colonFirst]
        simp only [List.takeWhile_append_dropWhile]
      case pos =>
        -- up to the colon the symbol has no line end, so that it has to go on
        rcases List.eq_append_cons_of_mem isColon with ⟨before, after, split, plain⟩
        have upToColon : (c :: tail ++ '\n' :: rest).takeWhile (· ≠ ':') = before := by
          rw [split, List.append_assoc, List.cons_append, takeWhile_append_colon plain]
        have unended : '\n' ∉ before.tail := by
          intro isLineEnd
          exact oneLine (split ▸ List.mem_append_left _ (List.mem_of_mem_tail isLineEnd))
        have notLineEnd : c ≠ '\n' := by
          rintro rfl
          exact oneLine List.mem_cons_self
        have goesOn : tail ≠ [] := by
          rintro rfl
          rcases List.mem_singleton.mp isColon
          exact ending rfl
        have read := ih goesOn (fun isLineEnd => oneLine (List.mem_cons_of_mem _ isLineEnd))
          (by rwa [List.getLast?_cons_of_ne_nil goesOn] at ending)
        rw [upToColon, splitAtLastLineEnd_eq_none unended]
        simp only [notLineEnd, if_false, read, Option.map_some]

/-! ## Locations -/

theorem Place.field_plain (place : Place) : ':' ∉ ' ' :: place.file := by
  simpa using fun isFile => (place.file_plain ':' isFile).1 rfl

theorem Place.file?_field (place : Place) : file? (' ' :: place.file) = some place.file := by
  rcases List.exists_cons_of_ne_nil place.file_ne_nil with ⟨c, tail, isFile⟩
  have starts : isBlank c = false := place.file_start c (by simp [isFile])
  rw [file?, if_pos (by decide), isFile, List.dropWhile_cons_of_neg (by simp [starts])]

theorem Place.location?_written (place : Place) (rest : List Char) :
    location? (place.written ++ rest) = some (⟨place.file, place.line⟩, '\n' :: rest) := by
  have lineDecimal : ∀ c ∈ place.line, isDecimal c = true :=
    fun c isDigit => isDecimal_of_isDigit (place.line_digits c isDigit)
  have columnDecimal : ∀ c ∈ place.column, isDecimal c = true :=
    fun c isDigit => isDecimal_of_isDigit (place.column_digits c isDigit)
  have notDecimal : ¬isDecimal '\n' = true := by decide
  rw [place.written_append, location?, dropWhile_spaces_append,
    List.dropWhile_cons_of_neg (by decide)]
  simp only [takeWhile_append_colon place.field_plain, dropWhile_append_colon place.field_plain,
    place.file?_field, number?_append place.line_ne_nil lineDecimal]
  rw [List.takeWhile_append_of_pos columnDecimal, List.dropWhile_append_of_pos columnDecimal,
    List.takeWhile_cons_of_neg notDecimal, List.dropWhile_cons_of_neg notDecimal, List.append_nil]
  cases isColumn : place.column with
  | nil => exact absurd isColumn place.column_ne_nil
  | cons => rfl

theorem Place.lineEnd_notMem (place : Place) (rest : List Char) :
    '\n' ∉ (place.written ++ rest).takeWhile (· ≠ ':') := by
  have plain : ':' ∉ spaces place.indent ++ 'a' :: 't' :: ' ' :: place.file := by
    simpa [spaces] using place.field_plain
  have oneLine : '\n' ∉ spaces place.indent ++ 'a' :: 't' :: ' ' :: place.file := by
    simpa [spaces] using fun isFile => (place.file_plain '\n' isFile).2 rfl
  have split : place.written ++ rest = (spaces place.indent ++ 'a' :: 't' :: ' ' :: place.file) ++
      ':' :: (place.line ++ ':' :: (place.column ++ '\n' :: rest)) := by
    simp [Place.written]
  rwa [split, takeWhile_append_colon plain]

theorem location?_written (entries : List Entry) : location? (written entries) = none := by
  cases entries with
  | nil => rfl
  | cons entry entries =>
      rcases entry.dropWhile_written (written entries) with ⟨c, tail, starts, decimal⟩
      have notWord : c ≠ 'a' := by
        rintro rfl
        exact absurd decimal (by decide)
      rw [written_cons, location?, starts]
      split
      case h_1 isWord =>
        simp only [List.cons.injEq] at isWord
        exact absurd isWord.1 notWord
      case h_2 => rfl

theorem lineEnd_notMem_written (entries : List Entry) :
    '\n' ∉ (written entries).takeWhile (· ≠ ':') := by
  cases entries with
  | nil => simp [written]
  | cons entry entries =>
      have plain : ':' ∉ spaces entry.indent ++ entry.index := by
        simpa [spaces] using entry.index_plain
      have oneLine : '\n' ∉ spaces entry.indent ++ entry.index := by
        simpa [spaces] using entry.index_line
      rw [written_cons, entry.written_append, ← List.append_assoc, takeWhile_append_colon plain]
      exact oneLine

/-! ## Frames -/

theorem framesFrom_of_frame? {text rest : List Char} {frame : Frame} {lineStart : Bool}
    (found : frame? text = some (frame, lineStart, rest)) :
    framesFrom true text = frame :: framesFrom lineStart rest := by
  cases text with
  | nil => simp [frame?, afterIndex?, number?] at found
  | cons c tail =>
      rw [framesFrom]
      grind

theorem framesFrom_lineEnd (text : List Char) :
    framesFrom false ('\n' :: text) = framesFrom true text := by
  rw [framesFrom]
  simp

theorem Entry.afterIndex?_written (entry : Entry) (rest : List Char) :
    afterIndex? (spaces entry.indent ++ (entry.index ++ ':' :: ' ' :: rest)) = some rest := by
  rcases List.exists_cons_of_ne_nil entry.index_ne_nil with ⟨c, tail, isIndex⟩
  have decimal : isDecimal c = true := entry.index_decimal c (by simp [isIndex])
  have starts : (entry.index ++ ':' :: ' ' :: rest).dropWhile isBlank =
      entry.index ++ ':' :: ' ' :: rest := by
    rw [isIndex, List.cons_append,
      List.dropWhile_cons_of_neg (by simp [isBlank_of_isDecimal decimal])]
  rw [afterIndex?, dropWhile_spaces_append, starts,
    number?_append entry.index_ne_nil entry.index_decimal]
  rfl

/-- The first entry of a call stack is read as its own frame, and the others are left. -/
theorem frame?_written (entry : Entry) (entries : List Entry) :
    ∃ lineStart rest, frame? (written (entry :: entries)) = some (entry.frame, lineStart, rest) ∧
      framesFrom lineStart rest = framesFrom true (written entries) := by
  rw [written_cons, entry.written_append]
  simp only [frame?, entry.afterIndex?_written, Option.bind_eq_bind, Option.bind_some]
  cases isPlace : entry.place with
  | some place =>
      rw [Option.elim_some, symbol?_append entry.symbol_ne_nil entry.symbol_line entry.symbol_end
        (place.lineEnd_notMem _)]
      simp only [Option.bind_some, place.location?_written]
      exact ⟨false, _, by simp [Entry.frame, isPlace], framesFrom_lineEnd _⟩
  | none =>
      rw [Option.elim_none, List.nil_append, symbol?_append entry.symbol_ne_nil entry.symbol_line
        entry.symbol_end (lineEnd_notMem_written _)]
      simp only [Option.bind_some, location?_written]
      exact ⟨true, _, by simp [Entry.frame, isPlace], rfl⟩

theorem framesFrom_written (entries : List Entry) :
    framesFrom true (written entries) = entries.map Entry.frame := by
  induction entries with
  | nil => simp [written, framesFrom]
  | cons entry entries ih =>
      rcases frame?_written entry entries with ⟨lineStart, rest, found, same⟩
      rw [framesFrom_of_frame? found, same, ih, List.map_cons]

/-! ## Printing -/

theorem Entry.text_frame (entry : Entry) : entry.frame.text = entry.printed := by
  unfold Frame.text Entry.printed Entry.frame
  cases entry.place with
  | some place => simp only [Option.map_some, place.lineNumber_line]
  | none => rfl

theorem foldl_text (frames : List Frame) (message : String) :
    frames.foldl (fun text frame => text ++ frame.text) message =
      message ++ String.join (frames.map Frame.text) := by
  induction frames generalizing message with
  | nil => simp
  | cons frame frames ih =>
      rw [List.foldl_cons, ih, List.map_cons, String.join_cons, String.append_assoc]

theorem extendMessage_eq (message backtrace : String) :
    extendMessage message backtrace = message ++ String.join ((frames backtrace).map Frame.text) :=
  foldl_text _ _

/-- A message is followed by one line for every entry of the call stack, in order, and by nothing
else. -/
theorem extendMessage_written (message : String) (entries : List Entry) :
    extendMessage message (String.ofList (written entries)) =
      message ++ String.join (entries.map Entry.printed) := by
  have texts : (entries.map Entry.frame).map Frame.text = entries.map Entry.printed := by
    rw [List.map_map]
    exact List.map_congr_left fun entry _ => entry.text_frame
  rw [extendMessage_eq, frames, String.toList_ofList, framesFrom_written, texts]

/-- An entry with a location, the line number of which does not fit. -/
def Entry.located : Entry where
  indent := 3
  index := "0".toList
  symbol := "stack::grow::\x7b\x7bclosure\x7d\x7d".toList
  place := some {
    indent := 13
    file := "./stack.src".toList
    line := "4294967296".toList
    column := "13".toList
    file_ne_nil := by simp
    file_start := by rintro c ⟨⟩; rfl
    file_plain := by simp
    line_ne_nil := by simp
    line_digits := by simp
    column_ne_nil := by simp
    column_digits := by simp }
  index_ne_nil := by simp
  index_decimal := by simp [isDecimal_of_isDigit]
  symbol_ne_nil := by simp
  symbol_line := by simp
  symbol_end := by simp

/-- An entry without a location. -/
def Entry.internal : Entry where
  indent := 2
  index := "10".toList
  symbol := "stack::run".toList
  place := none
  index_ne_nil := by simp
  index_decimal := by simp [isDecimal_of_isDigit]
  symbol_ne_nil := by simp
  symbol_line := by simp
  symbol_end := by simp

theorem extendMessage_internal_located :
    extendMessage "oops" ("  10: stack::run\n   0: stack::grow::\x7b\x7bclosure\x7d\x7d\n" ++
        "             at ./stack.src:4294967296:13\n") =
      "oops\n        at stack::run(__internal__:0)" ++
        "\n        at stack::grow::\x7b\x7bclosure\x7d\x7d(./stack.src:0)" :=
  extendMessage_written "oops" [.internal, .located]

end Backtrace

end NativeProxy
