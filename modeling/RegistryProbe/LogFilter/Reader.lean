import RegistryProbe.LogFilter.Basic
import RegistryProbe.Pattern.Support
import RegistryProbe.Text.Decimal
import RegistryProbe.Text.Pieces

/-! # Reading log filters

  A filter is written as directives with commas between them, each of which gives a rule:

  - `debug` or `4`, a level: all lines up to it.
  - `topic`: all lines of the topics whose names begin so. `topic=debug`: those up to a level.
  - `[span]`, `[span{field}]`, `[{field}]` and `[{field=value}]`, alone or after a topic, and
    perhaps with a level after them: the lines within a span or with a field. A value is a number
    or a pattern.

  Blanks around a directive do not change its shape, but they count in the texts that are cut out of
  it: places are counted, in bytes, without the blanks in front, yet looked up with them.
-/

namespace RegistryProbe

namespace LogRule

/-! ### Levels -/

/-- The names of the limits, which are also numbered in this order. -/
def limitNames : List (String × Option Level) :=
  [("off", none), ("error", some .error), ("warn", some .warn), ("info", some .info),
    ("debug", some .debug), ("trace", some .trace)]

/-- Reads a limit, a number or a name in any case. -/
def readLimit? (t : List Char) : Option (Option Level) :=
  match Text.Decimal.readBelow? limitNames.length t with
  | some n => limitNames[n]?.map Prod.snd
  | none => limitNames.lookup (String.ofList (t.map Char.toLower))

/-- Reads what follows an equals sign: a limit, or nothing if every line is to be shown. -/
def readLimitAfter? (t : List Char) : Option (Option Level) :=
  if t = [] then some (some .trace) else readLimit? t

/-! ### Values -/

/-- Whether a text is an exponent behind its mark: digits, perhaps with a sign. -/
def isExponent (t : List Char) : Bool :=
  let digits := match t with
    | '+' :: rest | '-' :: rest => rest
    | _ => t
  digits ≠ [] && digits.all Text.Decimal.isDigit

/-- Whether a text is a decimal number without a sign. The point needs a digit on one side only. -/
def isDecimal (t : List Char) : Bool :=
  let whole := t.takeWhile Text.Decimal.isDigit
  let rest := t.dropWhile Text.Decimal.isDigit
  let (fraction, rest) := match rest with
    | '.' :: rest => (rest.takeWhile Text.Decimal.isDigit, rest.dropWhile Text.Decimal.isDigit)
    | _ => ([], rest)
  (whole ≠ [] || fraction ≠ []) &&
    match rest with
    | [] => true
    | c :: exponent => (c = 'e' || c = 'E') && isExponent exponent

/-- Whether a text is a number: decimal, or one of the words for what is no finite number. -/
def isNumber (t : List Char) : Bool :=
  let size := match t with
    | '+' :: rest | '-' :: rest => rest
    | _ => t
  isDecimal size
    || ["inf", "infinity", "nan"].contains (String.ofList (size.map Char.toLower))

/-- Whether a text can be the value of a field. -/
def isValue (t : List Char) : Bool := isNumber t || Pattern.isUsable t

/-! ### Directives -/

/-- The next place from `i` on where a character satisfies a test. -/
def place? (t : List Char) (i : Nat) (test : Char → Bool) : Option Nat :=
  ((t.drop i).findIdx? test).map (i + ·)

/-- What is left of a text after so many bytes, unless a character reaches across the place. -/
def dropBytes? : Nat → List Char → Option (List Char)
  | 0, t => some t
  | _ + 1, [] => none
  | n + 1, c :: rest => if c.utf8Size ≤ n + 1 then dropBytes? (n + 1 - c.utf8Size) rest else none

/-- What stands in the directive `d`, whose shape is `t`, from a place of the shape on. -/
def after? (d t : List Char) (i : Nat) : Option (List Char) :=
  dropBytes? (String.ofList (t.take i)).utf8ByteSize d

/-- What stands between two places. -/
def cut? (d t : List Char) (i j : Nat) : Option (List Char) := do
  let first ← after? d t i
  let last ← after? d t j
  return first.take (first.length - last.length)

/-- Reads what follows the brackets of the directive `d`, whose shape is `t`. -/
def readEnd? (d t : List Char) (i : Nat) (r : LogRule) : Option LogRule :=
  match t[i]? with
  | none => some r
  | some '=' => do return { r with limit := ← readLimitAfter? (← after? d t (i + 1)) }
  | some _ => none

/-- Reads a field: its name, and whether a value is asked for. Of several equals signs the first two
    count. -/
def readField? (t : List Char) : Option (String × Bool) :=
  if t = [] then none
  else
    match Text.pieces '=' t with
    | name :: value :: _ => if isValue value then some (String.ofList name, true) else none
    | _ => some (String.ofList t, false)

/-- Reads from within the brackets of the directive `d` on, whose shape is `t`. A field's value can
    only be that of a span's field. -/
def readBrackets? (d t : List Char) (i : Nat) (topic : Option String) : Option LogRule := do
  let j ← place? t i fun c => c = ']' ∨ c = '\x7b'
  if t[j]? = some ']' then
    readEnd? d t (j + 1) { topic := topic, isOfSpans := true, limit := some .trace }
  else
    let k ← place? t (j + 1) (· = '\x7d')
    if t[k + 1]? ≠ some ']' then none
    else
      let (name, asksValue) ← readField? (← cut? d t (j + 1) k)
      readEnd? d t (k + 2)
        { topic := topic
          field := some name
          isOfSpans := i < j || asksValue
          limit := some .trace }

/-- Whether a directive may begin with a character. -/
def mayBegin (c : Char) : Bool := ['[', '-', ':', '_'].contains c || Text.isLetterOrNumeral c

/-- Reads a directive that is nothing but a level or a topic. -/
def readWord (d : List Char) : LogRule :=
  match readLimit? d with
  | some limit => { limit := limit }
  | none => { topic := some (String.ofList d), limit := some .trace }

/-- Reads a directive. -/
def read? (d : List Char) : Option LogRule :=
  let t := Text.trim d
  if !t.head?.any mayBegin then none
  else
    match place? t 0 fun c => c = '=' ∨ c = '[' with
    | none => some (readWord d)
    | some 0 => readBrackets? d t 1 none
    | some i => do
      let topic := some (String.ofList (← cut? d t 0 i))
      if t[i]? = some '[' then readBrackets? d t (i + 1) topic
      else readEnd? d t i { topic := topic, limit := some .trace }

end LogRule

namespace LogFilter

/-- Shows what failed and nothing else. -/
def errorsOnly : LogFilter := ⟨[{ limit := some .error }]⟩

/-- Reads a filter. A text without a directive asks for errors only. -/
def read? (text : String) : Option LogFilter :=
  match Text.parts ',' text.toList with
  | [] => some errorsOnly
  | directives => (directives.mapM LogRule.read?).map LogFilter.mk

/-- The filter that a text asks for if it can be read, and the flags otherwise. -/
def choose (text : Option String) (quiet : Bool) (verbose : Nat) : LogFilter :=
  (text.bind read?).getD (ofFlags quiet verbose)

end LogFilter

end RegistryProbe
