import ApiClasses.Json.Value
import ApiClasses.Json.Fault

/-!
# Reading JSON text

A reader takes characters off the front of a text or stops with a reason. Where
it stops is told by the text that is left and by how many bytes further the
offence reaches; line and column are computed once, at the very end.

Arrays and objects may be nested at most `deepest` times.
-/

namespace ApiClasses.Json

/-! ## Readers -/

/-- A reader that gave up. -/
structure Stop where
  /-- what is wrong -/
  reason : Reason
  /-- the text left at that point -/
  rest : List Char
  /-- how many bytes further the offence reaches -/
  reach : Nat

/-- A reader takes characters off the front of a text. -/
abbrev Reading := StateT (List Char) (Except Stop)

/-- Stops here; the offence is the next byte. -/
def stop (reason : Reason) : Reading α := fun rest => .error ⟨reason, rest, 1⟩

/-- Stops here; the offence is what was taken last. -/
def stopAfter (reason : Reason) : Reading α := fun rest => .error ⟨reason, rest, 0⟩

/-- The next character, left in place. -/
def peek? : Reading (Option Char) := fun rest => .ok (rest.head?, rest)

/-- Takes some characters off. -/
def skip (n : Nat) : Reading Unit := fun rest => .ok ((), rest.drop n)

/-- Takes off everything blank. -/
def skipBlanks : Reading Unit := fun rest =>
  .ok ((), rest.dropWhile fun c => c == ' ' || c == '\n' || c == '\t' || c == '\r')

/-- Takes off all digits and gives their values. -/
def digits : Reading (List Nat) := fun rest =>
  .ok ((rest.takeWhile Char.isDigit).map fun c => c.toNat - '0'.toNat,
    rest.dropWhile Char.isDigit)

/-! ## Literals -/

/-- Takes off exactly these characters. -/
def literal : List Char → Reading Unit
  | [] => pure ()
  | c :: cs => do
    match ← peek? with
    | none => stop .valueEnds
    | some d => if d == c then skip 1; literal cs else stop .expectedLiteral

/-! ## Numbers -/

/-- Appends digits as long as the result stays within the limit; gives the
result and the digits that were left over. -/
def absorb (limit n : Nat) : List Nat → Nat × List Nat
  | [] => (n, [])
  | d :: ds => if 10 * n + d ≤ limit then absorb limit (10 * n + d) ds else (n, d :: ds)

/-- The largest significand. -/
def largestSignificand : Nat := Nat.pow 2 64 - 1

/-- The largest exponent that is told apart from larger ones. -/
def largestExponent : Nat := Nat.pow 2 31 - 1

/-- The double for a sign, a significand and an exponent. -/
def toDouble (negative : Bool) (significand : Nat) (exponent : Int) : Reading Number :=
  match Binary64.ofParts? significand exponent with
  | some magnitude => pure (.double negative magnitude)
  | none => stopAfter .numberOutOfRange

/-- What follows the letter of an exponent. An exponent beyond all bounds makes
the number zero or too large, and it is too large as soon as the digit that says
so is taken. -/
def exponentPart (negative : Bool) (significand : Nat) (exponent : Int) : Reading Number := do
  let sign ← peek?
  if sign == some '+' || sign == some '-' then skip 1
  let start ← get
  let ds ← digits
  if ds.isEmpty then
    stop (if start.isEmpty then .valueEnds else .invalidNumber)
  let (size, left) := absorb largestExponent 0 ds
  if left.isEmpty then
    toDouble negative significand (if sign == some '-' then exponent - size else exponent + size)
  else if significand != 0 && sign != some '-' then
    set (start.drop (ds.length - left.length + 1))
    stopAfter .numberOutOfRange
  else
    return .double negative Binary64.zero

/-- What may follow the digits of a number once it is bound to be a double. -/
def doubleEnd (negative : Bool) (significand : Nat) (exponent : Int) : Reading Number := do
  match ← peek? with
  | some 'e' | some 'E' => skip 1; exponentPart negative significand exponent
  | _ => toDouble negative significand exponent

/-- What follows the point. Digits that no longer fit the significand are
dropped. -/
def fractionPart (negative : Bool) (significand : Nat) (exponent : Int) : Reading Number := do
  let ds ← digits
  if ds.isEmpty then
    stop (if (← get).isEmpty then .valueEnds else .invalidNumber)
  let (significand, left) := absorb largestSignificand significand ds
  doubleEnd negative significand (exponent - (ds.length - left.length : Nat))

/-- What may follow the digits before the point. `dropped` of them no longer
fitted the significand, which makes the number a double. -/
def integerEnd (negative : Bool) (significand dropped : Nat) : Reading Number := do
  match ← peek? with
  | some '.' => skip 1; fractionPart negative significand dropped
  | some 'e' | some 'E' => skip 1; exponentPart negative significand dropped
  | _ =>
    if 0 < dropped then toDouble negative significand dropped
    else if !negative then return .natural significand
    else if 0 < significand && significand ≤ Nat.pow 2 63 then return .negated significand
    else toDouble true significand 0

/-- A number without its sign. A zero in front stands alone. -/
def numberPart (negative : Bool) : Reading Number := do
  match ← peek? with
  | none => stop .valueEnds
  | some '0' =>
    skip 1
    if (← peek?).any Char.isDigit then stop .invalidNumber
    integerEnd negative 0 0
  | some c =>
    if c.isDigit then
      let (significand, left) := absorb largestSignificand 0 (← digits)
      integerEnd negative significand left.length
    else stop .invalidNumber

/-! ## Strings -/

/-- The value of a hexadecimal digit. -/
def hexDigit? (c : Char) : Option Nat :=
  if c.isDigit then some (c.toNat - '0'.toNat)
  else if 'a' ≤ c && c ≤ 'f' then some (c.toNat - 'a'.toNat + 10)
  else if 'A' ≤ c && c ≤ 'F' then some (c.toNat - 'A'.toNat + 10)
  else none

/-- The value of four hexadecimal digits. -/
def hexUnit? : List Char → Option Nat
  | [a, b, c, d] => do
    return ((← hexDigit? a) * 16 + (← hexDigit? b)) * 256 + (← hexDigit? c) * 16 + (← hexDigit? d)
  | _ => none

/-- The number after a `\u`, which has to pass a test. Four bytes are read as one,
whatever they are. -/
def hexUnit (fits : Nat → Bool) : Reading Nat := fun rest =>
  match hexUnit? (rest.take 4) with
  | some unit =>
    if fits unit then .ok (unit, rest.drop 4) else .error ⟨.loneSurrogate, rest, 4⟩
  | none =>
    .error ⟨if byteSize rest < 4 then .stringEnds else .invalidEscape, rest, 4⟩

/-- Is this the first half of a surrogate pair? -/
def isLeading (unit : Nat) : Bool := 0xD800 ≤ unit && unit ≤ 0xDBFF

/-- Is this the second half of a surrogate pair? -/
def isTrailing (unit : Nat) : Bool := 0xDC00 ≤ unit && unit ≤ 0xDFFF

/-- Takes off a character that the second half of a pair starts with. -/
def pairMark (c : Char) : Reading Unit := do
  match ← peek? with
  | none => stop .stringEnds
  | some d => if d == c then skip 1 else stop .pairEnds

/-- The character after a `\u`: one number, or two for a surrogate pair. -/
def unicodeEscape : Reading Char := do
  let unit ← hexUnit fun unit => !isTrailing unit
  if isLeading unit then
    pairMark '\\'
    pairMark 'u'
    let second ← hexUnit isTrailing
    return Char.ofNat ((unit - 0xD800) * 0x400 + (second - 0xDC00) + 0x10000)
  else return Char.ofNat unit

/-- The character after a backslash. -/
def escaped : Reading Char := do
  match ← peek? with
  | none => stop .stringEnds
  | some '"' => skip 1; return '"'
  | some '\\' => skip 1; return '\\'
  | some '/' => skip 1; return '/'
  | some 'b' => skip 1; return '\x08'
  | some 'f' => skip 1; return '\x0c'
  | some 'n' => skip 1; return '\n'
  | some 'r' => skip 1; return '\r'
  | some 't' => skip 1; return '\t'
  | some 'u' => skip 1; unicodeEscape
  | some _ => stop .invalidEscape

/-- The rest of a string up to and with the closing quote. Every round takes a
character off, so as many rounds as there are characters are enough. -/
def stringRest : Nat → List Char → Reading String
  | 0, _ => stop .stringEnds
  | rounds + 1, acc => do
    match ← peek? with
    | none => stop .stringEnds
    | some '"' => skip 1; return String.ofList acc.reverse
    | some '\\' => skip 1; stringRest rounds ((← escaped) :: acc)
    | some c =>
      if c.toNat < 0x20 then stop .controlCharacter
      else skip 1; stringRest rounds (c :: acc)

/-- A string, from the opening quote on. -/
def stringValue : Reading String := do
  skip 1
  let rest ← get
  stringRest (rest.length + 1) []

/-! ## Values -/

/-- How many arrays and objects may be open at a time. -/
def deepest : Nat := 127

/-- Takes a colon off. -/
def colon : Reading Unit := do
  skipBlanks
  match ← peek? with
  | none => stop .objectEnds
  | some ':' => skip 1
  | some _ => stop .expectedColon

/-- Takes off the comma before an element or member that is not the first. -/
def comma (missing : Reason) (closing : Char) : Reading Unit := do
  if (← peek?) != some ',' then stop missing
  skip 1
  skipBlanks
  match ← peek? with
  | none => stop .valueEnds
  | some c => if c == closing then stop .trailingComma

mutual

/-- A value. `depth` is how many more arrays and objects may be opened; the
rounds bound the calls, of which no character needs more than two. -/
def value : Nat → Nat → Reading Json
  | 0, _ => stop .valueEnds
  | rounds + 1, depth => do
    skipBlanks
    match ← peek? with
    | none => stop .valueEnds
    | some 'n' => literal ['n', 'u', 'l', 'l']; return .null
    | some 't' => literal ['t', 'r', 'u', 'e']; return .bool true
    | some 'f' => literal ['f', 'a', 'l', 's', 'e']; return .bool false
    | some '-' => skip 1; return .number (← numberPart true)
    | some '"' => return .string (← stringValue)
    | some '[' =>
      match depth with
      | 0 => stop .tooDeep
      | depth + 1 => skip 1; elements rounds depth []
    | some '\x7b' =>
      match depth with
      | 0 => stop .tooDeep
      | depth + 1 => skip 1; members rounds depth []
    | some c =>
      if c.isDigit then return .number (← numberPart false) else stop .expectedValue

/-- The elements of an array, after those already read, and its end. -/
def elements : Nat → Nat → List Json → Reading Json
  | 0, _, _ => stop .listEnds
  | rounds + 1, depth, acc => do
    skipBlanks
    match ← peek? with
    | none => stop .listEnds
    | some ']' => skip 1; return .array acc.reverse
    | some _ =>
      if !acc.isEmpty then comma .expectedListComma ']'
      let element ← value rounds depth
      elements rounds depth (element :: acc)

/-- The members of an object, after those already read, and its end. A repeated
key keeps its first place and takes its last value. -/
def members : Nat → Nat → Members → Reading Json
  | 0, _, _ => stop .objectEnds
  | rounds + 1, depth, acc => do
    skipBlanks
    match ← peek? with
    | none => stop .objectEnds
    | some '\x7d' => skip 1; return .object acc
    | some _ =>
      if !acc.isEmpty then comma .expectedObjectComma '\x7d'
      if (← peek?) != some '"' then stop .keyNotString
      let key ← stringValue
      colon
      let member ← value rounds depth
      members rounds depth (acc.put key member)

end

/-- A whole document: one value and nothing after it. -/
def document (rounds : Nat) : Reading Json := do
  let root ← value rounds deepest
  skipBlanks
  if (← peek?).isSome then stop .trailingCharacters
  return root

/-- Reads a text as one JSON value. -/
def read (text : String) : Except Fault Json :=
  let cs := text.toList
  match (document (2 * cs.length + 1)).run cs with
  | .ok (root, _) => .ok root
  | .error ⟨reason, rest, reach⟩ => .error (Fault.at cs reason rest reach)

/-- A text is read off its characters. -/
theorem read_ofList {cs : List Char} {root : Json}
    (h : ((document (2 * cs.length + 1)).run cs).toOption.map (·.1) = some root) :
    read (String.ofList cs) = .ok root := by
  rw [read, String.toList_ofList]
  rcases hrun : (document (2 * cs.length + 1)).run cs with stop | ⟨root', rest⟩
  · rw [hrun] at h
    cases h
  · rw [hrun] at h
    exact congrArg Except.ok (Option.some.inj h)

end ApiClasses.Json
