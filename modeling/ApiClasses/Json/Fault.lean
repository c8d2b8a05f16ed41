/-!
# Faults of a JSON text

What can be wrong with a text, and where. The place is told as a line and a
column, both derived from one number of bytes.
-/

namespace ApiClasses.Json

/-- What is wrong with a text. -/
inductive Reason where
  /-- the text ends where a value is due -/
  | valueEnds
  /-- the text ends inside an array -/
  | listEnds
  /-- the text ends inside an object -/
  | objectEnds
  /-- the text ends inside a string -/
  | stringEnds
  /-- no value starts like this -/
  | expectedValue
  /-- a literal is misspelt -/
  | expectedLiteral
  /-- no colon after a key -/
  | expectedColon
  /-- neither a comma nor the end after an element -/
  | expectedListComma
  /-- neither a comma nor the end after a member -/
  | expectedObjectComma
  /-- the end right after a comma -/
  | trailingComma
  /-- a member that does not start with a string -/
  | keyNotString
  /-- a number is misspelt -/
  | invalidNumber
  /-- a number too large for a double -/
  | numberOutOfRange
  /-- an unknown escape in a string -/
  | invalidEscape
  /-- half of a surrogate pair where the other half is due -/
  | loneSurrogate
  /-- no second escape after half of a surrogate pair -/
  | pairEnds
  /-- a control in a string -/
  | controlCharacter
  /-- arrays and objects nested too deeply -/
  | tooDeep
  /-- something after the value -/
  | trailingCharacters
  deriving Repr, DecidableEq

/-- The wording of a reason. -/
def Reason.message : Reason → String
  | .valueEnds => "EOF while parsing a value"
  | .listEnds => "EOF while parsing a list"
  | .objectEnds => "EOF while parsing an object"
  | .stringEnds => "EOF while parsing a string"
  | .expectedValue => "expected value"
  | .expectedLiteral => "expected ident"
  | .expectedColon => "expected `:`"
  | .expectedListComma => "expected `,` or `]`"
  | .expectedObjectComma => "expected `,` or `\x7d`"
  | .trailingComma => "trailing comma"
  | .keyNotString => "key must be a string"
  | .invalidNumber => "invalid number"
  | .numberOutOfRange => "number out of range"
  | .invalidEscape => "invalid escape"
  | .loneSurrogate => "lone leading surrogate in hex escape"
  | .pairEnds => "unexpected end of hex escape"
  | .controlCharacter => "control character (\\u0000-\\u001F) found while parsing a string"
  | .tooDeep => "recursion limit exceeded"
  | .trailingCharacters => "trailing characters"

/-- A reason and its place. -/
structure Fault where
  /-- what is wrong -/
  reason : Reason
  /-- one more than the line feeds before the place -/
  line : Nat
  /-- the bytes between the last line feed and the place -/
  column : Nat
  deriving Repr, DecidableEq

/-- The wording of a fault. -/
def Fault.message (fault : Fault) : String :=
  fault.reason.message ++ " at line " ++ toString fault.line ++
    " column " ++ toString fault.column

/-! ## Places -/

/-- The number of bytes that characters take. -/
def byteSize (cs : List Char) : Nat :=
  cs.foldr (fun c bytes => c.utf8Size + bytes) 0

/-- Counts lines and columns over the first `bytes` bytes; a character cut by the
end counts for the bytes before it. -/
def place (line column : Nat) : List Char → Nat → Nat × Nat
  | [], _ => (line, column)
  | c :: cs, bytes =>
    if bytes < c.utf8Size then (line, column + bytes)
    else if c == '\n' then place (line + 1) 0 cs (bytes - 1)
    else place line (column + c.utf8Size) cs (bytes - c.utf8Size)

/-- The fault `reach` bytes after the point where only `rest` of the text was
left, or at the end of the text if that is nearer. -/
def Fault.at (text : List Char) (reason : Reason) (rest : List Char) (reach : Nat) : Fault :=
  let (line, column) := place 1 0 text (byteSize text - byteSize rest + reach)
  ⟨reason, line, column⟩

end ApiClasses.Json
