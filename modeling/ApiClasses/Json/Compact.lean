import ApiClasses.Json.Value

/-!
# Compact JSON text

A value written without blanks, members in order. Only quotes, backslashes and
controls are escaped; every other character stands as it is.
-/

namespace ApiClasses

/-- The text of a number. -/
def Number.text : Number → List Char
  | .natural n => Nat.toDigits 10 n
  | .negated n => '-' :: Nat.toDigits 10 n
  | .double negative magnitude =>
    (if negative then ['-'] else []) ++ (Decimal.shortest magnitude).text

namespace Json

/-- A control by its number: four hexadecimal digits in lower case. -/
def escapeControl (c : Char) : List Char :=
  let digits := Nat.toDigits 16 c.toNat
  ['\\', 'u'] ++ List.replicate (4 - digits.length) '0' ++ digits

/-- One character inside a string. -/
def escapeChar (c : Char) : List Char :=
  match c with
  | '"' => ['\\', '"']
  | '\\' => ['\\', '\\']
  | '\x08' => ['\\', 'b']
  | '\x0c' => ['\\', 'f']
  | '\n' => ['\\', 'n']
  | '\r' => ['\\', 'r']
  | '\t' => ['\\', 't']
  | c => if c.toNat < 0x20 then escapeControl c else [c]

/-- A string in quotes. -/
def quoted (s : String) : List Char :=
  '"' :: s.toList.flatMap escapeChar ++ ['"']

mutual

/-- The text of a value. -/
def compactChars : Json → List Char
  | .null => ['n', 'u', 'l', 'l']
  | .bool true => ['t', 'r', 'u', 'e']
  | .bool false => ['f', 'a', 'l', 's', 'e']
  | .number n => n.text
  | .string s => quoted s
  | .array elements => '[' :: compactElements elements ++ [']']
  | .object members => '\x7b' :: compactMembers members ++ ['\x7d']

/-- The texts of the elements, commas between them. -/
def compactElements : List Json → List Char
  | [] => []
  | [value] => compactChars value
  | value :: rest => compactChars value ++ ',' :: compactElements rest

/-- The texts of the members, commas between them. -/
def compactMembers : List (String × Json) → List Char
  | [] => []
  | [(key, value)] => quoted key ++ ':' :: compactChars value
  | (key, value) :: rest => quoted key ++ ':' :: compactChars value ++ ',' :: compactMembers rest

end

/-- The value in compact form. -/
def compact (value : Json) : String :=
  String.ofList value.compactChars

end Json

end ApiClasses
