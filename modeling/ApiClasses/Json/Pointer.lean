import ApiClasses.Json.Value

/-!
# JSON pointers

A pointer is a text that leads from a value to a place inside it: nothing for
the value itself, otherwise a slash and a token for every step. In a token `~1`
stands for a slash and `~0` for a tilde; a tilde before anything else stands for
itself, so one place may have several spellings.
-/

namespace ApiClasses.Json.Pointer

/-! ## Tokens -/

/-- A key as a token. -/
def escapeChars : List Char → List Char
  | [] => []
  | '~' :: cs => '~' :: '0' :: escapeChars cs
  | '/' :: cs => '~' :: '1' :: escapeChars cs
  | c :: cs => c :: escapeChars cs

/-- Every `~1` becomes a slash. -/
def unescapeSlashes : List Char → List Char
  | [] => []
  | '~' :: '1' :: cs => '/' :: unescapeSlashes cs
  | c :: cs => c :: unescapeSlashes cs

/-- Every `~0` becomes a tilde. -/
def unescapeTildes : List Char → List Char
  | [] => []
  | '~' :: '0' :: cs => '~' :: unescapeTildes cs
  | c :: cs => c :: unescapeTildes cs

/-- The key that a token stands for: slashes first, then tildes. -/
def unescapeChars (token : List Char) : List Char :=
  unescapeTildes (unescapeSlashes token)

/-- A key as a token. -/
def escape (key : String) : String := String.ofList (escapeChars key.toList)

/-- The key that a token stands for. -/
def unescape (token : String) : String := String.ofList (unescapeChars token.toList)

theorem unescapeSlashes_escapeChars (key : List Char) :
    unescapeSlashes (escapeChars key) =
      key.flatMap fun c => if c = '~' then ['~', '0'] else [c] := by
  induction key with
  | nil => rfl
  | cons c cs ih =>
    by_cases ht : c = '~'
    · subst ht
      simp [escapeChars, unescapeSlashes, ih]
    · by_cases hs : c = '/'
      · subst hs
        simp [escapeChars, unescapeSlashes, ih]
      · simp [escapeChars, unescapeSlashes, ht, ih]

theorem unescapeTildes_flatMap (key : List Char) :
    unescapeTildes (key.flatMap fun c => if c = '~' then ['~', '0'] else [c]) = key := by
  induction key with
  | nil => rfl
  | cons c cs ih =>
    by_cases ht : c = '~'
    · subst ht
      simp [unescapeTildes, ih]
    · simp [unescapeTildes, ht, ih]

/-- A key's token stands for the key. -/
theorem unescapeChars_escapeChars (key : List Char) : unescapeChars (escapeChars key) = key := by
  rw [unescapeChars, unescapeSlashes_escapeChars, unescapeTildes_flatMap]

theorem unescape_escape (key : String) : unescape (escape key) = key := by
  simp [unescape, escape, unescapeChars_escapeChars]

/-- A key's token holds no slash. -/
theorem slash_notMem_escapeChars (key : List Char) : '/' ∉ escapeChars key := by
  induction key with
  | nil => simp [escapeChars]
  | cons c cs ih =>
    by_cases ht : c = '~'
    · subst ht
      simp [escapeChars, ih]
    · by_cases hs : c = '/'
      · subst hs
        simp [escapeChars, ih]
      · rw [escapeChars]
        · exact fun hm => (List.mem_cons.1 hm).elim (fun he => hs he.symm) ih
        · exact ht
        · exact hs

/-- The pointer one step further: to the value under a key. -/
def child (pointer key : String) : String := pointer ++ "/" ++ escape key

/-- Cuts at every slash; what precedes the first one comes first. -/
def splitSlashes : List Char → List Char × List (List Char)
  | [] => ([], [])
  | c :: cs =>
    let (first, later) := splitSlashes cs
    if c == '/' then ([], first :: later) else (c :: first, later)

/-! ## Places -/

/-- The index that a token stands for in an array: decimal digits without a
leading zero. -/
def index? (token : List Char) : Option Nat :=
  match token with
  | [] => none
  | ['0'] => some 0
  | '0' :: _ => none
  | cs =>
    if cs.all Char.isDigit then some (cs.foldl (fun n c => 10 * n + (c.toNat - '0'.toNat)) 0)
    else none

/-- One step into a value. -/
def step? (value : Json) (token : List Char) : Option Json :=
  let key := unescapeChars token
  match value with
  | .object members => Members.get? members (String.ofList key)
  | .array elements => (index? key).bind (elements[·]?)
  | _ => none

/-- Follows the tokens one after the other. -/
def follow? : Json → List (List Char) → Option Json
  | value, [] => some value
  | value, token :: tokens => (step? value token).bind (follow? · tokens)

/-- The tokens of a pointer: none for the empty text, otherwise what follows
each slash. A text that starts otherwise is no pointer. -/
def tokens? (pointer : List Char) : Option (List (List Char)) :=
  match pointer with
  | [] => some []
  | '/' :: cs => let (first, later) := splitSlashes cs; some (first :: later)
  | _ => none

/-- The place in `root` that a pointer leads to. -/
def resolve? (root : Json) (pointer : String) : Option Json :=
  (tokens? pointer.toList).bind (follow? root)

/-! ## How many there are

A place has as many spellings as its keys give room for: each tilde of a key may
stand escaped or, before a harmless character, as it is. The count bounds how
many different pointers can lead anywhere at all. -/

/-- A bound on the spellings of a key. -/
def keySpellings (key : String) : Nat := Nat.pow 2 (key.toList.count '~')

mutual

/-- A bound on the pointers that lead from a value to a place in it. -/
def spellings : Json → Nat
  | .array elements => 1 + elementSpellings elements
  | .object members => 1 + memberSpellings members
  | _ => 1

/-- The same for the elements of an array. -/
def elementSpellings : List Json → Nat
  | [] => 0
  | value :: rest => spellings value + elementSpellings rest

/-- The same for the members of an object. -/
def memberSpellings : List (String × Json) → Nat
  | [] => 0
  | (key, value) :: rest => keySpellings key * spellings value + memberSpellings rest

end

end ApiClasses.Json.Pointer
