import ApiClasses.Json.Decimal

/-!
# JSON values

Objects keep their members in order, each key once.
-/

namespace ApiClasses

/-- A number as its text spells it: an integer of 64 bits, or a double. -/
inductive Number where
  /-- an integer from zero to `2 ^ 64 - 1` -/
  | natural (n : Nat)
  /-- the negative of an integer from one to `2 ^ 63` -/
  | negated (n : Nat)
  /-- anything with a fraction or an exponent, too large for 64 bits, or `-0` -/
  | double (negative : Bool) (magnitude : Binary64)
  deriving Repr, DecidableEq

/-- A JSON value. -/
inductive Json where
  /-- the literal `null` -/
  | null
  /-- a truth value -/
  | bool (value : Bool)
  /-- a number -/
  | number (value : Number)
  /-- a string -/
  | string (value : String)
  /-- an array -/
  | array (elements : List Json)
  /-- an object -/
  | object (members : List (String × Json))
  deriving Repr

namespace Json

/-- The members of an object, in order. -/
abbrev Members := List (String × Json)

/-- The keys, in order. -/
def Members.keys (members : Members) : List String := members.map (·.1)

/-- The value under a key. -/
def Members.get? (members : Members) (key : String) : Option Json :=
  (members.find? (·.1 == key)).map (·.2)

/-- Puts a value under a key: a key that is there keeps its place, a new one goes
to the end. -/
def Members.put : Members → String → Json → Members
  | [], key, value => [(key, value)]
  | (k, v) :: rest, key, value =>
    if k == key then (k, value) :: rest else (k, v) :: Members.put rest key value

/-- The members, if the value is an object. -/
def members? : Json → Option Members
  | .object members => some members
  | _ => none

/-- The text, if the value is a string. -/
def string? : Json → Option String
  | .string value => some value
  | _ => none

theorem eq_string_of_string? {value : Json} {text : String} (h : value.string? = some text) :
    value = .string text := by
  cases value with
  | string _ => exact congrArg Json.string (Option.some.inj h)
  | null | bool _ | number _ | array _ | object _ => cases h

/-- The value under a key, if the value is an object that has the key. -/
def get? (value : Json) (key : String) : Option Json :=
  value.members?.bind (·.get? key)

/-- The name of the value's type. -/
def typeName : Json → String
  | .null => "null"
  | .bool _ => "boolean"
  | .number _ => "number"
  | .string _ => "string"
  | .array _ => "array"
  | .object _ => "object"

/-! ## Telling values apart -/

mutual

/-- Are the values the same? -/
def same : Json → Json → Bool
  | .null, .null => true
  | .bool a, .bool b => a == b
  | .number a, .number b => decide (a = b)
  | .string a, .string b => a == b
  | .array as, .array bs => sameElements as bs
  | .object as, .object bs => sameMembers as bs
  | _, _ => false

/-- Are the elements the same? -/
def sameElements : List Json → List Json → Bool
  | [], [] => true
  | a :: as, b :: bs => same a b && sameElements as bs
  | _, _ => false

/-- Are the members the same, in the same order? -/
def sameMembers : List (String × Json) → List (String × Json) → Bool
  | [], [] => true
  | (k, a) :: as, (l, b) :: bs => k == l && same a b && sameMembers as bs
  | _, _ => false

end

mutual

theorem same_iff : (a b : Json) → (same a b = true ↔ a = b)
  | .null, b => by cases b <;> simp [same]
  | .bool _, b => by cases b <;> simp [same]
  | .number _, b => by cases b <;> simp [same]
  | .string _, b => by cases b <;> simp [same]
  | .array as, b => by
    cases b with
    | array bs => simp [same, sameElements_iff as bs]
    | null | bool _ | number _ | string _ | object _ => simp [same]
  | .object as, b => by
    cases b with
    | object bs => simp [same, sameMembers_iff as bs]
    | null | bool _ | number _ | string _ | array _ => simp [same]

theorem sameElements_iff : (as bs : List Json) → (sameElements as bs = true ↔ as = bs)
  | [], bs => by cases bs <;> simp [sameElements]
  | a :: as, bs => by
    cases bs with
    | nil => simp [sameElements]
    | cons b bs => simp [sameElements, same_iff a b, sameElements_iff as bs]

theorem sameMembers_iff : (as bs : List (String × Json)) → (sameMembers as bs = true ↔ as = bs)
  | [], bs => by cases bs <;> simp [sameMembers]
  | (k, a) :: as, bs => by
    cases bs with
    | nil => simp [sameMembers]
    | cons b bs => simp [sameMembers, same_iff a b.2, sameMembers_iff as bs, Prod.ext_iff]

end

instance : DecidableEq Json := fun a b => decidable_of_iff _ (same_iff a b)

/-! ## What putting shows -/

/-- What was put under a key is found under it. -/
theorem Members.get?_put_self (members : Members) (key : String) (value : Json) :
    (members.put key value).get? key = some value := by
  induction members with
  | nil => simp [put, get?]
  | cons entry rest ih =>
    obtain ⟨k, v⟩ := entry
    by_cases h : k = key
    · simp [put, get?, h]
    · simpa [put, get?, h] using ih

/-- Other keys keep their values. -/
theorem Members.get?_put_of_ne {members : Members} {key other : String} (value : Json)
    (h : other ≠ key) : (members.put key value).get? other = members.get? other := by
  induction members with
  | nil => simp [put, get?, Ne.symm h]
  | cons entry rest ih =>
    obtain ⟨k, v⟩ := entry
    by_cases hk : k = key
    · subst hk
      simp [put, get?, Ne.symm h]
    · by_cases ho : k = other
      · simp [put, get?, ho, h]
      · simpa [put, get?, hk, ho] using ih

@[simp] theorem Members.keys_nil : Members.keys [] = [] := rfl

@[simp] theorem Members.keys_cons (key : String) (value : Json) (rest : Members) :
    Members.keys ((key, value) :: rest) = key :: rest.keys := rfl

/-- Keys stay in the order in which they were first put. -/
theorem Members.keys_put (members : Members) (key : String) (value : Json) :
    (members.put key value).keys =
      if key ∈ members.keys then members.keys else members.keys ++ [key] := by
  induction members with
  | nil => rfl
  | cons entry rest ih =>
    obtain ⟨k, v⟩ := entry
    by_cases hk : k = key
    · simp [put, hk]
    · rw [put, if_neg (by simpa using hk), keys_cons, ih]
      by_cases hm : key ∈ Members.keys rest
      · simp [hm]
      · simp [hm, Ne.symm hk]

/-- No key comes twice. -/
theorem Members.nodup_keys_put {members : Members} (key : String) (value : Json)
    (h : members.keys.Nodup) : (members.put key value).keys.Nodup := by
  rw [keys_put]
  split
  · exact h
  · next hk =>
    refine List.nodup_append.2 ⟨h, by simp, ?_⟩
    rintro k hmem other hother rfl
    exact hk (List.mem_singleton.1 hother ▸ hmem)

end Json

end ApiClasses
