import ApiClasses.Proofs.Loading.Graph
import Mathlib.Data.List.Induction

/-!
# Addresses

The loader names a place by the keys that lead to it: for each of them a slash and the key as a
token. Whatever the keys are, such an address leads where they lead, and nowhere else
(`resolve?_address`), and different keys make different addresses (`address_injective`). So the
name of a schema can be read off its address, and it is only there for the schemas at the top
level (`addresses_faithful`).
-/

namespace ApiClasses.Json

/-! ## Keys that lead to a value -/

/-- The keys, followed one after the other, lead to the value. The elements of an array stand
under the decimal texts of their numbers. -/
inductive LeadsAlong : Json → List String → Json → Prop where
  /-- no key is left -/
  | here (value : Json) : LeadsAlong value [] value
  /-- one step into an object -/
  | member {members key next keys value} : Members.get? members key = some next →
    LeadsAlong next keys value → LeadsAlong (.object members) (key :: keys) value
  /-- one step into an array -/
  | element {elements key next keys value} (index : Nat) :
    key.toList = Nat.toDigits 10 index → elements[index]? = some next →
    LeadsAlong next keys value → LeadsAlong (.array elements) (key :: keys) value

namespace Pointer

variable {root value : Json} {keys others : List String}

/-! ## Tokens -/

/-- The text with some characters in place of each occurrence of one. -/
def replaced (c : Char) (others text : List Char) : List Char :=
  text.flatMap fun d => if d = c then others else [d]

/-- The token of a key has the tildes replaced first, and then the slashes. -/
theorem escapeChars_eq_replaced (key : List Char) :
    escapeChars key = replaced '/' ['~', '1'] (replaced '~' ['~', '0'] key) := by
  induction key with
  | nil => rfl
  | cons c cs ih =>
    have hfirst (one : List Char) : replaced '/' ['~', '1'] (one ++ replaced '~' ['~', '0'] cs) =
        replaced '/' ['~', '1'] one ++ escapeChars cs := by
      rw [ih, replaced, List.flatMap_append]
      rfl
    have hcons : replaced '~' ['~', '0'] (c :: cs) =
        (if c = '~' then ['~', '0'] else [c]) ++ replaced '~' ['~', '0'] cs :=
      List.flatMap_cons ..
    rw [hcons, hfirst, escapeChars.eq_def]
    split
    · next heq => cases heq
    · next heq =>
      obtain ⟨rfl, rfl⟩ := List.cons.inj heq
      rfl
    · next heq =>
      obtain ⟨rfl, rfl⟩ := List.cons.inj heq
      rfl
    · next htilde hslash heq =>
      obtain ⟨rfl, rfl⟩ := List.cons.inj heq
      rw [if_neg htilde, replaced, List.flatMap_singleton, if_neg hslash, List.singleton_append]

/-- One step into a value by the token of a key. -/
theorem step?_escape (value : Json) (key : String) :
    step? value (escape key).toList =
      match value with
      | .object members => Members.get? members key
      | .array elements => (index? key.toList).bind (elements[·]?)
      | _ => none := by
  have hkey : unescapeChars (escape key).toList = key.toList := by
    rw [escape, String.toList_ofList, unescapeChars_escapeChars]
  cases value with
  | object members => rw [step?, hkey, String.ofList_toList]
  | array elements => rw [step?, hkey]
  | null | bool _ | number _ | string _ => rfl

/-! ## Addresses -/

/-- The pointer that keys make: for each of them a slash and its token. -/
def address (keys : List String) : String :=
  String.join (keys.map fun key => "/" ++ escape key)

/-- One key more leads one step further. -/
theorem address_concat (keys : List String) (key : String) :
    address (keys ++ [key]) = child (address keys) key := by
  rw [address, List.map_append, String.join_append, List.map_singleton, child, address,
    String.append_assoc]
  simp [String.join_cons]

/-- The tokens of an address are those of the keys. -/
theorem tokens?_address (keys : List String) :
    tokens? (address keys).toList = some (keys.map fun key => (escape key).toList) := by
  induction keys using List.reverseRecOn with
  | nil => rfl
  | append_singleton keys key ih =>
    rw [address_concat, child, tokens?_append (slash_notMem_escape key) ih, List.map_append,
      List.map_singleton]

theorem escape_injective : Function.Injective escape :=
  Function.LeftInverse.injective unescape_escape

/-- Different keys make different addresses. -/
theorem address_injective : Function.Injective address := by
  intro keys others h
  have htokens := tokens?_address keys
  rw [h, tokens?_address others] at htokens
  refine (List.map_injective_iff.mpr fun key other hsame => ?_) (Option.some.inj htokens).symm
  exact escape_injective (String.toList_inj.mp hsame)

/-- An address leads where the keys lead. -/
theorem resolve?_address :
    resolve? root (address keys) = some value ↔ LeadsAlong root keys value := by
  rw [resolve?, tokens?_address, Option.bind_some]
  induction keys generalizing root with
  | nil =>
    constructor
    · intro h
      obtain rfl := Option.some.inj h
      exact .here root
    · rintro ⟨⟩
      rfl
  | cons key keys ih =>
    rw [List.map_cons, follow?, Option.bind_eq_some_iff]
    constructor
    · rintro ⟨next, hstep, hrest⟩
      rw [step?_escape] at hstep
      cases root with
      | object members => exact .member hstep (ih.mp hrest)
      | array elements =>
        obtain ⟨index, hindex, hnext⟩ := Option.bind_eq_some_iff.mp hstep
        exact .element index (index?_eq_some_iff.mp hindex) hnext (ih.mp hrest)
      | null | bool _ | number _ | string _ => cases hstep
    · intro h
      cases h with
      | @member _ _ next _ _ hget hrest =>
        exact ⟨next, (step?_escape _ key).trans hget, ih.mpr hrest⟩
      | @element _ _ next _ _ index hkey hget hrest =>
        refine ⟨next, (step?_escape _ key).trans ?_, ih.mpr hrest⟩
        exact Option.bind_eq_some_iff.mpr ⟨index, index?_eq_some_iff.mpr hkey, hget⟩

end Pointer

end ApiClasses.Json

namespace ApiClasses.Loading

open Json (LeadsAlong)
open Json.Pointer (address address_concat address_injective child escape escapeChars_eq_replaced
  replaced resolve? resolve?_address slash_notMem_escape tokens?_address tokens?_append unescape
  unescape_escape)

/-- The name in an address is the key below the schemas, if there are just these two keys. -/
theorem nameAtTop?_address {keys : List String} {name : String} :
    nameAtTop? (address keys) = some name ↔ keys = ["schemas", name] := by
  have htop : schemasLocation = address ["schemas"] := by decide
  rw [nameAtTop?_eq_some_iff]
  constructor
  · rintro ⟨token, hslash, haddress, rfl⟩
    have htokens := tokens?_address keys
    rw [haddress, htop, tokens?_append hslash (tokens?_address ["schemas"])] at htokens
    -- the keys are what the tokens stand for
    have hkeys := congrArg (List.map fun token => unescape (String.ofList token))
      (Option.some.inj htokens)
    simpa [Function.comp_def, unescape_escape] using hkeys.symm
  · rintro rfl
    refine ⟨escape name, slash_notMem_escape name, ?_, unescape_escape name⟩
    rw [htop]
    exact address_concat ["schemas"] name

/-- **Addresses are faithful.** An address grows by a slash and the token of one more key, where
a token has the tildes replaced first and then the slashes, and can be turned back into its key.
The address of some keys leads exactly where the keys lead, no other keys have the same address,
and it has a name at the top level exactly if the keys are that of the schemas and the name. -/
theorem addresses_faithful :
    (∀ keys key, address (keys ++ [key]) = child (address keys) key) ∧
      (∀ key, (escape key).toList =
          replaced '/' ['~', '1'] (replaced '~' ['~', '0'] key.toList) ∧
        unescape (escape key) = key) ∧
      (∀ root keys value, resolve? root (address keys) = some value ↔
        LeadsAlong root keys value) ∧
      (∀ keys others, address keys = address others → keys = others) ∧
      ∀ keys name, nameAtTop? (address keys) = some name ↔ keys = ["schemas", name] := by
  refine ⟨address_concat, fun key => ⟨?_, unescape_escape key⟩, fun _ _ _ => resolve?_address,
    fun _ _ h => address_injective h, fun _ _ => nameAtTop?_address⟩
  rw [escape, String.toList_ofList, escapeChars_eq_replaced]

/-- A value under keys that look like tokens, like nothing and like two keys. -/
def oddKeys : Json :=
  .object [("~1", .object [("", .object [("a/b", .array [.null, .bool true])])])]

/-- They are told apart all the same. -/
theorem odd_keys_lead :
    address ["~1", "", "a/b", "1"] = "/~01//a~1b/1" ∧
      resolve? oddKeys (address ["~1", "", "a/b", "1"]) = some (.bool true) ∧
      address ["a/b"] ≠ address ["a", "b"] ∧
      nameAtTop? (address ["schemas", "a/b"]) = some "a/b" := by
  obtain ⟨-, -, hleads, hdiffer, hname⟩ := addresses_faithful
  refine ⟨by decide, (hleads ..).mpr ?_, fun h => ?_, (hname ..).mpr rfl⟩
  · exact .member rfl (.member rfl (.member rfl (.element 1 (by decide) rfl (.here _))))
  · exact absurd (hdiffer _ _ h) (by decide)

end ApiClasses.Loading
