import ApiClasses.Proofs.Loading.Identity

/-!
# Errors point at the culprit

Every error about a text that is JSON has a location, and the pointer leads to the value in the
document that the error is about (`errors_point_at_culprit`). Locations are put together
piece by piece on the way down, and a reference starts a new one; that each of them leads to
the value being looked at is what the rules of loading say of all that they enter, so it is
enough to look at the places where they stop (`Refuses.culprit`).
-/

namespace ApiClasses.Loading

open Json (Members)
open Json.Pointer (child resolve?)

/-- The location of the error leads to a value of the document that is what the error says. -/
inductive Culprit (root : Json) : LoadError → Prop where
  /-- a document that is no object -/
  | document {given type} : resolve? root "" = some given → given.NoObject type →
    Culprit root (.invalidValue "" "document" type)
  /-- schemas at the top level that are no object -/
  | schemas {given type} : resolve? root schemasLocation = some given → given.NoObject type →
    Culprit root (.invalidValue schemasLocation "schemas" type)
  /-- a schema that is no object -/
  | schema {location given type} : Reachable root location →
    resolve? root location = some given → given.NoObject type →
    Culprit root (.invalidValue location "schema" type)
  /-- a schema of no known type -/
  | type {location members given} : Reachable root location →
    resolve? root location = some (.object members) → OddType members given →
    Culprit root (.invalidValue location "type" given.told)
  /-- a schema with properties that are no object -/
  | properties {location members given type} : Reachable root location →
    resolve? root location = some (.object members) →
    Members.get? members "properties" = some given → given.NoObject type →
    Culprit root (.invalidValue location "properties" type)
  /-- a reference that is no text, or that is refused -/
  | reference {location members given} : Reachable root location →
    resolve? root location = some (.object members) →
    Members.get? members "$ref" = some given →
    Culprit root (.invalidValue location "$ref" given.told)
  /-- a reference that leads nowhere -/
  | unresolved {location members reference} : Reachable root location →
    resolve? root location = some (.object members) →
    Members.get? members "$ref" = some (.string reference) →
    resolve? root (target reference) = none →
    Culprit root (.unresolvedReference location reference)
  /-- something among the resources -/
  | resource {error} : ResourceFault root error → Culprit root error

/-! ## Schemas -/

variable {root : Json} {following : List String} {progress : Progress} {locations : List String}
  {location other : String} {error : LoadError}

/-- What a reachable location leads to is reachable. -/
theorem Reachable.next (h : Reachable root location) (hnext : other ∈ next root location) :
    Reachable root other := by
  obtain ⟨top, htop, hpath⟩ := h
  exact ⟨top, htop, hpath.tail hnext⟩

/-- What cannot be loaded is the culprit. -/
theorem culprit_of_fault (hreach : Reachable root location)
    (h : finding? root location = some (.fault error)) : Culprit root error := by
  generalize hfound : Finding.fault error = found at h
  cases found_of_finding? h with
  | other hresolve hnone =>
    obtain rfl := Finding.fault.inj hfound
    exact .schema hreach hresolve (Json.noObject_typeName hnone)
  | @misfit members given hresolve hget hstring =>
    obtain rfl := Finding.fault.inj hfound
    have htold : given.compact = given.told := by
      cases given with
      | string text => cases hstring
      | null | bool _ | number _ | array _ | object _ => rfl
    rw [htold]
    exact .reference hreach hresolve hget
  | unresolved hresolve hget htarget =>
    obtain rfl := Finding.fault.inj hfound
    exact .unresolved hreach hresolve hget htarget
  | shapeless hresolve _ houtline =>
    obtain rfl := Finding.fault.inj hfound
    rcases outline_eq_error houtline with ⟨given, hodd, rfl⟩ | ⟨given, hget, hnone, rfl⟩
    · exact .type hreach hresolve hodd
    · exact .properties hreach hresolve hget (Json.noObject_typeName hnone)
  | link | own => cases hfound

/-- Where the rules stop, the culprit is. -/
theorem Refuses.culprit (h : Refuses root following progress locations error)
    (hreach : ∀ location ∈ locations, Reachable root location) : Culprit root error := by
  induction h with
  | fault _ hfind => exact culprit_of_fault (hreach _ List.mem_cons_self) hfind
  | circle _ hfind _ =>
    cases found_of_finding? hfind with
    | link hresolve hget _ => exact .reference (hreach _ List.mem_cons_self) hresolve hget
  | link _ hfind _ _ ih =>
    refine ih (List.forall_mem_singleton.mpr ((hreach _ List.mem_cons_self).next ?_))
    rw [next_link hfind]
    exact List.mem_singleton_self _
  | own _ hfind _ ih =>
    refine ih fun inner hinner => (hreach _ List.mem_cons_self).next ?_
    rwa [next_own hfind]
  | later _ _ ih => exact ih (List.forall_mem_cons.mp hreach).2

/-- An error of the schemas has its culprit. -/
theorem culprit_of_schemas (hunique : root.UniqueKeys)
    (h : schemas root (root.get? "schemas") = .error error) : Culprit root error := by
  by_cases hfit : SchemasFit root
  · rcases schemas_follows hunique hfit with ⟨ids, progress, hrun, -⟩ | ⟨reason, hrun, hrefuses⟩
    · cases hrun.symm.trans h
    · obtain rfl := Except.error.inj (hrun.symm.trans h)
      exact hrefuses.culprit fun top htop => ⟨top, htop, .refl⟩
  · obtain ⟨given, hget, hnone, hrun⟩ := schemas_of_unfit hfit
    obtain rfl := Except.error.inj (hrun.symm.trans h)
    exact .schemas (resolve?_schemasLocation hget) (Json.noObject_typeName hnone)

/-! ## Documents -/

/-- **Errors point at the culprit**: if a text is JSON but cannot be loaded, the location of the
error leads to a value in it that is what the error says, and that stands where the error
says such a value has to stand. -/
theorem errors_point_at_culprit {text : String} (hread : Json.read text = .ok root)
    (hload : Document.load text = .error error) : Culprit root error := by
  have hunique := Json.read_uniqueKeys hread
  rcases load_eq_error hread hload with ⟨hnone, rfl⟩ | hschemas | hresources
  · exact .document rfl (Json.noObject_typeName hnone)
  · exact culprit_of_schemas hunique hschemas
  · have houtcome := topResources_outcome hunique
    rw [hresources] at houtcome
    exact .resource houtcome.of_error

/-- The schema `A` refers to a place outside the schemas, where a property with a key that has
to be escaped has no known type. -/
def oddCornerText : String :=
  "\x7b\"schemas\":\x7b\"A\":\x7b\"$ref\":\"#/defs/p~1q\"\x7d\x7d,\"defs\":\x7b\"p/q\":" ++
    "\x7b\"properties\":\x7b\"x~y\":\x7b\"type\":\"odd\"\x7d\x7d\x7d\x7d\x7d"

/-- What is read from it. -/
def oddCornerRoot : Json :=
  .object [("schemas", .object [("A", .object [("$ref", .string "#/defs/p~1q")])]),
    ("defs", .object [("p/q", .object [("properties", .object [
      ("x~y", .object [("type", .string "odd")])])])])]

theorem read_oddCornerText : Json.read oddCornerText = .ok oddCornerRoot := by
  unfold oddCornerText
  simp only [String.reduceAppend]
  exact Json.read_ofList (by decide)

/-- The methods of a resource, whose key has to be escaped, are a number. -/
def countedMethodsText : String := "\x7b\"resources\":\x7b\"a/b\":\x7b\"methods\":7\x7d\x7d\x7d"

/-- What is read from it. -/
def countedMethodsRoot : Json :=
  .object [("resources", .object [("a/b", .object [("methods", .number (.natural 7))])])]

theorem read_countedMethodsText : Json.read countedMethodsText = .ok countedMethodsRoot :=
  Json.read_ofList (by decide)

/-- The schema `A` refers to a list. -/
def listedReferenceText : String :=
  "\x7b\"schemas\":\x7b\"A\":\x7b\"$ref\":[null,true]\x7d\x7d\x7d"

/-- What is read from it. -/
def listedReferenceRoot : Json :=
  .object [("schemas", .object [("A", .object [("$ref", .array [.null, .bool true])])])]

theorem read_listedReferenceText : Json.read listedReferenceText = .ok listedReferenceRoot :=
  Json.read_ofList (by decide)

/-- A text that is JSON is refused, and the error leads to its culprit. -/
structure Refused (text : String) (root : Json) (error : LoadError) : Prop where
  /-- this is what is read from the text -/
  read : Json.read text = .ok root
  /-- it is refused -/
  load : Document.load text = .error error
  /-- the error says what is wrong with what was read -/
  culprit : Culprit root error

/-- The first error leads to the property: from where the reference leads, with the key escaped.
The second one leads to the methods and tells their type, the last one to the schema and tells
what it refers to. -/
theorem odd_corner_culprit :
    Refused oddCornerText oddCornerRoot
        (.invalidValue "/defs/p~1q/properties/x~0y" "type" "odd") ∧
      Refused countedMethodsText countedMethodsRoot
        (.invalidValue "/resources/a~1b/methods" "methods" "number") ∧
      Refused listedReferenceText listedReferenceRoot
        (.invalidValue "/schemas/A" "$ref" "[null,true]") := by
  have hodd : Document.load oddCornerText =
      .error (.invalidValue "/defs/p~1q/properties/x~0y" "type" "odd") :=
    load_of_schemas_error read_oddCornerText (by decide +kernel)
  have hcounted : Document.load countedMethodsText =
      .error (.invalidValue "/resources/a~1b/methods" "methods" "number") := by
    rw [Document.load, read_countedMethodsText]
    rfl
  have hlisted : Document.load listedReferenceText =
      .error (.invalidValue "/schemas/A" "$ref" "[null,true]") :=
    load_of_schemas_error read_listedReferenceText (by decide +kernel)
  exact ⟨⟨read_oddCornerText, hodd, errors_point_at_culprit read_oddCornerText hodd⟩,
    ⟨read_countedMethodsText, hcounted, errors_point_at_culprit read_countedMethodsText hcounted⟩,
    ⟨read_listedReferenceText, hlisted,
      errors_point_at_culprit read_listedReferenceText hlisted⟩⟩

end ApiClasses.Loading
