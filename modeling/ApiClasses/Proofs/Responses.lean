import ApiClasses.Proofs.TopLevel

/-!
# Responses name classes

What a method answers with is called after the key that the response names, while the
classes at the top level are called after the schemas that the keys lead to, and there are
classes for objects only. So a response is declared if an object stands at its key itself;
otherwise only if some class happens to be called like the key (`responses_declared_iff`).

No class is called like the empty answer, because class names hold no such signs.
-/

namespace ApiClasses

open Json.Pointer (child)
open Loading (HoldsSchema schemasLocation)

variable {text code path key className : String} {root : Json} {doc : Document}
  {trees : List ClassTree} {resourceClasses : List ClassDecl} {endpoint : Endpoint}
  {method : ClassMethod}

/-! ## No signs in class names -/

namespace Identifier

section Signs

variable {d : Char} (hpos : 0 < d.toNat) (hlow : d.toNat < 0x41) (hsign : isAlphanumeric d = false)

include hpos hlow hsign

/-- The capital form of a letter or numeral holds no sign: within ASCII it is another letter
or numeral, and what the tables give comes after the signs. -/
theorem sign_notMem_capital {c : Char} (h : isAlphanumeric c = true) : d ∉ capital c := by
  by_cases hascii : c.toNat < 0x80
  · have hupper : isAlphanumeric c = true → isAlphanumeric c.toUpper = true :=
      forall_ascii (P := fun c => isAlphanumeric c = true → isAlphanumeric c.toUpper = true)
        (by decide +kernel) hascii
    rw [capital_of_ascii hascii, List.mem_singleton]
    rintro rfl
    cases hsign.symm.trans (hupper h)
  · have hsequences : ∀ entry ∈ capitalSequences, ∀ code ∈ entry.2, 0x41 ≤ code := by
      decide +kernel
    have himages : ∀ entry ∈ capitalImages, 0x41 ≤ entry.2 := by
      decide +kernel
    rw [capital, if_neg hascii]
    refine notMem_changeCase hpos ?_ ?_ ?_
    · intro entry hentry code hcode
      exact Nat.lt_of_lt_of_le hlow (hsequences entry hentry code hcode)
    · exact fun entry hentry => Nat.lt_of_lt_of_le hlow (himages entry hentry)
    · rintro rfl
      omega

theorem sign_notMem_pascalChars (initial : Bool) (name : List Char) :
    d ∉ pascalChars initial name := by
  induction name generalizing initial with
  | nil => exact List.not_mem_nil
  | cons c cs ih =>
    cases hc : isAlphanumeric c with
    | false =>
      rw [pascalChars_separator initial hc]
      exact ih true
    | true =>
      have hne : d ≠ c := by
        rintro rfl
        cases hsign.symm.trans hc
      cases initial with
      | true =>
        simpa [pascalChars_initial hc] using ⟨sign_notMem_capital hpos hlow hsign hc, ih false⟩
      | false => simpa [pascalChars_later hc] using ⟨hne, ih false⟩

/-- Class names hold no signs of the basic alphabet that come before the letters. -/
theorem sign_notMem_forClass? (h : forClass? key = some className) : d ∉ className.toList := by
  have hbase : d ∉ (pascal key).toList := by
    rw [toList_pascal]
    exact sign_notMem_pascalChars hpos hlow hsign true key.toList
  have hmark : d ≠ '_' := by
    rintro rfl
    exact absurd hlow (by decide)
  obtain ⟨-, ⟨-, rfl⟩ | ⟨-, rfl⟩⟩ := forClass?_eq_some h
  · simpa using ⟨hmark, hbase⟩
  · exact hbase

end Signs

/-- No class is called like the empty answer… -/
theorem forClass?_ne_unit : forClass? key ≠ some "()" := by
  intro h
  exact sign_notMem_forClass? (d := '(') (by decide) (by decide) (by decide) h (by decide)

/-- …or like the type of any value. -/
theorem forClass?_ne_untyped : forClass? key ≠ some TypeRef.untyped.base := by
  intro h
  exact sign_notMem_forClass? (d := ':') (by decide) (by decide) (by decide) h (by decide)

end Identifier

/-! ## Responses -/

/-- Every method, at any depth, answers with nothing or with a class at the top level. -/
def ResponsesDeclared (classes : List ClassDecl) : Prop :=
  ∀ top ∈ classes, ∀ c, top.Descent c → ∀ method ∈ c.methods, ∃ answer,
    method.result = some ⟨"Request", [⟨answer, []⟩]⟩ ∧
      (answer = "()" ∨ ∃ d ∈ classes, d.name = answer)

/-- At the key itself, and not where a reference leads from there, stands an object. -/
def ObjectAtKey (root : Json) (doc : Document) (key : String) : Prop :=
  HoldsSchema root (child schemasLocation key) ∧
    ∃ schema, doc.get? key = some schema ∧ schema.isObject = true

/-- Every response that is named by a key without an object has the class name of some class
at the top level. -/
def ResponsesFit (root : Json) (doc : Document) : Prop :=
  ∀ resource ∈ doc.resources.flatMap Resource.walk, ∀ endpoint ∈ resource.endpoints,
    ∀ response, endpoint.response = some response → ¬ ObjectAtKey root doc response →
      Identifier.forClass? response ∈ doc.classNames

/-- The result of a method is its answer in a request. -/
theorem ResourceClasses.Requests.result_eq
    (h : ResourceClasses.Requests path className endpoint method) :
    ∃ answer, method.result = some ⟨"Request", [⟨answer, []⟩]⟩ ∧
      (endpoint.response = none ∧ answer = "()" ∨
        ∃ response, endpoint.response = some response ∧
          Identifier.forClass? response = some answer) := by
  obtain ⟨answer, hanswer, rfl⟩ := h
  exact ⟨answer, rfl, ResourceClasses.answerClass_eq_ok hanswer⟩

namespace Generates

variable (h : Generates text root doc trees resourceClasses code)

include h

/-- A name is that of a class at the top level exactly if it is one of those that the
document says. -/
theorem mem_classNames_iff {name : String} :
    some name ∈ doc.classNames ↔ ∃ d ∈ trees.map (·.decl) ++ resourceClasses, d.name = name := by
  rw [← h.classNames_eq, List.mem_map]
  simp

/-- An object that stands at a key has its class at the top level, under the class name of
the key. -/
theorem mem_classNames_of_objectAtKey (hkey : ObjectAtKey root doc key)
    (hname : Identifier.forClass? key = some className) : some className ∈ doc.classNames := by
  obtain ⟨hown, schema, hget, hobject⟩ := hkey
  obtain ⟨id, hfind, hschema⟩ := Option.bind_eq_some_iff.mp hget
  obtain ⟨entry, hentry, rfl⟩ := Option.map_eq_some_iff.mp hfind
  have hlisted := List.mem_of_find?_eq_some hentry
  obtain rfl : entry.1 = key := by simpa using List.find?_some hentry
  have hid := Arena.get?_eq_some.mp hschema
  obtain ⟨place, hcharts, htop⟩ := exists_charts h.read h.load
  obtain ⟨_, -, rfl, hanswers⟩ := exists_of_forall₂_right htop hlisted
  have hcalled := (hcharts.className?_of_own (hid ▸ hanswers) hown).trans hname
  obtain ⟨tree, htree, -, hdecl⟩ := h.exists_tree hlisted hid hobject hcalled
  exact h.mem_classNames_iff.mpr
    ⟨tree.decl, List.mem_append_left _ (List.mem_map_of_mem htree), hdecl⟩

/-- Methods are those of the endpoints of the resources. -/
theorem exists_endpoint {top c : ClassDecl} (htop : top ∈ trees.map (·.decl) ++ resourceClasses)
    (hc : top.Descent c) (hmethod : method ∈ c.methods) :
    ∃ resource ∈ doc.resources.flatMap Resource.walk, ∃ endpoint ∈ resource.endpoints,
      ∃ path, ResourceClasses.Requests path c.name endpoint method := by
  rcases List.mem_append.mp htop with htop | htop
  · -- schema classes have no methods
    obtain ⟨tree, htree, rfl⟩ := List.mem_map.mp htop
    obtain ⟨entry, -, hgrown⟩ := h.exists_entry htree
    obtain ⟨schema, name, above, last, site, left, hplaced, rfl⟩ :=
      Arena.exists_placed_decl hgrown hc
    rw [hplaced.methods_decl] at hmethod
    cases hmethod
  · obtain ⟨resource, hresource, path, hmade⟩ := h.exists_resource htop hc
    obtain ⟨-, hmethods, -⟩ := ResourceClasses.classAt_standard hmade
    obtain ⟨endpoint, hendpoint, hrequests⟩ := exists_of_forall₂_right hmethods hmethod
    exact ⟨resource, hresource, endpoint, hendpoint, path, hrequests⟩

/-- Every endpoint has its method. -/
theorem exists_method {resource : Resource}
    (hresource : resource ∈ doc.resources.flatMap Resource.walk)
    (hendpoint : endpoint ∈ resource.endpoints) :
    ∃ top ∈ resourceClasses, ∃ c, top.Descent c ∧ ∃ method ∈ c.methods, ∃ path,
      ResourceClasses.Requests path c.name endpoint method := by
  obtain ⟨top, htop, c, hc, path, hmade⟩ := h.exists_class hresource
  obtain ⟨-, hmethods, -⟩ := ResourceClasses.classAt_standard hmade
  obtain ⟨method, hmethod, hrequests⟩ := exists_of_forall₂_left hmethods hendpoint
  exact ⟨top, htop, c, hc, method, hmethod, path, hrequests⟩

end Generates

/-- **Responses are declared up to keys without an object**: if a text generates code, every
method of every class, at any depth, answers with nothing or with a class at the top level,
exactly if some class there is called like each key that a response names and that has no
object of its own. -/
theorem responses_declared_iff (h : generate text = .ok code) :
    ∃ root doc trees resourceClasses, Generates text root doc trees resourceClasses code ∧
      (ResponsesDeclared (trees.map (·.decl) ++ resourceClasses) ↔ ResponsesFit root doc) := by
  obtain ⟨root, doc, trees, resourceClasses, hgen⟩ := exists_generates h
  refine ⟨root, doc, trees, resourceClasses, hgen, ?_, ?_⟩
  · intro hdeclared resource hresource endpoint hendpoint response hresponse _
    obtain ⟨top, htop, c, hc, method, hmethod, path, hrequests⟩ :=
      hgen.exists_method hresource hendpoint
    obtain ⟨answer, hresult, ⟨hnone, -⟩ | ⟨named, hnamed, hname⟩⟩ := hrequests.result_eq
    · cases hnone.symm.trans hresponse
    · obtain rfl := Option.some.inj (hnamed.symm.trans hresponse)
      obtain ⟨found, hfound, hclass⟩ :=
        hdeclared top (List.mem_append_right _ htop) c hc method hmethod
      obtain rfl : answer = found := by simpa using hresult.symm.trans hfound
      rw [hname]
      rcases hclass with rfl | hclass
      · exact absurd hname Identifier.forClass?_ne_unit
      · exact hgen.mem_classNames_iff.mpr hclass
  · intro hfit top htop c hc method hmethod
    obtain ⟨resource, hresource, endpoint, hendpoint, path, hrequests⟩ :=
      hgen.exists_endpoint htop hc hmethod
    obtain ⟨answer, hresult, ⟨-, rfl⟩ | ⟨response, hresponse, hname⟩⟩ := hrequests.result_eq
    · exact ⟨"()", hresult, .inl rfl⟩
    · refine ⟨answer, hresult, .inr (hgen.mem_classNames_iff.mp ?_)⟩
      by_cases hkey : ObjectAtKey root doc response
      · exact hgen.mem_classNames_of_objectAtKey hkey hname
      · rw [← hname]
        exact hfit resource hresource endpoint hendpoint response hresponse hkey

/-! ## A key for what stands elsewhere -/

/-- The response is named by `B`, which refers to an object that its `id` calls `Q`. -/
def elsewhereText : String :=
  "\x7b\"name\":\"s\",\"schemas\":\x7b\"A\":\x7b\"properties\":\x7b\"x\":\x7b\"id\":\"Q\"," ++
    "\"type\":\"object\"\x7d\x7d\x7d,\"B\":\x7b\"$ref\":\"#/schemas/A/properties/x\"\x7d\x7d," ++
    "\"resources\":\x7b\"r\":\x7b\"methods\":\x7b\"m\":\x7b\"httpMethod\":\"GET\",\"response\":" ++
    "\x7b\"$ref\":\"B\"\x7d\x7d\x7d\x7d\x7d\x7d"

/-- What is read from it. -/
def elsewhereRoot : Json :=
  .object [("name", .string "s"),
    ("schemas", .object [
      ("A", .object [("properties", .object [
        ("x", .object [("id", .string "Q"), ("type", .string "object")])])]),
      ("B", .object [("$ref", .string "#/schemas/A/properties/x")])]),
    ("resources", .object [("r", .object [("methods", .object [("m", .object [
      ("httpMethod", .string "GET"), ("response", .object [("$ref", .string "B")])])])])])]

-- the text is a longer list of characters than the default limit allows
set_option maxRecDepth 1000 in
theorem read_elsewhereText : Json.read elsewhereText = .ok elsewhereRoot := by
  unfold elsewhereText
  simp only [String.reduceAppend]
  exact Json.read_ofList (by decide)

theorem classes_elsewhereText : ∃ classes, generateClasses elsewhereText = .ok classes ∧
    classes.map (fun c => (c.name, c.methods.map (·.result))) =
      [("A", []), ("Q", []), ("RResource", [some ⟨"Request", [⟨"B", []⟩]⟩])] := by
  rw [generateClasses, Document.load, read_elsewhereText]
  exact Loading.exists_of_toOption (by decide +kernel)

theorem generate_elsewhereText : ∃ code, generate elsewhereText = .ok code := by
  obtain ⟨classes, hclasses, -⟩ := classes_elsewhereText
  exact exists_code (congrArg (·.toOption.isSome) hclasses)

/-- Whatever is generated for the document, the method answers with a class that is not
declared. -/
theorem not_responsesDeclared_elsewhereText
    (h : Generates elsewhereText root doc trees resourceClasses code) :
    ¬ ResponsesDeclared (trees.map (·.decl) ++ resourceClasses) := by
  obtain ⟨classes, hclasses, hshown⟩ := classes_elsewhereText
  obtain rfl := Except.ok.inj (hclasses.symm.trans h.classes)
  obtain ⟨c, hc, hcalled⟩ : ∃ c ∈ trees.map (·.decl) ++ resourceClasses,
      (c.name, c.methods.map (·.result)) = ("RResource", [some ⟨"Request", [⟨"B", []⟩]⟩]) := by
    rw [← List.mem_map, hshown]
    decide
  obtain ⟨-, hresults⟩ := Prod.mk.inj hcalled
  obtain ⟨method, hmethods, hresult⟩ := List.map_eq_singleton_iff.mp hresults
  intro hdeclared
  obtain ⟨answer, hfound, hclass⟩ :=
    hdeclared c hc c .top method (hmethods ▸ List.mem_singleton_self method)
  obtain rfl : "B" = answer := by simpa using hresult.symm.trans hfound
  rcases hclass with hunit | ⟨d, hd, hname⟩
  · exact absurd hunit (by decide)
  · have hlisted := List.mem_map_of_mem (f := fun c => (c.name, c.methods.map (·.result))) hd
    rw [hshown, hname] at hlisted
    simp at hlisted

/-- The method answers with `B`, but the class is called `Q`. -/
theorem elsewhere_undeclared : ∃ code root doc trees resourceClasses,
    generate elsewhereText = .ok code ∧
      Generates elsewhereText root doc trees resourceClasses code ∧
      ¬ ResponsesDeclared (trees.map (·.decl) ++ resourceClasses) := by
  obtain ⟨code, hcode⟩ := generate_elsewhereText
  obtain ⟨root, doc, trees, resourceClasses, hgen⟩ := exists_generates hcode
  exact ⟨code, root, doc, trees, resourceClasses, hcode, hgen,
    not_responsesDeclared_elsewhereText hgen⟩

/-- The cause is the key, which has no object of its own. -/
theorem elsewhere_misfit : ∃ code root doc trees resourceClasses,
    generate elsewhereText = .ok code ∧
      Generates elsewhereText root doc trees resourceClasses code ∧ ¬ ResponsesFit root doc := by
  obtain ⟨code, hcode⟩ := generate_elsewhereText
  obtain ⟨root, doc, trees, resourceClasses, hgen, hiff⟩ := responses_declared_iff hcode
  exact ⟨code, root, doc, trees, resourceClasses, hcode, hgen,
    fun hfit => not_responsesDeclared_elsewhereText hgen (hiff.mpr hfit)⟩

end ApiClasses
