import ApiClasses.Proofs.Checks
import ApiClasses.Proofs.Scopes

/-!
# Loaded documents are sound

Not everything that the check looks for can be found in a document that was loaded. Its names
are keys of one object of the text, where a key counts once however often it is written, and
its ids were handed out by the loader and are all in the arena it leaves (`load_sound`). The
rules about this are rules about the makeup of a document; the check of a loaded document can
only be at odds with the others (`loaded_keeps_makeup`).
-/

namespace ApiClasses

open Loading (Answers topNames topResources topResources_of_load)

/-! ## Rules about the makeup -/

/-- The rule is about the makeup of the document: it asks for names that are different, or for
ids in the arena. -/
inductive Rule.OfMakeup : Rule → Prop where
  /-- keys are different -/
  | freshKey {earlier entry} : OfMakeup (.freshKey earlier entry)
  /-- keys lead into the arena -/
  | inArena {entry} : OfMakeup (.inArena entry)
  /-- the names of siblings are different -/
  | freshName {earlier resource} : OfMakeup (.freshName earlier resource)

namespace Document

/-- The names of the document are different on every level, and its ids are in the arena. -/
structure Sound (doc : Document) : Prop where
  /-- the keys at the top level are different -/
  keys : (doc.schemas.map (·.1)).Nodup
  /-- all of them lead into the arena -/
  inside : ∀ entry ∈ doc.schemas, doc.arena.contains entry.2 = true
  /-- so are the names of the resources side by side, at the top and at any depth -/
  resources : AllDiffer doc.resources

variable {doc : Document} {resources : List Resource}

/-- Resources side by side keep the rules about the makeup if each of them does. -/
theorem keeps_makeup_of_siblings (hnodup : (resources.map (·.name)).Nodup)
    (hinside : ∀ resource ∈ resources, ∀ rule ∈ resource.rules, rule.OfMakeup → doc.Keeps rule) :
    ∀ rule ∈ siblingRules [] resources, rule.OfMakeup → doc.Keeps rule := by
  rw [siblingRules_eq, List.forall_mem_flatMap]
  intro place hplace
  refine List.forall_mem_cons.mpr ⟨fun _ => ?_, ?_⟩
  · exact keeps_freshName.mpr ((nodup_map_iff _).mp hnodup place hplace)
  · exact (forall_eachAfter [] resources _).mpr hinside place hplace

/-- A resource keeps them, with all below it, if siblings have different names there. -/
theorem keeps_makeup_of_differ {resource : Resource} (h : resource.SiblingsDiffer) :
    ∀ rule ∈ resource.rules, rule.OfMakeup → doc.Keeps rule := by
  induction resource using Resource.induction_below with
  | step resource ih =>
    obtain ⟨hnodup, hbelow⟩ := resource.siblingsDiffer_iff.mp h
    rw [Resource.rules_eq, List.forall_mem_append]
    constructor
    · -- what an endpoint is answered with is no matter of the makeup
      intro rule hrule hmakeup
      obtain ⟨endpoint, -, rfl⟩ := List.mem_map.mp hrule
      cases hmakeup
    · exact keeps_makeup_of_siblings hnodup fun below hmem => ih below hmem (hbelow below hmem)

/-- A sound document keeps all rules about the makeup. -/
theorem Sound.keeps_makeup (h : doc.Sound) :
    ∀ rule ∈ doc.rules, rule.OfMakeup → doc.Keeps rule := by
  rw [rules, List.forall_mem_append, List.forall_mem_append]
  refine ⟨⟨?_, ?_⟩, ?_⟩
  · rw [List.forall_mem_flatMap]
    intro place hplace rule hrule hmakeup
    simp only [schemaRules, List.mem_cons, List.not_mem_nil, or_false] at hrule
    rcases hrule with rfl | rfl | rfl | rfl
    · exact keeps_freshKey.mpr ((nodup_map_iff _).mp h.keys place hplace)
    · exact keeps_inArena.mpr
        ((forall_eachAfter [] doc.schemas (doc.arena.contains ·.2 = true)).mpr h.inside place
          hplace)
    · cases hmakeup
    · cases hmakeup
  · exact keeps_makeup_of_siblings h.resources.1 fun resource hresource =>
      keeps_makeup_of_differ (h.resources.2 resource hresource)
  · rw [List.forall_mem_singleton]
    intro hmakeup
    cases hmakeup

/-! ## Loaded documents -/

/-- The keys of the schemas come once each. -/
theorem nodup_topNames {root : Json} (hunique : root.UniqueKeys) : (topNames root).Nodup := by
  rw [topNames]
  split
  · next members hschemas => exact hunique.nodup (Loading.resolve?_schemasLocation hschemas)
  · exact List.nodup_nil

/-- A document that was loaded is sound. -/
theorem load_sound {text : String} (hload : load text = .ok doc) : doc.Sound := by
  obtain ⟨root, hread⟩ := Loading.exists_read_of_load hload
  have hunique := Json.read_uniqueKeys hread
  obtain ⟨place, -, htop⟩ := exists_charts hread hload
  exact {
    keys := by
      have hkeys : (topNames root).map id = doc.schemas.map (·.1) :=
        map_eq_map_of_forall₂ htop fun hentry => hentry.1.symm
      rw [← hkeys, List.map_id]
      exact nodup_topNames hunique
    inside := by
      intro entry hentry
      obtain ⟨key, -, -, schema, hid, -⟩ := exists_of_forall₂_right htop hentry
      rw [← hid]
      exact decide_eq_true schema.inside
    resources := by
      have houtcome := Loading.topResources_outcome hunique
      rw [topResources_of_load hread hload] at houtcome
      exact houtcome.of_ok }

/-- **Loaded documents keep their makeup**: the check of a document that was loaded never finds
a definition that comes twice, neither among the schemas nor among the resources of any
level, and never a schema outside the arena. -/
theorem loaded_keeps_makeup {text : String} (hload : load text = .ok doc) :
    (∀ kind name, doc.check ≠ .error (.duplicate kind name)) ∧
      ∀ name, doc.check ≠ .error (.violation (.outsideArena name)) := by
  have hkeeps := (load_sound hload).keeps_makeup
  have hbroken {error : DocumentError} (hcheck : doc.check = .error error) :
      ∃ rule, ¬ rule.OfMakeup ∧ doc.Breaks rule error := by
    obtain ⟨before, rule, after, hrules, -, hbreaks⟩ := (check_checks doc).eq_error_iff.mp hcheck
    refine ⟨rule, fun hmakeup => ?_, hbreaks⟩
    have hrule : rule ∈ doc.rules := hrules ▸ List.mem_append_right before List.mem_cons_self
    exact hkeeps rule hrule hmakeup error hbreaks
  constructor
  · intro kind name hcheck
    obtain ⟨rule, hmakeup, hbreaks⟩ := hbroken hcheck
    cases hbreaks with
    | freshKey => exact hmakeup .freshKey
    | freshName => exact hmakeup .freshName
  · intro name hcheck
    obtain ⟨rule, hmakeup, hbreaks⟩ := hbroken hcheck
    cases hbreaks with
    | inArena => exact hmakeup .inArena

/-- Keys are written twice, among the schemas and among the resources below `r`; both `A` refer
to `B`. -/
def writtenTwiceText : String :=
  "\x7b\"name\":\"s\",\"schemas\":\x7b\"A\":\x7b\"$ref\":\"B\"\x7d,\"B\":\x7b\"type\":" ++
    "\"object\"\x7d,\"A\":\x7b\"$ref\":\"B\"\x7d\x7d,\"resources\":\x7b\"r\":\x7b\"resources\":" ++
    "\x7b\"q\":\x7b\x7d,\"q\":\x7b\x7d\x7d\x7d\x7d\x7d"

/-- What is read from it. -/
def writtenTwiceRoot : Json :=
  .object [("name", .string "s"),
    ("schemas", .object [("A", .object [("$ref", .string "B")]),
      ("B", .object [("type", .string "object")])]),
    ("resources", .object [("r", .object [("resources", .object [("q", .object [])])])])]

-- the text is a longer list of characters than the default limit allows
set_option maxRecDepth 1000 in
theorem read_writtenTwiceText : Json.read writtenTwiceText = .ok writtenTwiceRoot := by
  unfold writtenTwiceText
  simp only [String.reduceAppend]
  exact Json.read_ofList (by decide)

/-- They come once in the document, and the check does not find them twice. -/
theorem written_twice_once : ∃ doc, load writtenTwiceText = .ok doc ∧
    doc.schemas = [("A", ⟨0⟩), ("B", ⟨0⟩)] ∧
    (doc.resources.flatMap Resource.walk).map (·.name) = ["r", "q"] ∧
    (∀ kind name, doc.check ≠ .error (.duplicate kind name)) ∧
    ∀ name, doc.check ≠ .error (.violation (.outsideArena name)) := by
  obtain ⟨doc, hload, hshown⟩ : ∃ doc, load writtenTwiceText = .ok doc ∧
      (doc.schemas, (doc.resources.flatMap Resource.walk).map (·.name)) =
        ([("A", ⟨0⟩), ("B", ⟨0⟩)], ["r", "q"]) := by
    rw [load, read_writtenTwiceText]
    exact Loading.exists_of_toOption (by decide)
  obtain ⟨hschemas, hnames⟩ := Prod.mk.inj hshown
  obtain ⟨hduplicate, houtside⟩ := loaded_keeps_makeup hload
  exact ⟨doc, hload, hschemas, hnames, hduplicate, houtside⟩

end Document

end ApiClasses
