import ApiClasses.Document.Validity
import ApiClasses.Proofs.ResourceTrees

/-!
# What the check accepts

The check goes through rules, in a fixed order (`Document.rules`): four for each schema at the
top level; then, from resource to resource, one for its name, one for each of its endpoints and
all that are below it; in the end one for the name of the service. It stops at the first rule
that is broken and passes if none is (`check_checks`).

A rule is about one schema, resource or endpoint and what came before it. That all are kept is
nothing more than what can be said of the document as a whole, without any order in it
(`WellFormed`).
-/

namespace ApiClasses

open Identifier (forClass?)

/-! ## One after the other -/

section EachAfter

variable {α β : Type} {earlier elements : List α}

/-- The elements, each after all that come before it, and after some earlier ones. -/
def eachAfter (earlier : List α) : List α → List (List α × α)
  | [] => []
  | element :: rest => (earlier, element) :: eachAfter (earlier ++ [element]) rest

theorem forall_eachAfter (earlier elements : List α) (P : α → Prop) :
    (∀ place ∈ eachAfter earlier elements, P place.2) ↔ ∀ element ∈ elements, P element := by
  induction elements generalizing earlier with
  | nil => simp [eachAfter]
  | cons element rest ih => simp only [eachAfter, List.forall_mem_cons, ih]

/-- What differs from all before it, at each place, differs everywhere. -/
theorem forall_eachAfter_notMem_map (f : α → β) :
    (∀ place ∈ eachAfter earlier elements, f place.2 ∉ place.1.map f) ↔
      (∀ element ∈ elements, f element ∉ earlier.map f) ∧ (elements.map f).Nodup := by
  induction elements generalizing earlier with
  | nil => simp [eachAfter]
  | cons element rest ih =>
    rw [eachAfter, List.forall_mem_cons, ih, List.forall_mem_cons, List.map_cons,
      List.nodup_cons]
    have hone : (∀ later ∈ rest, f later ∉ (earlier ++ [element]).map f) ↔
        (∀ later ∈ rest, f later ∉ earlier.map f) ∧ f element ∉ rest.map f := by
      simp only [List.map_append, List.map_cons, List.map_nil, List.mem_append,
        List.mem_singleton, not_or, forall_and, List.mem_map, not_exists, not_and]
    rw [hone]
    tauto

theorem nodup_map_iff (f : α → β) :
    (elements.map f).Nodup ↔ ∀ place ∈ eachAfter [] elements, f place.2 ∉ place.1.map f := by
  rw [forall_eachAfter_notMem_map]
  simp only [List.map_nil, List.not_mem_nil, not_false_eq_true, implies_true, true_and]

end EachAfter

/-! ## Rules -/

/-- Something that a document has to keep. -/
inductive Rule where
  /-- no schema before this one has its key -/
  | freshKey (earlier : List (String × NodeId)) (entry : String × NodeId)
  /-- the key leads into the arena -/
  | inArena (entry : String × NodeId)
  /-- the key gives a class name -/
  | usable (entry : String × NodeId)
  /-- no key before this one gives its class name -/
  | freshClass (earlier : List (String × NodeId)) (entry : String × NodeId)
  /-- no sibling before the resource has its name -/
  | freshName (earlier : List Resource) (resource : Resource)
  /-- the response of the endpoint is the key of a schema -/
  | known (resource : Resource) (endpoint : Endpoint)
  /-- with resources, the name of the document gives a service name -/
  | service

/-- The rules for a schema at the top level, after some others. -/
def schemaRules (earlier : List (String × NodeId)) (entry : String × NodeId) : List Rule :=
  [.freshKey earlier entry, .inArena entry, .usable entry, .freshClass earlier entry]

mutual

/-- The rules for what a resource holds: its endpoints, and then all that is below it. -/
def Resource.rules : Resource → List Rule
  | resource@⟨_, endpoints, below⟩ => endpoints.map (.known resource) ++ siblingRules [] below

/-- The rules for resources side by side, after some others. Each comes with all that it
holds. -/
def siblingRules (earlier : List Resource) : List Resource → List Rule
  | [] => []
  | resource :: rest =>
    .freshName earlier resource :: resource.rules ++ siblingRules (earlier ++ [resource]) rest

end

theorem siblingRules_eq (earlier resources : List Resource) :
    siblingRules earlier resources = (eachAfter earlier resources).flatMap
      fun place => .freshName place.1 place.2 :: place.2.rules := by
  induction resources generalizing earlier with
  | nil => simp only [siblingRules, eachAfter, List.flatMap_nil]
  | cons resource rest ih => simp only [siblingRules, eachAfter, List.flatMap_cons, ih]

theorem Resource.rules_eq (resource : Resource) :
    resource.rules =
      resource.endpoints.map (.known resource) ++ siblingRules [] resource.resources := by
  obtain ⟨name, endpoints, below⟩ := resource
  rw [rules]

namespace Document

/-- All rules, in the order in which they are checked. -/
def rules (doc : Document) : List Rule :=
  (eachAfter [] doc.schemas).flatMap (fun place => schemaRules place.1 place.2) ++
    siblingRules [] doc.resources ++ [.service]

/-- The document breaks the rule, and this is the error. -/
inductive Breaks (doc : Document) : Rule → DocumentError → Prop where
  /-- a schema before has the key -/
  | freshKey {earlier entry} : entry.1 ∈ earlier.map (·.1) →
      Breaks doc (.freshKey earlier entry) (.duplicate "schema" entry.1)
  /-- the key leads out of the arena -/
  | inArena {entry} : ¬ doc.arena.contains entry.2 = true →
      Breaks doc (.inArena entry) (.violation (.outsideArena entry.1))
  /-- nothing usable is left of the key -/
  | usable {entry} : forClass? entry.1 = none →
      Breaks doc (.usable entry) (.violation (.noClassName entry.1))
  /-- a key before gives the class name -/
  | freshClass {earlier entry name} : forClass? entry.1 = some name →
      some name ∈ earlier.map (forClass? ·.1) →
      Breaks doc (.freshClass earlier entry) (.violation (.classNameTaken entry.1 name))
  /-- a sibling before has the name -/
  | freshName {earlier resource} : resource.name ∈ earlier.map (·.name) →
      Breaks doc (.freshName earlier resource) (.duplicate "resource" resource.name)
  /-- no key is the response -/
  | known {resource endpoint response} : endpoint.response = some response →
      response ∉ doc.schemas.map (·.1) →
      Breaks doc (.known resource endpoint)
        (.unknownSchema response (resource.name ++ "." ++ endpoint.name))
  /-- nothing usable is left of the name of the document -/
  | service : doc.resources ≠ [] → forClass? doc.name = none →
      Breaks doc .service (.violation (.serviceName doc.name))

/-- The document keeps the rule. -/
def Keeps (doc : Document) (rule : Rule) : Prop := ∀ error, ¬ doc.Breaks rule error

/-- The outcome of checking some rules one after the other. -/
inductive Checks (doc : Document) : List Rule → Except DocumentError Unit → Prop where
  /-- no rule is left -/
  | nil : Checks doc [] (.ok ())
  /-- the first rule is kept, so the others decide -/
  | kept {rule rest outcome} : doc.Keeps rule → Checks doc rest outcome →
      Checks doc (rule :: rest) outcome
  /-- the first rule is broken, and nothing else is looked at -/
  | broken {rule rest error} : doc.Breaks rule error → Checks doc (rule :: rest) (.error error)

variable {doc : Document} {rule : Rule} {first rest : List Rule} {error other : DocumentError}
  {outcome later : Except DocumentError Unit} {entry : String × NodeId}
  {earlier entries : List (String × NodeId)} {resource : Resource} {endpoint : Endpoint}
  {siblings resources : List Resource}

/-- A rule is broken in one way only. -/
theorem Breaks.unique (h : doc.Breaks rule error) (h' : doc.Breaks rule other) :
    error = other := by
  cases h with
  | freshKey | inArena | usable | freshName | service =>
    cases h'
    rfl
  | freshClass hname =>
    cases h' with
    | freshClass hother => rw [Option.some.inj (hname.symm.trans hother)]
  | known hresponse =>
    cases h' with
    | known hother => rw [Option.some.inj (hresponse.symm.trans hother)]

/-! ### Kept rules -/

theorem keeps_freshKey : doc.Keeps (.freshKey earlier entry) ↔ entry.1 ∉ earlier.map (·.1) := by
  constructor
  · intro h hmem
    exact h _ (.freshKey hmem)
  · intro h error hbreaks
    cases hbreaks with
    | freshKey hmem => exact h hmem

theorem keeps_inArena : doc.Keeps (.inArena entry) ↔ doc.arena.contains entry.2 = true := by
  constructor
  · intro h
    by_contra hout
    exact h _ (.inArena hout)
  · intro h error hbreaks
    cases hbreaks with
    | inArena hout => exact hout h

theorem keeps_usable : doc.Keeps (.usable entry) ↔ ∃ name, forClass? entry.1 = some name := by
  rw [← Option.ne_none_iff_exists']
  constructor
  · intro h hnone
    exact h _ (.usable hnone)
  · intro h error hbreaks
    cases hbreaks with
    | usable hnone => exact h hnone

theorem keeps_freshClass (entry : String × NodeId) {name : String}
    (hname : forClass? entry.1 = some name) :
    doc.Keeps (.freshClass earlier entry) ↔
      forClass? entry.1 ∉ earlier.map (forClass? ·.1) := by
  rw [hname]
  constructor
  · intro h hmem
    exact h _ (.freshClass hname hmem)
  · intro h error hbreaks
    cases hbreaks with
    | freshClass hother hmem => exact h (hname.symm.trans hother ▸ hmem)

theorem keeps_freshName :
    doc.Keeps (.freshName siblings resource) ↔ resource.name ∉ siblings.map (·.name) := by
  constructor
  · intro h hmem
    exact h _ (.freshName hmem)
  · intro h error hbreaks
    cases hbreaks with
    | freshName hmem => exact h hmem

theorem keeps_known : doc.Keeps (.known resource endpoint) ↔
    ∀ response, endpoint.response = some response → response ∈ doc.schemas.map (·.1) := by
  constructor
  · intro h response hresponse
    by_contra hunknown
    exact h _ (.known hresponse hunknown)
  · intro h error hbreaks
    cases hbreaks with
    | known hresponse hunknown => exact hunknown (h _ hresponse)

theorem keeps_service :
    doc.Keeps .service ↔ doc.resources = [] ∨ ∃ name, forClass? doc.name = some name := by
  rw [← Option.ne_none_iff_exists', or_iff_not_imp_left]
  constructor
  · intro h hsome hnone
    exact h _ (.service hsome hnone)
  · intro h error hbreaks
    cases hbreaks with
    | service hsome hnone => exact h hsome hnone

/-! ## Checking rules -/

/-- Some rules and then others are checked one after the other. -/
theorem Checks.append (h : doc.Checks first outcome) (hlater : doc.Checks rest later) :
    doc.Checks (first ++ rest) (outcome >>= fun _ => later) := by
  induction h with
  | nil => exact hlater
  | kept hkeeps _ ih => exact .kept hkeeps ih
  | broken hbreaks => exact .broken hbreaks

/-- The outcome is determined by the rules. -/
theorem Checks.unique (h : doc.Checks first outcome) (h' : doc.Checks first later) :
    outcome = later := by
  induction h with
  | nil =>
    cases h'
    rfl
  | kept hkeeps _ ih =>
    cases h' with
    | kept _ hrest => exact ih hrest
    | broken hbreaks => exact absurd hbreaks (hkeeps _)
  | broken hbreaks =>
    cases h' with
    | kept hkeeps => exact absurd hbreaks (hkeeps _)
    | broken hother => rw [hbreaks.unique hother]

/-- They pass exactly if all are kept. -/
theorem Checks.eq_ok_iff (h : doc.Checks first outcome) :
    outcome = .ok () ↔ ∀ rule ∈ first, doc.Keeps rule := by
  induction h with
  | nil => simp
  | kept hkeeps _ ih => rw [ih, List.forall_mem_cons, and_iff_right hkeeps]
  | broken hbreaks =>
    refine iff_of_false nofun fun hall => ?_
    exact (List.forall_mem_cons.mp hall).1 _ hbreaks

/-- The error is that of the first rule that is broken. -/
def FirstBroken (doc : Document) (rules : List Rule) (error : DocumentError) : Prop :=
  ∃ before rule after, rules = before ++ rule :: after ∧ (∀ kept ∈ before, doc.Keeps kept) ∧
    doc.Breaks rule error

theorem firstBroken_cons (hkeeps : doc.Keeps rule) :
    doc.FirstBroken (rule :: rest) error ↔ doc.FirstBroken rest error := by
  constructor
  · rintro ⟨_ | ⟨first, before⟩, broken, after, hsplit, hkept, hbreaks⟩
    · obtain ⟨rfl, -⟩ := List.cons.inj hsplit
      exact absurd hbreaks (hkeeps error)
    · obtain ⟨-, hrest⟩ := List.cons.inj hsplit
      exact ⟨before, broken, after, hrest, (List.forall_mem_cons.mp hkept).2, hbreaks⟩
  · rintro ⟨before, broken, after, rfl, hkept, hbreaks⟩
    exact ⟨rule :: before, broken, after, rfl, List.forall_mem_cons.mpr ⟨hkeeps, hkept⟩, hbreaks⟩

/-- They fail exactly with the error of the first rule that is broken. -/
theorem Checks.eq_error_iff (h : doc.Checks first outcome) :
    outcome = .error error ↔ doc.FirstBroken first error := by
  induction h with
  | nil =>
    refine iff_of_false nofun ?_
    rintro ⟨before, rule, after, hsplit, -, -⟩
    simp at hsplit
  | kept hkeeps _ ih => rw [ih, firstBroken_cons hkeeps]
  | broken hbreaks =>
    constructor
    · intro hsame
      obtain rfl := Except.error.inj hsame
      exact ⟨[], _, _, rfl, nofun, hbreaks⟩
    · rintro ⟨_ | ⟨first, before⟩, broken, after, hsplit, hkept, hother⟩
      · obtain ⟨rfl, -⟩ := List.cons.inj hsplit
        rw [hbreaks.unique hother]
      · obtain ⟨rfl, -⟩ := List.cons.inj hsplit
        exact absurd hbreaks ((List.forall_mem_cons.mp hkept).1 _)

/-! ## The check -/

/-- The schemas are checked rule by rule, while the names and class names that are taken are
those of the earlier schemas. -/
theorem checkSchemas_checks {names classNames : List String}
    (hnames : ∀ name, name ∈ names ↔ name ∈ earlier.map (·.1))
    (hclasses : ∀ name, name ∈ classNames ↔ some name ∈ earlier.map (forClass? ·.1)) :
    doc.Checks ((eachAfter earlier entries).flatMap fun place => schemaRules place.1 place.2)
      (checkSchemas doc.arena names classNames entries) := by
  induction entries generalizing earlier names classNames with
  | nil => exact .nil
  | cons entry rest ih =>
    obtain ⟨key, id⟩ := entry
    simp only [eachAfter, List.flatMap_cons, schemaRules, List.cons_append, List.nil_append,
      checkSchemas]
    by_cases htaken : names.contains key = true
    · rw [if_pos htaken]
      exact .broken (.freshKey ((hnames key).mp (List.contains_iff_mem.mp htaken)))
    rw [if_neg htaken]
    have hfresh : key ∉ earlier.map (·.1) := by
      rwa [List.contains_iff_mem, hnames] at htaken
    refine .kept (keeps_freshKey.mpr hfresh) ?_
    by_cases hin : doc.arena.contains id = true
    swap
    · rw [if_pos (by simpa using hin)]
      exact .broken (.inArena hin)
    rw [if_neg (by simpa using hin)]
    refine .kept (keeps_inArena.mpr hin) ?_
    rcases hname : forClass? key with _ | name
    · exact .broken (.usable hname)
    refine .kept (keeps_usable.mpr ⟨name, hname⟩) ?_
    by_cases hclass : classNames.contains name = true
    · simp only [hclass, if_true]
      exact .broken (.freshClass hname ((hclasses name).mp (List.contains_iff_mem.mp hclass)))
    simp only [hclass, Bool.false_eq_true, if_false]
    refine .kept ((keeps_freshClass (key, id) hname).mpr ?_) (ih ?_ ?_)
    · rwa [List.contains_iff_mem, hclasses, ← hname] at hclass
    · intro other
      simp [hnames other, or_comm]
    · intro other
      simp [hclasses other, hname, or_comm, eq_comm]

theorem hasSchema_iff {name : String} :
    doc.hasSchema name = true ↔ name ∈ doc.schemas.map (·.1) := by
  simp [hasSchema, schema?]

/-- The endpoints are checked one by one. -/
theorem checkEndpoints_checks (resource : Resource) (endpoints : List Endpoint) :
    doc.Checks (endpoints.map (.known resource)) (doc.checkEndpoints resource.name endpoints) := by
  induction endpoints with
  | nil => exact .nil
  | cons endpoint rest ih =>
    rw [List.map_cons, checkEndpoints]
    rcases hresponse : endpoint.response with _ | response
    · refine .kept (keeps_known.mpr ?_) ih
      intro response hsome
      cases hresponse.symm.trans hsome
    · by_cases hknown : doc.hasSchema response = true
      · simp only [hknown, if_true]
        refine .kept (keeps_known.mpr ?_) ih
        intro other hother
        obtain rfl := Option.some.inj (hresponse.symm.trans hother)
        exact hasSchema_iff.mp hknown
      · simp only [hknown, Bool.false_eq_true, if_false]
        exact .broken (.known hresponse (hknown ∘ hasSchema_iff.mpr))

/-- Resources side by side are checked one by one, if each of them is. -/
theorem checkResources_checks {names : List String}
    (hnames : ∀ name, name ∈ names ↔ name ∈ siblings.map (·.name))
    (hinside : ∀ resource ∈ resources, doc.Checks resource.rules (doc.checkResource resource)) :
    doc.Checks (siblingRules siblings resources) (doc.checkResources names resources) := by
  induction resources generalizing siblings names with
  | nil =>
    rw [siblingRules, checkResources]
    exact .nil
  | cons resource rest ih =>
    obtain ⟨hfirst, hrest⟩ := List.forall_mem_cons.mp hinside
    rw [siblingRules, checkResources]
    by_cases htaken : names.contains resource.name = true
    · rw [if_pos htaken]
      exact .broken (.freshName ((hnames _).mp (List.contains_iff_mem.mp htaken)))
    · rw [if_neg htaken]
      rw [List.contains_iff_mem, hnames] at htaken
      refine .kept (keeps_freshName.mpr htaken) (hfirst.append (ih ?_ hrest))
      intro name
      simp [hnames name, or_comm]

/-- A resource is checked with all that is below it. -/
theorem checkResource_checks (resource : Resource) :
    doc.Checks resource.rules (doc.checkResource resource) := by
  induction resource using Resource.induction_below with
  | step resource ih =>
    obtain ⟨name, endpoints, below⟩ := resource
    rw [Resource.rules, checkResource]
    exact (checkEndpoints_checks ⟨name, endpoints, below⟩ endpoints).append
      (checkResources_checks (by simp) ih)

theorem checkServiceName_checks : doc.Checks [.service] doc.checkServiceName := by
  rw [checkServiceName]
  by_cases hbroken : doc.resources ≠ [] ∧ forClass? doc.name = none
  · rw [if_pos (by simpa using hbroken)]
    exact .broken (.service hbroken.1 hbroken.2)
  · rw [if_neg (by simpa using hbroken)]
    refine .kept ?_ .nil
    intro error hbreaks
    cases hbreaks with
    | service hsome hnone => exact hbroken ⟨hsome, hnone⟩

/-- The document is checked rule by rule. -/
theorem check_checks (doc : Document) : doc.Checks doc.rules doc.check := by
  have hschemas : doc.Checks
      ((eachAfter [] doc.schemas).flatMap fun place => schemaRules place.1 place.2)
      (checkSchemas doc.arena [] [] doc.schemas) :=
    checkSchemas_checks (by simp) (by simp)
  have hresources : doc.Checks (siblingRules [] doc.resources)
      (checkResources doc [] doc.resources) :=
    checkResources_checks (by simp) fun resource _ => checkResource_checks resource
  rw [Document.rules, List.append_assoc]
  exact hschemas.append (hresources.append checkServiceName_checks)

/-- No rule looks into the arena: only whether it holds an id matters. -/
theorem Breaks.of_same {other : Document} (hname : other.name = doc.name)
    (hschemas : other.schemas = doc.schemas) (hresources : other.resources = doc.resources)
    (hcontains : ∀ id, other.arena.contains id = doc.arena.contains id)
    (h : doc.Breaks rule error) : other.Breaks rule error := by
  cases h with
  | freshKey hmem => exact .freshKey hmem
  | inArena hout => exact .inArena (hcontains _ ▸ hout)
  | usable hnone => exact .usable hnone
  | freshClass hclass hmem => exact .freshClass hclass hmem
  | freshName hmem => exact .freshName hmem
  | known hresponse hunknown => exact .known hresponse (hschemas ▸ hunknown)
  | service hsome hnone =>
    rw [← hname] at hnone ⊢
    exact .service (hresources ▸ hsome) hnone

/-- So documents that differ in what their arenas say of schemas are checked alike. -/
theorem check_eq_of_same {other : Document} (hname : other.name = doc.name)
    (hschemas : other.schemas = doc.schemas) (hresources : other.resources = doc.resources)
    (hcontains : ∀ id, other.arena.contains id = doc.arena.contains id) :
    other.check = doc.check := by
  have hbreaks (rule : Rule) (error : DocumentError) :
      other.Breaks rule error ↔ doc.Breaks rule error :=
    ⟨.of_same hname.symm hschemas.symm hresources.symm fun id => (hcontains id).symm,
      .of_same hname hschemas hresources hcontains⟩
  have hchecks {rules : List Rule} {outcome : Except DocumentError Unit}
      (h : other.Checks rules outcome) : doc.Checks rules outcome := by
    induction h with
    | nil => exact .nil
    | kept hkeeps _ ih => exact .kept (fun error => hkeeps error ∘ (hbreaks _ error).mpr) ih
    | broken hbroken => exact .broken ((hbreaks _ _).mp hbroken)
  have hrules : other.rules = doc.rules := by
    rw [rules, rules, hschemas, hresources]
  have hother := hchecks (check_checks other)
  rw [hrules] at hother
  exact hother.unique (check_checks doc)

/-! ## Well-formed documents -/

/-- Every response is the key of a schema. -/
def Knows (doc : Document) (endpoints : List Endpoint) : Prop :=
  ∀ endpoint ∈ endpoints, ∀ response, endpoint.response = some response →
    response ∈ doc.schemas.map (·.1)

/-- The document is as it should be, without any order in which this is found out. -/
structure WellFormed (doc : Document) : Prop where
  /-- the keys at the top level are different -/
  keys : (doc.schemas.map (·.1)).Nodup
  /-- all of them lead into the arena -/
  inside : ∀ entry ∈ doc.schemas, doc.arena.contains entry.2 = true
  /-- all of them give class names -/
  named : ∀ entry ∈ doc.schemas, ∃ name, forClass? entry.1 = some name
  /-- the class names are different -/
  distinct : (doc.schemas.map (forClass? ·.1)).Nodup
  /-- the names of the resources at the top are different -/
  top : (doc.resources.map (·.name)).Nodup
  /-- so are the names of those below one resource, at any depth -/
  below : ∀ resource ∈ doc.resources.flatMap Resource.walk, (resource.resources.map (·.name)).Nodup
  /-- the responses are known, at any depth -/
  known : ∀ resource ∈ doc.resources.flatMap Resource.walk, doc.Knows resource.endpoints
  /-- with resources, the name of the document gives a service name -/
  service : doc.resources = [] ∨ ∃ name, forClass? doc.name = some name

/-- What the rules for the schemas come to. -/
theorem keeps_schemaRules_iff :
    (∀ rule ∈ (eachAfter [] entries).flatMap (fun place => schemaRules place.1 place.2),
        doc.Keeps rule) ↔
      (entries.map (·.1)).Nodup ∧
        (∀ entry ∈ entries, doc.arena.contains entry.2 = true) ∧
        (∀ entry ∈ entries, ∃ name, forClass? entry.1 = some name) ∧
        (entries.map (forClass? ·.1)).Nodup := by
  have hplace (place : List (String × NodeId) × (String × NodeId)) :
      (∀ rule ∈ schemaRules place.1 place.2, doc.Keeps rule) ↔
        place.2.1 ∉ place.1.map (·.1) ∧ doc.arena.contains place.2.2 = true ∧
          (∃ name, forClass? place.2.1 = some name) ∧
          forClass? place.2.1 ∉ place.1.map (forClass? ·.1) := by
    simp only [schemaRules, List.forall_mem_cons, List.not_mem_nil, false_imp_iff, implies_true,
      and_true, keeps_freshKey, keeps_inArena, keeps_usable]
    refine and_congr_right fun _ => and_congr_right fun _ => and_congr_right ?_
    rintro ⟨name, hname⟩
    exact keeps_freshClass place.2 hname
  rw [List.forall_mem_flatMap, nodup_map_iff, nodup_map_iff,
    ← forall_eachAfter [] entries fun entry => doc.arena.contains entry.2 = true,
    ← forall_eachAfter [] entries fun entry => ∃ name, forClass? entry.1 = some name]
  simp only [hplace, forall_and]

/-- What the rules for resources side by side come to. -/
theorem keeps_siblingRules_iff :
    (∀ rule ∈ siblingRules [] resources, doc.Keeps rule) ↔
      (resources.map (·.name)).Nodup ∧
        ∀ resource ∈ resources, ∀ rule ∈ resource.rules, doc.Keeps rule := by
  rw [siblingRules_eq, List.forall_mem_flatMap, nodup_map_iff,
    ← forall_eachAfter [] resources fun resource => ∀ rule ∈ resource.rules, doc.Keeps rule]
  simp only [List.forall_mem_cons, keeps_freshName, forall_and]

/-- What the rules for a resource with all below it come to. -/
theorem keeps_rules_iff (resource : Resource) :
    (∀ rule ∈ resource.rules, doc.Keeps rule) ↔
      ∀ last ∈ resource.walk,
        (last.resources.map (·.name)).Nodup ∧ doc.Knows last.endpoints := by
  induction resource using Resource.induction_below with
  | step resource ih =>
    rw [Resource.rules_eq, List.forall_mem_append, List.forall_mem_map, keeps_siblingRules_iff,
      Resource.walk_eq, List.forall_mem_cons, List.forall_mem_flatMap]
    have hbelow := forall₂_congr ih
    simp only [keeps_known, hbelow, Knows]
    tauto

/-- All rules are kept exactly if the document is well-formed. -/
theorem keeps_all_iff (doc : Document) :
    (∀ rule ∈ doc.rules, doc.Keeps rule) ↔ doc.WellFormed := by
  rw [Document.rules, List.forall_mem_append, List.forall_mem_append, keeps_schemaRules_iff,
    keeps_siblingRules_iff, List.forall_mem_singleton, keeps_service]
  simp only [keeps_rules_iff, ← List.forall_mem_flatMap, forall_and]
  constructor
  · rintro ⟨⟨⟨hkeys, hinside, hnamed, hdistinct⟩, htop, hbelow, hknown⟩, hservice⟩
    exact ⟨hkeys, hinside, hnamed, hdistinct, htop, hbelow, hknown, hservice⟩
  · rintro ⟨hkeys, hinside, hnamed, hdistinct, htop, hbelow, hknown, hservice⟩
    exact ⟨⟨⟨hkeys, hinside, hnamed, hdistinct⟩, htop, hbelow, hknown⟩, hservice⟩

/-- A document that passes is well-formed, and nothing else is asked of it. -/
theorem check_eq_ok_iff (doc : Document) : doc.check = .ok () ↔ doc.WellFormed :=
  (check_checks doc).eq_ok_iff.trans (keeps_all_iff doc)

/-- **The check is exact**: it passes for well-formed documents and no others, and if it fails,
it is with the error of the first rule that is broken. -/
theorem check_exact (doc : Document) :
    (doc.check = .ok () ↔ doc.WellFormed) ∧
      ∀ error, doc.check = .error error ↔ doc.FirstBroken doc.rules error :=
  ⟨check_eq_ok_iff doc, fun _ => (check_checks doc).eq_error_iff⟩

end Document

end ApiClasses
