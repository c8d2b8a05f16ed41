import ApiClasses.ClassTree
import ApiClasses.Decoration.Standard
import ApiClasses.Proofs.Requests
import Mathlib.Data.List.Nodup
import Mathlib.Data.List.Perm.Subperm

/-!
# How class trees grow

The generation of classes as rules (`Grows`, `Creates`): decorate a class, refuse
it if it asked for a stranger, grow the classes inside it, then go on with the
next one. The rules know no bound on levels; a derivation of them is a generation
that comes to an end.

The generator does count levels, and the count never decides anything
(`innerTrees_grows`). Along a path down the tree the schemas are pairwise
distinct, because a schema that an outer class stands for is never named again
(`Tidy.unseen`), and an arena has room for only so many of them. Hence every
generation ends, whatever the decorators ask for (`classTree_terminates`).
-/

namespace ApiClasses

variable {arena : Arena}

/-! ## Sites -/

/-- A class about to be decorated. -/
structure Site (arena : Arena) where
  /-- the schema the class is to stand for -/
  schema : Schema arena
  /-- what answers the requests of its decorators -/
  before : Nesting arena
  /-- the work of its decorators -/
  decoration : Decoration arena ClassDecl

/-- The class inside with a number. -/
def Nesting.site (decorators : List Decorator) (nesting : Nesting arena)
    (entry : Schema arena × Nat) : Site arena where
  schema := entry.1
  before := nesting.inside entry.2
  decoration :=
    Decorator.allInside decorators (nesting.nestedName entry.2) entry.1
      { name := nesting.nestedName entry.2 }

/-- All classes inside, in the order of their numbers. -/
def Nesting.sites (decorators : List Decorator) (nesting : Nesting arena) : List (Site arena) :=
  nesting.numbered.map (nesting.site decorators)

/-- The top-level class of a schema. -/
def Schema.site (schema : Schema arena) (decorators : List Decorator) (settings : Settings)
    (name : String) : Site arena where
  schema := schema
  before := ({ settings, trail := "" } : Nesting arena).enclose schema.id name
  decoration := Decorator.allAtTop decorators schema { name }

/-! ## The rules -/

/-- Generating the classes of some sites, one after the other. -/
inductive Grows (decorators : List Decorator) :
    List (Site arena) → Except GenerationError (List ClassTree) → Prop where
  /-- nothing is left to generate -/
  | nil : Grows decorators [] (.ok [])
  /-- a decorator gives up -/
  | undecorated {site rest error} :
    site.before.decorating site.decoration = .error error →
    Grows decorators (site :: rest) (.error error)
  /-- a decorator asked for a schema of another arena -/
  | stranger {site rest decorated after id ids} :
    site.before.decorating site.decoration = .ok (decorated, after) →
    after.strangers = id :: ids →
    Grows decorators (site :: rest) (.error (.misuse (.foreignSchema id)))
  /-- a class inside fails -/
  | inside {site rest decorated after error} :
    site.before.decorating site.decoration = .ok (decorated, after) →
    after.strangers = [] →
    Grows decorators (after.sites decorators) (.error error) →
    Grows decorators (site :: rest) (.error error)
  /-- the class is complete, and the others follow -/
  | cons {site rest decorated after inner result} :
    site.before.decorating site.decoration = .ok (decorated, after) →
    after.strangers = [] →
    Grows decorators (after.sites decorators) (.ok inner) →
    Grows decorators rest result →
    Grows decorators (site :: rest)
      ((⟨site.schema.id, decorated, after.answers, after.strangers, inner⟩ :: ·) <$> result)

/-- Generating the class of a schema of the arena. -/
inductive Creates (decorators : List Decorator) (settings : Settings) (arena : Arena) :
    NodeId → Except GenerationError ClassTree → Prop where
  /-- there is no such schema -/
  | outside {id} : arena.get? id = none →
    Creates decorators settings arena id (.error (.misuse (.outsideArena id)))
  /-- its name is of no use -/
  | unnamed {id schema} : arena.get? id = some schema → schema.className? = none →
    Creates decorators settings arena id (.error (.misuse (.unnamedSchema id)))
  /-- its class grows, or fails to -/
  | grown {id schema name result} :
    arena.get? id = some schema → schema.className? = some name →
    Grows decorators [schema.site decorators settings name] ((fun tree => [tree]) <$> result) →
    Creates decorators settings arena id result

/-- The rules leave no choice. -/
theorem Grows.unique {decorators : List Decorator} {sites : List (Site arena)}
    {result other : Except GenerationError (List ClassTree)} (h : Grows decorators sites result)
    (h' : Grows decorators sites other) : result = other := by
  induction h generalizing other with
  | nil => cases h'; rfl
  | undecorated hd =>
    cases h' with
    | undecorated hd' => exact congrArg Except.error (Except.error.inj (hd.symm.trans hd'))
    | stranger hd' | inside hd' | cons hd' => rw [hd] at hd'; cases hd'
  | stranger hd hs =>
    cases h' with
    | undecorated hd' => rw [hd] at hd'; cases hd'
    | stranger hd' hs' => rw [hd] at hd'; cases hd'; rw [hs] at hs'; cases hs'; rfl
    | inside hd' hs' | cons hd' hs' => rw [hd] at hd'; cases hd'; rw [hs] at hs'; cases hs'
  | inside hd hs _ ih =>
    cases h' with
    | undecorated hd' => rw [hd] at hd'; cases hd'
    | stranger hd' hs' => rw [hd] at hd'; cases hd'; rw [hs] at hs'; cases hs'
    | inside hd' _ hi' =>
      rw [hd] at hd'; cases hd'
      obtain rfl := Except.error.inj (ih hi')
      rfl
    | cons hd' _ hi' => rw [hd] at hd'; cases hd'; cases ih hi'
  | cons hd hs _ _ ih ih_rest =>
    cases h' with
    | undecorated hd' => rw [hd] at hd'; cases hd'
    | stranger hd' hs' => rw [hd] at hd'; cases hd'; rw [hs] at hs'; cases hs'
    | inside hd' _ hi' => rw [hd] at hd'; cases hd'; cases ih hi'
    | cons hd' _ hi' hr' =>
      rw [hd] at hd'; cases hd'
      obtain rfl := Except.ok.inj (ih hi')
      rw [ih_rest hr']

/-! ## What a complete class owes to its run -/

/-- A class that has grown at a site; `after` is how its decoration left the
nesting. -/
structure Grown (decorators : List Decorator) (site : Site arena) (after : Nesting arena)
    (tree : ClassTree) : Prop where
  /-- the class is what its decorators made of it -/
  run : site.before.run site.decoration = .ok (tree.decorated, after)
  /-- it stands for the schema of its site -/
  schema : tree.schema = site.schema.id
  /-- the answers are recorded -/
  answers : tree.answers = after.answers
  /-- so are the strangers -/
  strangers : tree.strangers = after.strangers
  /-- no stranger was asked for -/
  noStranger : after.strangers = []
  /-- the classes inside have grown as well -/
  inner : Grows decorators (after.sites decorators) (.ok tree.inner)

theorem Nesting.decorating_eq_ok {nesting after : Nesting arena}
    {decoration : Decoration arena ClassDecl} {c : ClassDecl} :
    nesting.decorating decoration = .ok (c, after) ↔ nesting.run decoration = .ok (c, after) := by
  rw [decorating]
  rcases nesting.run decoration with error | ⟨c', after'⟩ <;> simp

theorem Nesting.decorating_eq_error {nesting : Nesting arena}
    {decoration : Decoration arena ClassDecl} {error : GenerationError} :
    nesting.decorating decoration = .error error ↔
      ∃ reason, nesting.run decoration = .error reason ∧ error = .decoration reason := by
  rw [decorating]
  rcases nesting.run decoration with reason | ⟨c, after⟩ <;> simp [eq_comm]

/-- Site by site, complete trees have grown. -/
theorem Grows.forall₂ {decorators : List Decorator} {sites : List (Site arena)}
    {trees : List ClassTree} (h : Grows decorators sites (.ok trees)) :
    List.Forall₂ (fun site tree => ∃ after, Grown decorators site after tree) sites trees := by
  induction sites generalizing trees with
  | nil =>
    cases h
    exact .nil
  | cons site rest ih =>
    generalize hresult : Except.ok trees = result at h
    cases h with
    | undecorated | stranger | inside => cases hresult
    | cons hd hs hi hr =>
      rename_i result
      rcases result with error | later
      · cases hresult
      · obtain rfl := Except.ok.inj hresult
        exact .cons ⟨_, Nesting.decorating_eq_ok.mp hd, rfl, rfl, rfl, hs, hi⟩ (ih hr)

/-- Of two lists in step, every member of the second belongs to one of the first… -/
theorem exists_of_forall₂_right {α β : Type} {R : α → β → Prop} {as : List α} {bs : List β}
    (h : List.Forall₂ R as bs) {b : β} (hb : b ∈ bs) : ∃ a ∈ as, R a b := by
  induction h with
  | nil => cases hb
  | cons hfirst _ ih =>
    rcases List.mem_cons.mp hb with rfl | hb
    · exact ⟨_, List.mem_cons_self, hfirst⟩
    · obtain ⟨a, ha, hrel⟩ := ih hb
      exact ⟨a, List.mem_cons_of_mem _ ha, hrel⟩

/-- …and the other way round. -/
theorem exists_of_forall₂_left {α β : Type} {R : α → β → Prop} {as : List α} {bs : List β}
    (h : List.Forall₂ R as bs) {a : α} (ha : a ∈ as) : ∃ b ∈ bs, R a b :=
  exists_of_forall₂_right h.flip ha

/-- Members at the same place belong together. -/
theorem getElem?_of_forall₂ {α β : Type} {R : α → β → Prop} {as : List α} {bs : List β}
    (h : List.Forall₂ R as bs) {i : Nat} {b : β} (hb : bs[i]? = some b) :
    ∃ a, as[i]? = some a ∧ R a b := by
  induction h generalizing i with
  | nil => cases hb
  | cons hfirst _ ih =>
    cases i with
    | zero =>
      obtain rfl := Option.some.inj hb
      exact ⟨_, rfl, hfirst⟩
    | succ i => exact ih hb

/-- What two lists in step have in common, member by member, they have in common. -/
theorem map_eq_map_of_forall₂ {α β γ : Type} {R : α → β → Prop} {as : List α} {bs : List β}
    {f : α → γ} {g : β → γ} (h : List.Forall₂ R as bs) (hsame : ∀ {a b}, R a b → f a = g b) :
    as.map f = bs.map g := by
  induction h with
  | nil => rfl
  | cons hfirst _ ih => rw [List.map_cons, List.map_cons, hsame hfirst, ih]

/-- Every class inside has grown at one of the sites that the decoration left. -/
theorem Grown.exists_of_mem_inner {decorators : List Decorator} {site : Site arena}
    {after : Nesting arena} {tree d : ClassTree} (h : Grown decorators site after tree)
    (hd : d ∈ tree.inner) :
    ∃ entry ∈ after.numbered, ∃ last, Grown decorators (after.site decorators entry) last d := by
  obtain ⟨inner, hinner, last, hlast⟩ := exists_of_forall₂_right h.inner.forall₂ hd
  obtain ⟨entry, hentry, rfl⟩ := List.mem_map.mp hinner
  exact ⟨entry, hentry, last, hlast⟩

/-- The classes inside stand in the order of their numbers. -/
theorem Grown.exists_of_getElem? {decorators : List Decorator} {site : Site arena}
    {after : Nesting arena} {tree d : ClassTree} (h : Grown decorators site after tree) {i : Nat}
    (hd : tree.inner[i]? = some d) :
    ∃ schema, after.named[i]? = some schema ∧
      ∃ last, Grown decorators (after.site decorators (schema, i + 1)) last d := by
  obtain ⟨inner, hinner, last, hlast⟩ := getElem?_of_forall₂ h.inner.forall₂ hd
  rw [Nesting.sites, Nesting.numbered, List.getElem?_map, List.getElem?_zipIdx, Option.map_map,
    Option.map_eq_some_iff] at hinner
  obtain ⟨schema, hschema, rfl⟩ := hinner
  rw [Function.comp_apply, Nat.add_comm] at hlast
  exact ⟨schema, hschema, last, hlast⟩

/-- Everything that was given a number has become a class inside. -/
theorem Grown.exists_of_mem_numbered {decorators : List Decorator} {site : Site arena}
    {after : Nesting arena} {tree : ClassTree} (h : Grown decorators site after tree)
    {entry : Schema arena × Nat} (hentry : entry ∈ after.numbered) :
    ∃ d ∈ tree.inner, ∃ last, Grown decorators (after.site decorators entry) last d :=
  exists_of_forall₂_left h.inner.forall₂ (List.mem_map_of_mem hentry)

/-! ## Paths -/

/-- The ids of an arena are pairwise distinct at most as often as it has schemas. -/
theorem Arena.length_le_size {ids : List NodeId} (hdistinct : ids.Nodup)
    (hin : ∀ id ∈ ids, arena.contains id = true) : ids.length ≤ arena.size := by
  have hinj : Function.Injective NodeId.index := fun a b h => by cases a; cases b; simp_all
  have hsub : ids.map NodeId.index ⊆ List.range arena.size := by
    intro i hi
    obtain ⟨id, hid, rfl⟩ := List.mem_map.mp hi
    exact List.mem_range.mpr (of_decide_eq_true (hin id hid))
  have := (List.subperm_of_subset (hdistinct.map hinj) hsub).length_le
  simpa using this

/-- Classes that stand for the schemas of the path are around, or are the class of
the nesting itself. -/
structure Nesting.Around (nesting : Nesting arena) (path : List NodeId) : Prop where
  /-- they stand for different schemas -/
  distinct : path.Nodup
  /-- the schemas are in the arena -/
  contained : ∀ id ∈ path, arena.contains id = true
  /-- their names are known -/
  bound : ∀ id ∈ path, id ∈ nesting.outer.map (·.1)

namespace Nesting.Around

variable {nesting after : Nesting arena} {path : List NodeId}

theorem later (h : nesting.Around path) (hl : Later nesting after) : after.Around path :=
  ⟨h.distinct, h.contained, hl.outer ▸ h.bound⟩

/-- The schema of a class inside is none of those around. -/
theorem cons (h : nesting.Around path) (ht : nesting.Tidy) {entry : Schema arena × Nat}
    (hentry : entry ∈ nesting.numbered) :
    (nesting.inside entry.2).Around (entry.1.id :: path) := by
  have hnamed : entry.1 ∈ nesting.named :=
    List.mem_of_getElem? (Nesting.mem_numbered.mp hentry).2
  have hfresh : entry.1.id ∉ path := fun hmem =>
    Nesting.outerName?_eq_none.mp (ht.unseen _ hnamed) (h.bound _ hmem)
  refine ⟨List.nodup_cons.mpr ⟨hfresh, h.distinct⟩, ?_, ?_⟩
  · exact List.forall_mem_cons.mpr ⟨decide_eq_true entry.1.inside, h.contained⟩
  · refine List.forall_mem_cons.mpr ⟨?_, fun id hid => ?_⟩
    · exact List.mem_map.mpr ⟨_, Nesting.mem_outerInside.mpr (.inl ⟨_, _, hentry, rfl, rfl⟩), rfl⟩
    · obtain ⟨⟨_, name⟩, hmem, rfl⟩ := List.mem_map.mp (h.bound id hid)
      exact List.mem_map.mpr ⟨_, Nesting.mem_outerInside.mpr (.inr hmem), rfl⟩

/-- With as many classes around as the arena has schemas, nothing is left to name. -/
theorem numbered_eq_nil (h : nesting.Around path) (ht : nesting.Tidy)
    (hfull : arena.size ≤ path.length) : nesting.numbered = [] := by
  refine List.eq_nil_iff_forall_not_mem.mpr fun entry hentry => ?_
  have hcons := h.cons ht hentry
  have := Arena.length_le_size hcons.distinct hcons.contained
  simp only [List.length_cons] at this
  omega

end Nesting.Around

/-! ## The count of levels -/

/-- One class, given the way in which the classes inside it are made. -/
def Site.grow (inside : Nesting arena → Except GenerationError (List ClassTree))
    (site : Site arena) : Except GenerationError ClassTree := do
  let (decorated, after) ← site.before.decorating site.decoration
  return ⟨site.schema.id, decorated, after.answers, after.strangers, ← inside after⟩

theorem innerTrees_of_stranger {nesting : Nesting arena} {id : NodeId} {ids : List NodeId}
    (decorators : List Decorator) (levels : Nat) (h : nesting.strangers = id :: ids) :
    innerTrees decorators levels nesting = .error (.misuse (.foreignSchema id)) := by
  cases levels <;> simp only [innerTrees, h]

theorem innerTrees_zero {nesting : Nesting arena} (decorators : List Decorator)
    (h : nesting.strangers = []) : innerTrees decorators 0 nesting = .ok [] := by
  simp only [innerTrees, h]

theorem innerTrees_succ {nesting : Nesting arena} (decorators : List Decorator) (levels : Nat)
    (h : nesting.strangers = []) :
    innerTrees decorators (levels + 1) nesting =
      (nesting.sites decorators).mapM (Site.grow (innerTrees decorators levels)) := by
  simp only [innerTrees, h, Nesting.sites, List.mapM_map]
  rfl

/-- Decorators that do the same to classes inside lead to the same classes inside. -/
theorem innerTrees_congr {decorators others : List Decorator}
    (hsame : ∀ className (schema : Schema arena) c,
      Decorator.allInside decorators className schema c =
        Decorator.allInside others className schema c)
    (levels : Nat) (nesting : Nesting arena) :
    innerTrees decorators levels nesting = innerTrees others levels nesting := by
  have hsites (nesting : Nesting arena) : nesting.sites decorators = nesting.sites others := by
    refine List.map_congr_left fun entry _ => ?_
    rw [Nesting.site, Nesting.site, hsame]
  induction levels generalizing nesting with
  | zero =>
    rcases hs : nesting.strangers with _ | ⟨id, ids⟩
    · rw [innerTrees_zero decorators hs, innerTrees_zero others hs]
    · rw [innerTrees_of_stranger decorators 0 hs, innerTrees_of_stranger others 0 hs]
  | succ levels ih =>
    rcases hs : nesting.strangers with _ | ⟨id, ids⟩
    · rw [innerTrees_succ decorators levels hs, innerTrees_succ others levels hs, hsites,
        funext ih]
    · rw [innerTrees_of_stranger decorators _ hs, innerTrees_of_stranger others _ hs]

/-- Classes made one after the other follow the rules if those inside them do. -/
theorem grows_mapM {decorators : List Decorator} {levels : Nat} {sites : List (Site arena)}
    (h : ∀ site ∈ sites, ∀ decorated after,
      site.before.run site.decoration = .ok (decorated, after) → after.strangers = [] →
      Grows decorators (after.sites decorators) (innerTrees decorators levels after)) :
    Grows decorators sites (sites.mapM (Site.grow (innerTrees decorators levels))) := by
  induction sites with
  | nil => exact .nil
  | cons site rest ih =>
    obtain ⟨hsite, hrest⟩ := List.forall_mem_cons.mp h
    rw [List.mapM_cons]
    rcases hd : site.before.decorating site.decoration with error | ⟨decorated, after⟩
    · rw [Site.grow, hd]
      exact .undecorated hd
    · rcases hs : after.strangers with _ | ⟨id, ids⟩
      · have hinner := hsite _ _ (Nesting.decorating_eq_ok.mp hd) hs
        rcases hi : innerTrees decorators levels after with error | inner
        · rw [Site.grow, hd]
          simp only [bind, Except.bind, hi]
          exact .inside hd hs (hi ▸ hinner)
        · have hcons := Grows.cons hd hs (hi ▸ hinner) (ih hrest)
          rw [Site.grow, hd]
          simp only [bind, Except.bind, hi]
          exact hcons
      · rw [Site.grow, hd]
        simp only [bind, Except.bind, innerTrees_of_stranger decorators levels hs]
        exact .stranger hd hs

/-- As many levels as there are schemas without a class around are enough. -/
theorem innerTrees_grows (decorators : List Decorator) {levels : Nat} {nesting : Nesting arena}
    {path : List NodeId} (ht : nesting.Tidy) (ha : nesting.Around path)
    (hlevels : arena.size ≤ levels + path.length) (hs : nesting.strangers = []) :
    Grows decorators (nesting.sites decorators) (innerTrees decorators levels nesting) := by
  induction levels generalizing nesting path with
  | zero =>
    rw [innerTrees_zero decorators hs, Nesting.sites, ha.numbered_eq_nil ht (by omega)]
    exact .nil
  | succ levels ih =>
    rw [innerTrees_succ decorators levels hs]
    refine grows_mapM fun site hsite decorated after hrun hs' => ?_
    -- one level fewer is left, but one class more is around
    obtain ⟨entry, hentry, rfl⟩ := List.mem_map.mp hsite
    have hinside : (nesting.inside entry.2).Tidy := .of_untouched rfl rfl rfl
    have htidy := hinside.run hrun
    refine ih htidy ((ha.cons ht hentry).later (Nesting.run_later hrun)) ?_ hs'
    simp only [List.length_cons]
    omega

namespace Nesting

/-- A class inside sees its own schema from outside, wherever the nesting comes from. -/
theorem inside_around {nesting : Nesting arena} {entry : Schema arena × Nat}
    (hentry : entry ∈ nesting.numbered) : (nesting.inside entry.2).Around [entry.1.id] where
  distinct := List.nodup_singleton _
  contained := List.forall_mem_singleton.mpr (decide_eq_true entry.1.inside)
  bound := by
    have hseen := mem_outerInside.mpr (.inl ⟨_, _, hentry, rfl, rfl⟩)
    exact List.forall_mem_singleton.mpr (List.mem_map.mpr ⟨_, hseen, rfl⟩)

/-- The classes inside a nesting grow, also if schemas were bound to names in between. -/
theorem trees_grows (decorators : List Decorator) (nesting : Nesting arena)
    (hs : nesting.strangers = []) :
    Grows decorators (nesting.sites decorators) (nesting.trees decorators) := by
  rw [trees]
  rcases hsize : arena.size with _ | levels
  · -- an empty arena has no schema to name
    have hnone : nesting.named = [] := by
      refine List.eq_nil_iff_forall_not_mem.mpr fun schema _ => ?_
      exact absurd schema.inside (by omega)
    rw [innerTrees_zero decorators hs, sites, numbered, hnone]
    exact .nil
  · rw [innerTrees_succ decorators levels hs]
    refine grows_mapM fun site hsite decorated after hrun hs' => ?_
    obtain ⟨entry, hentry, rfl⟩ := List.mem_map.mp hsite
    have hinside : (nesting.inside entry.2).Tidy := .of_untouched rfl rfl rfl
    refine innerTrees_grows decorators (hinside.run hrun)
      ((inside_around hentry).later (run_later hrun)) ?_ hs'
    simp only [List.length_singleton]
    omega

/-- The classes inside are made one after the other, and those inside each of them in the
same way: nothing is left of the count of levels. -/
theorem trees_eq_mapM (decorators : List Decorator) (nesting : Nesting arena)
    (hs : nesting.strangers = []) :
    nesting.trees decorators =
      (nesting.sites decorators).mapM (Site.grow fun after => after.trees decorators) := by
  refine (nesting.trees_grows decorators hs).unique (grows_mapM ?_)
  exact fun _ _ _ after _ hs' => after.trees_grows decorators hs'

end Nesting

/-! ## Top-level classes -/

variable {decorators : List Decorator} {settings : Settings}

theorem Schema.site_tidy (schema : Schema arena) (name : String) :
    (schema.site decorators settings name).before.Tidy :=
  .of_untouched rfl rfl rfl

/-- A top-level class sees nothing from outside but itself. -/
theorem Schema.site_outer (schema : Schema arena) (name : String) :
    ∀ entry ∈ (schema.site decorators settings name).before.outer, entry = (schema.id, name) :=
  fun _ => List.mem_singleton.mp

/-- Only the class of the schema itself is around. -/
theorem Schema.site_around (schema : Schema arena) (name : String) :
    (schema.site decorators settings name).before.Around [schema.id] where
  distinct := List.nodup_singleton _
  contained := List.forall_mem_singleton.mpr (decide_eq_true schema.inside)
  bound := by
    simp [Schema.site, Nesting.enclose]

/-- The generator follows the rules on a top-level class. -/
theorem Schema.classTree_grows (schema : Schema arena) (name : String) :
    Grows decorators [schema.site decorators settings name]
      ((fun tree => [tree]) <$> schema.classTree decorators settings name) := by
  have h : Grows decorators [schema.site decorators settings name]
      ([schema.site decorators settings name].mapM
        (Site.grow (innerTrees decorators arena.size))) :=
    grows_mapM (List.forall_mem_singleton.mpr fun _ after _ hs => after.trees_grows decorators hs)
  rw [List.mapM_cons, List.mapM_nil] at h
  exact h

theorem map_singleton_inj {result other : Except GenerationError ClassTree}
    (h : (fun tree => [tree]) <$> result = (fun tree => [tree]) <$> other) : result = other := by
  rcases result with error | tree <;> rcases other with error' | tree'
  · exact congrArg Except.error (Except.error.inj h)
  · cases h
  · cases h
  · exact congrArg Except.ok (List.cons.inj (Except.ok.inj h)).1

/-- The rules of creation are the generator's. -/
theorem creates_iff {id : NodeId} {result : Except GenerationError ClassTree} :
    Creates decorators settings arena id result ↔
      arena.classTree decorators settings id = result := by
  constructor
  · intro h
    rw [Arena.classTree]
    cases h with
    | outside hget => simp only [hget]
    | unnamed hget hname => simp only [hget, hname]
    | grown hget hname hgrows =>
      simp only [hget, hname]
      exact map_singleton_inj ((Schema.classTree_grows _ _).unique hgrows)
  · rintro rfl
    rw [Arena.classTree]
    rcases hget : arena.get? id with _ | schema
    · exact .outside hget
    · rcases hname : schema.className? with _ | name
      · simp only [hname]
        exact .unnamed hget hname
      · simp only [hname]
        exact .grown hget hname (schema.classTree_grows name)

/-- A declaration comes from its tree. -/
theorem Arena.classDecl_eq_ok {id : NodeId} {c : ClassDecl} :
    arena.classDecl decorators settings id = .ok c ↔
      ∃ tree, arena.classTree decorators settings id = .ok tree ∧ tree.decl = c := by
  rw [classDecl]
  rcases arena.classTree decorators settings id with error | tree
  · exact ⟨nofun, nofun⟩
  · simp [Functor.map, Except.map]

/-- A complete top-level class has grown at the site of its schema. -/
theorem Arena.exists_grown {id : NodeId} {tree : ClassTree}
    (h : arena.classTree decorators settings id = .ok tree) :
    ∃ schema name after, arena.get? id = some schema ∧ schema.className? = some name ∧
      Grown decorators (schema.site decorators settings name) after tree := by
  cases creates_iff.mpr h with
  | grown hget hname hgrows =>
    cases hgrows.forall₂ with
    | cons hgrown _ =>
      obtain ⟨after, hafter⟩ := hgrown
      exact ⟨_, _, after, hget, hname, hafter⟩

/-! ## Going down a tree -/

/-- `tree.Descent above c` says that `c` is a class of the tree and `above` are the
classes around it, innermost first. -/
inductive ClassTree.Descent (tree : ClassTree) : List ClassTree → ClassTree → Prop where
  /-- nothing is around the class at the top -/
  | top : Descent tree [] tree
  /-- one step further in -/
  | inner {above c d} : Descent tree above c → d ∈ c.inner → Descent tree (c :: above) d

/-- The class itself or one declared inside it, at any depth. -/
inductive ClassDecl.Descent (top : ClassDecl) : ClassDecl → Prop where
  /-- the class itself -/
  | top : Descent top top
  /-- one step further in -/
  | inner {c d} : Descent top c → d ∈ c.innerClasses → Descent top d

/-- On the way down every class has grown at some site, and the schemas of the
classes around it are known there. -/
theorem Grown.of_descent {site : Site arena} {after : Nesting arena} {tree c : ClassTree}
    {above : List ClassTree} (h : Grown decorators site after tree) (ht : site.before.Tidy)
    (ha : site.before.Around [site.schema.id]) (hc : tree.Descent above c) :
    ∃ (last : Site arena) (left : Nesting arena), Grown decorators last left c ∧ left.Tidy ∧
      left.Around ((c :: above).map (·.schema)) := by
  induction hc with
  | top =>
    refine ⟨site, after, h, ht.run h.run, ?_⟩
    rw [List.map_singleton, h.schema]
    exact ha.later (Nesting.run_later h.run)
  | inner _ hd ih =>
    obtain ⟨_, outer, hgrown, htidy, haround⟩ := ih
    obtain ⟨entry, hentry, last, hlast⟩ := hgrown.exists_of_mem_inner hd
    refine ⟨_, last, hlast, (Nesting.Tidy.of_untouched rfl rfl rfl).run hlast.run, ?_⟩
    rw [List.map_cons, hlast.schema]
    exact (haround.cons htidy hentry).later (Nesting.run_later hlast.run)

/-- **Every generation ends**: there is a derivation of the rules, its outcome is
the only one there is, and it is what the generator computes. In a complete tree
the classes on a path downwards stand for pairwise distinct schemas, so there are
never more of them than the arena has schemas. -/
theorem classTree_terminates (arena : Arena) (decorators : List Decorator) (settings : Settings)
    (id : NodeId) :
    (∃! result, Creates decorators settings arena id result) ∧
      Creates decorators settings arena id (arena.classTree decorators settings id) ∧
      ∀ tree, arena.classTree decorators settings id = .ok tree →
        ∀ above c, tree.Descent above c →
          ((c :: above).map (·.schema)).Nodup ∧ (c :: above).length ≤ arena.size := by
  refine ⟨⟨_, creates_iff.mpr rfl, fun _ h => (creates_iff.mp h).symm⟩, creates_iff.mpr rfl, ?_⟩
  intro tree htree above c hc
  obtain ⟨schema, name, _, -, -, hgrown⟩ := Arena.exists_grown htree
  obtain ⟨_, after, -, -, haround⟩ :=
    hgrown.of_descent (schema.site_tidy name) (schema.site_around name) hc
  refine ⟨haround.distinct, ?_⟩
  have hle := Arena.length_le_size haround.distinct haround.contained
  rwa [List.length_map] at hle

/-- `Graph` leads to a second schema, the second to a third, and the third back to
both of them. -/
def Arena.ring : Arena :=
  ⟨#[⟨some "Graph", none, .object [⟨"start", ⟨1⟩⟩] none⟩,
    ⟨none, none, .object [⟨"other", ⟨2⟩⟩] none⟩,
    ⟨none, none, .object [⟨"back", ⟨1⟩⟩, ⟨"top", ⟨0⟩⟩] none⟩]⟩

/-- Going round the ring ends before it comes to the same schema again. -/
theorem ring_distinct_downwards :
    ∃ tree above c, Arena.ring.classTree (Decorator.standard {}) {} ⟨0⟩ = .ok tree ∧
      tree.Descent above c ∧ (c :: above).map (·.schema) = [⟨2⟩, ⟨1⟩, ⟨0⟩] ∧
      ((c :: above).map (·.schema)).Nodup ∧ (c :: above).length ≤ Arena.ring.size :=
  ⟨_, _, _, rfl, .inner (.inner .top (.head _)) (.head _), rfl,
    (classTree_terminates Arena.ring (Decorator.standard {}) {} ⟨0⟩).2.2 _ rfl _ _
      (.inner (.inner .top (.head _)) (.head _))⟩

end ApiClasses
