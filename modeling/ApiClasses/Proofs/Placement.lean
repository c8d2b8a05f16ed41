import ApiClasses.Proofs.FieldTypes
import ApiClasses.Proofs.References

/-!
# Classes of a tree and the sites they grew at

A complete tree remembers schemas, declarations and answers. What else is known of one of
its classes comes from the site where the class has grown: `Placed` goes down a tree and
keeps the site of the class it comes to, so that a fact about all classes is an induction
over the way to them.

With the standard decorators the fields of a class are those of the properties of its
schema, each of the type that the class's answers make of the property
(`Placed.fields_standard`), and only objects without a class name become classes inside
(`Placed.named_standard`).
-/

namespace ApiClasses

variable {arena : Arena}

/-! ## Ways down -/

/-- On the way down a tree that has grown at the site `top`, past the classes `above`,
innermost first, `c` has grown at `site`, and its decoration left `after`. -/
inductive Placed (decorators : List Decorator) (top : Site arena) (tree : ClassTree) :
    List ClassTree → ClassTree → Site arena → Nesting arena → Prop where
  /-- the tree itself -/
  | top {after} : Grown decorators top after tree → Placed decorators top tree [] tree top after
  /-- one step further in -/
  | inner {above c d site after entry last} : Placed decorators top tree above c site after →
    d ∈ c.inner → entry ∈ after.numbered →
    Grown decorators (after.site decorators entry) last d →
    Placed decorators top tree (c :: above) d (after.site decorators entry) last

variable {decorators : List Decorator} {settings : Settings} {top site : Site arena}
  {after : Nesting arena} {tree c : ClassTree} {above : List ClassTree}

namespace Placed

theorem grown (h : Placed decorators top tree above c site after) :
    Grown decorators site after c := by
  cases h with
  | top hgrown => exact hgrown
  | inner _ _ _ hgrown => exact hgrown

/-- Every class of the tree is placed somewhere. -/
theorem exists_of_descent (h : Grown decorators top after tree) (hc : tree.Descent above c) :
    ∃ site left, Placed decorators top tree above c site left := by
  induction hc with
  | top => exact ⟨top, after, .top h⟩
  | inner _ hd ih =>
    obtain ⟨site, left, hplaced⟩ := ih
    obtain ⟨entry, hentry, last, hlast⟩ := hplaced.grown.exists_of_mem_inner hd
    exact ⟨_, last, .inner hplaced hd hentry hlast⟩

theorem tidy (h : Placed decorators top tree above c site after) (htop : top.before.Tidy) :
    after.Tidy := by
  cases h with
  | top hgrown => exact htop.run hgrown.run
  | inner _ _ _ hgrown => exact (Nesting.Tidy.of_untouched rfl rfl rfl).run hgrown.run

/-- What a class sees from outside is declared around it. -/
theorem declared (happ : ∀ decorator ∈ decorators, decorator.AppendsOnly)
    (h : Placed decorators top tree above c site after)
    (htop : ∀ entry ∈ top.before.outer, tree.Declares [] entry) :
    ∀ entry ∈ site.before.outer, tree.Declares above entry := by
  induction h with
  | top => exact htop
  | inner hplaced _ _ _ ih => exact outerInside_declared happ hplaced.grown ih

/-- Every answer given to the decorators of a class is declared around what is inside it. -/
theorem answers_declared (happ : ∀ decorator ∈ decorators, decorator.AppendsOnly)
    (h : Placed decorators top tree above c site after) (htidy : top.before.Tidy)
    (htop : ∀ entry ∈ top.before.outer, tree.Declares [] entry) :
    ∀ entry ∈ c.answers, tree.Declares (c :: above) entry := by
  intro entry hentry
  rw [h.grown.answers] at hentry
  exact outerInside_declared happ h.grown (h.declared happ htop) entry
    ((h.tidy htidy).answered entry hentry)

end Placed

/-! ## What the standard decorators do -/

namespace Decorator

variable (schema : Schema arena) (c : ClassDecl)

/-- A decoration that leaves the fields as they are. -/
def LeavesFields (c : ClassDecl) (decoration : Decoration arena ClassDecl) : Prop :=
  ∃ c' : ClassDecl, c'.fields = c.fields ∧ decoration = pure c'

theorem doc_leavesFields : LeavesFields c (doc.atTop schema c) := by
  dsimp only [doc, everywhere]
  split
  · exact ⟨{ c with doc := some (trim _) }, rfl, rfl⟩
  · exact ⟨c, rfl, rfl⟩

theorem derives_leavesFields (traits : List String) :
    LeavesFields c ((derives traits).atTop schema c) := by
  dsimp only [derives, everywhere]
  split
  · exact ⟨c, rfl, rfl⟩
  · exact ⟨c.addAttribute _, rfl, rfl⟩

theorem answerMark_leavesFields (traitName : String) :
    LeavesFields c ((answerMark traitName).atTop schema c) := by
  dsimp only [answerMark]
  split
  · exact ⟨c, rfl, rfl⟩
  · exact ⟨c.addTrait _, rfl, rfl⟩

/-- Of the standard decorators only the last one works on fields. -/
theorem allAtTop_standard (settings : Settings) : ∃ c' : ClassDecl, c'.fields = c.fields ∧
    allAtTop (standard settings) schema c = addProperties schema c' := by
  obtain ⟨described, hdescribed, hdoc⟩ := doc_leavesFields schema c
  obtain ⟨derived, hderived, hderives⟩ := derives_leavesFields schema described settings.derives
  obtain ⟨marked, hmarked, hmark⟩ := answerMark_leavesFields schema derived answerTrait
  refine ⟨marked, hmarked.trans (hderived.trans hdescribed), ?_⟩
  simp only [allAtTop, standard, List.foldlM_cons, List.foldlM_nil, hdoc, hderives, hmark,
    pure_bind, bind_pure]
  rfl

/-- This holds for the classes inside as well, which get no mark. -/
theorem allInside_standard (settings : Settings) (name : String) :
    ∃ c' : ClassDecl, c'.fields = c.fields ∧
      allInside (standard settings) name schema c = addProperties schema c' := by
  obtain ⟨described, hdescribed, hdoc⟩ := doc_leavesFields schema c
  obtain ⟨derived, hderived, hderives⟩ := derives_leavesFields schema described settings.derives
  refine ⟨derived, hderived.trans hdescribed, ?_⟩
  have hall : allInside (standard settings) name schema c =
      doc.atTop schema c >>= fun c => (derives settings.derives).atTop schema c >>=
        fun c => fields.atTop schema c >>= pure := rfl
  rw [hall, hdoc, pure_bind, hderives, pure_bind, bind_pure]
  rfl

end Decorator

/-! ## Fields -/

variable {owner : Schema arena} {properties : List (String × Schema arena)}
  {answers : List (NodeId × String)} {before result : ClassDecl}

/-- The field has the type that the answers make of the property. -/
def Types (answers : List (NodeId × String)) (owner : Schema arena)
    (property : String × Schema arena) (field : ClassField) : Prop :=
  (propertyType owner property.2).EndsIn answers field.type

theorem endsIn_addProperty {property : String × Schema arena}
    (h : (addProperty owner before property).EndsIn answers result) :
    ∃ field, result = before.addField field ∧ Types answers owner property field := by
  obtain ⟨type, htype, hadded⟩ := Decoration.endsIn_bind.mp h
  obtain rfl := hadded
  exact ⟨_, rfl, htype⟩

/-- Property by property, one field is added: each as the property says, if every single one
is. -/
theorem fields_foldlM {R : String × Schema arena → ClassField → Prop}
    (hadd : ∀ {before result property}, (addProperty owner before property).EndsIn answers result →
      ∃ field, result = before.addField field ∧ R property field)
    (h : (properties.foldlM (addProperty owner) before).EndsIn answers result) :
    ∃ added, result.fields = before.fields ++ added ∧ List.Forall₂ R properties added := by
  induction properties generalizing before with
  | nil =>
    obtain rfl : before = result := h
    exact ⟨[], (List.append_nil _).symm, .nil⟩
  | cons property rest ih =>
    rw [List.foldlM_cons] at h
    obtain ⟨next, hnext, hrest⟩ := Decoration.endsIn_bind.mp h
    obtain ⟨field, rfl, hfield⟩ := hadd hnext
    obtain ⟨added, hfields, hadded⟩ := ih hrest
    refine ⟨field :: added, ?_, .cons hfield hadded⟩
    rw [hfields, ClassDecl.fields_addField, List.append_assoc]
    rfl

theorem addProperties_asksOnly : (addProperties owner before).AsksOnly fun asked =>
    ∃ property ∈ owner.properties, property.2.ComesTo asked ∧ asked.className? = none := by
  refine Decoration.asksOnly_foldlM (fun property hproperty c => ?_) before
  refine Decoration.asksOnly_bind ?_ fun _ => trivial
  refine Decoration.asksOnly_bind ?_ fun _ => trivial
  exact fieldType_asksOnly.imp fun asked hasked => ⟨property, hproperty, hasked⟩

namespace Placed

section Standard

variable {name : String} {schema : Schema arena}
  (h : Placed (Decorator.standard settings)
    (schema.site (Decorator.standard settings) settings name) tree above c site after)

include h

/-- In a tree of standard classes, a decoration comes down to adding the properties. -/
theorem decoration_standard : ∃ before : ClassDecl, before.fields = [] ∧
    site.decoration = addProperties site.schema before := by
  cases h with
  | top => exact Decorator.allAtTop_standard schema { name } settings
  | inner => exact Decorator.allInside_standard _ { name := _ } settings _

/-- The fields of a standard class are those of the properties of its schema, each as the
property says. -/
theorem fields_follow {R : String × Schema arena → ClassField → Prop}
    (hadd : ∀ {before result property},
      (addProperty site.schema before property).EndsIn c.answers result →
      ∃ field, result = before.addField field ∧ R property field) :
    List.Forall₂ R site.schema.properties c.decl.fields := by
  obtain ⟨before, hnone, hdecoration⟩ := h.decoration_standard
  have hends := Nesting.run_endsIn h.grown.run h.grown.noStranger
  rw [hdecoration, ← h.grown.answers] at hends
  obtain ⟨added, hfields, hadded⟩ := fields_foldlM hadd hends
  rw [hnone, List.nil_append] at hfields
  rw [ClassTree.decl_eq, ClassDecl.fields_addInner, hfields]
  exact hadded

/-- In particular, each has the type of its property. -/
theorem fields_standard :
    List.Forall₂ (Types c.answers site.schema) site.schema.properties c.decl.fields :=
  h.fields_follow endsIn_addProperty

/-- Only objects without a class name that a property comes to become classes inside a standard
class. -/
theorem named_standard : ∀ named ∈ after.named, ∃ property ∈ site.schema.properties,
    property.2.ComesTo named ∧ named.className? = none := by
  obtain ⟨before, -, hdecoration⟩ := h.decoration_standard
  refine Nesting.run_asksOnly h.grown.run (hdecoration ▸ addProperties_asksOnly) ?_
  have hnew : site.before.named = [] := by
    cases h with
    | top => rfl
    | inner => rfl
  rw [hnew]
  exact fun _ hmem => absurd hmem List.not_mem_nil

/-- The standard decorators start from a class that is empty and only append. -/
theorem site_appends : ∃ called, site.Appends called := by
  have happ := Decorator.standard_appendsOnly settings
  cases h with
  | top => exact ⟨name, schema.site_appends happ name⟩
  | inner => exact ⟨_, Nesting.site_appends happ _ _⟩

/-- The declarations inside are those of the classes inside. -/
theorem innerClasses_decl : c.decl.innerClasses = c.inner.map (·.decl) := by
  obtain ⟨called, happends⟩ := h.site_appends
  exact h.grown.innerClasses_decl happends

/-- Standard schema classes have no methods. -/
theorem methods_decl : c.decl.methods = [] := by
  obtain ⟨called, happends⟩ := h.site_appends
  exact h.grown.methods_decl happends

/-- Every class of a standard tree stands for an object, if the one at the top does. -/
theorem isObject_standard (hobject : schema.isObject = true) : site.schema.isObject = true := by
  cases h with
  | top => exact hobject
  | inner houter _ hentry _ =>
    have hnamed := List.mem_of_getElem? (Nesting.mem_numbered.mp hentry).2
    obtain ⟨property, -, hlast, -⟩ := houter.named_standard _ hnamed
    exact hlast.isObject

end Standard

end Placed

/-! ## Whole trees -/

/-- Every class of a complete tree is placed, below the site of the schema that the tree
was asked for. -/
theorem Arena.exists_placed {id : NodeId}
    (h : arena.classTree (Decorator.standard settings) settings id = .ok tree)
    (hc : tree.Descent above c) :
    ∃ (schema : Schema arena) (name : String) (site : Site arena) (left : Nesting arena),
      schema.id = id ∧ schema.className? = some name ∧ tree.decl.name = name ∧
      tree.schema = id ∧
      Placed (Decorator.standard settings)
        (schema.site (Decorator.standard settings) settings name) tree above c site left := by
  obtain ⟨schema, name, after, hget, hname, hgrown⟩ := Arena.exists_grown h
  obtain ⟨site, left, hplaced⟩ := Placed.exists_of_descent hgrown hc
  have hid := Arena.get?_eq_some.mp hget
  have hcalled : tree.decl.name = name :=
    hgrown.name_decl (schema.site_appends (Decorator.standard_appendsOnly settings) name)
  exact ⟨schema, name, site, left, hid, hname, hcalled, hgrown.schema.trans hid, hplaced⟩

/-- The classes declared in the declaration of a complete tree are those of the tree. -/
theorem Arena.descent_decl_iff {id : NodeId} {d : ClassDecl}
    (h : arena.classTree (Decorator.standard settings) settings id = .ok tree) :
    tree.decl.Descent d ↔ ∃ above c, tree.Descent above c ∧ c.decl = d := by
  constructor
  · intro hd
    induction hd with
    | top => exact ⟨[], tree, .top, rfl⟩
    | inner _ hd ih =>
      obtain ⟨above, c, hc, rfl⟩ := ih
      obtain ⟨_, _, _, _, -, -, -, -, hplaced⟩ := Arena.exists_placed h hc
      rw [hplaced.innerClasses_decl] at hd
      obtain ⟨inner, hinner, rfl⟩ := List.mem_map.mp hd
      exact ⟨c :: above, inner, .inner hc hinner, rfl⟩
  · rintro ⟨above, c, hc, rfl⟩
    induction hc with
    | top => exact .top
    | inner hc hd ih =>
      obtain ⟨_, _, _, _, -, -, -, -, hplaced⟩ := Arena.exists_placed h hc
      exact .inner ih (hplaced.innerClasses_decl ▸ List.mem_map_of_mem hd)

/-- So every one of them is placed. -/
theorem Arena.exists_placed_decl {id : NodeId} {d : ClassDecl}
    (h : arena.classTree (Decorator.standard settings) settings id = .ok tree)
    (hd : tree.decl.Descent d) :
    ∃ (schema : Schema arena) (name : String) (above : List ClassTree) (c : ClassTree)
      (site : Site arena) (left : Nesting arena),
      Placed (Decorator.standard settings)
        (schema.site (Decorator.standard settings) settings name) tree above c site left ∧
      c.decl = d := by
  obtain ⟨above, c, hc, hdecl⟩ := (Arena.descent_decl_iff h).mp hd
  obtain ⟨schema, name, site, left, -, -, -, -, hplaced⟩ := Arena.exists_placed h hc
  exact ⟨schema, name, above, c, site, left, hplaced, hdecl⟩

/-- The fields of every class of a complete tree are those of the properties of its
schema, and its answers are declared around what is inside it. -/
theorem Arena.fields_of_descent {id : NodeId}
    (h : arena.classTree (Decorator.standard settings) settings id = .ok tree)
    (hc : tree.Descent above c) :
    ∃ schema : Schema arena, schema.id = c.schema ∧
      List.Forall₂ (Types c.answers schema) schema.properties c.decl.fields ∧
      ∀ entry ∈ c.answers, tree.Declares (c :: above) entry := by
  obtain ⟨schema, name, site, left, hid, -, hname, htop, hplaced⟩ := Arena.exists_placed h hc
  refine ⟨site.schema, hplaced.grown.schema.symm, hplaced.fields_standard, ?_⟩
  refine hplaced.answers_declared (Decorator.standard_appendsOnly settings)
    (schema.site_tidy name) ?_
  intro entry hentry
  obtain rfl := List.mem_singleton.mp hentry
  exact .inl ⟨hid.trans htop.symm, hname.symm⟩

end ApiClasses
