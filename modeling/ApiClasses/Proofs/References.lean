import ApiClasses.Proofs.Answers
import ApiClasses.Proofs.Appending
import ApiClasses.Proofs.Growth

/-!
# References find their declarations

The name a decorator is given for a schema is a promise: the class of that name is
declared later, possibly several levels further up. What the decorators were given is
on record, and it is all they were given: from the record alone they make the class that
stands in the tree (`Grown.replays`).

The invariant that carries the promise down the tree is about the names from outside:
each of them is the name of the class at the top or of a class declared directly inside
one of the classes around (`outerInside_declared`). Every answer is one of the names that
the classes inside are going to see from outside (`Nesting.Tidy.answered`), so the promise
is kept for all answers at once (`classTree_answers_declared`).
-/

namespace ApiClasses

variable {arena : Arena}

namespace ClassTree

/-- The name stands for the schema in the tree, seen from inside some of its
classes: either both are those of the class at the top, or they are those of a
class that is declared directly inside one of the given ones. -/
def Declares (tree : ClassTree) (around : List ClassTree) (entry : NodeId × String) : Prop :=
  (entry.1 = tree.schema ∧ entry.2 = tree.decl.name) ∨
    ∃ outer ∈ around, ∃ d ∈ outer.inner,
      d.schema = entry.1 ∧ d.decl.name = entry.2 ∧ d.decl ∈ outer.decl.innerClasses

theorem Declares.cons {tree c : ClassTree} {around : List ClassTree} {entry : NodeId × String}
    (h : tree.Declares around entry) : tree.Declares (c :: around) entry := by
  rcases h with htop | ⟨outer, houter, hdeclared⟩
  · exact .inl htop
  · exact .inr ⟨outer, List.mem_cons_of_mem c houter, hdeclared⟩

theorem name_decl (tree : ClassTree) : tree.decl.name = tree.decorated.name := by
  rw [decl_eq]
  rfl

/-- What is inside the tree is declared inside the class. -/
theorem decl_mem_innerClasses {tree d : ClassTree} (h : d ∈ tree.inner) :
    d.decl ∈ tree.decl.innerClasses := by
  rw [decl_eq tree, ClassDecl.innerClasses_addInner]
  exact List.mem_append_right _ (List.mem_map_of_mem h)

end ClassTree

variable {decorators : List Decorator}

/-- Whatever the answers are, the decoration appends to an empty class of the name. -/
def Site.Appends (site : Site arena) (name : String) : Prop :=
  site.decoration.Always (·.Extends { name })

theorem Schema.site_appends (happ : ∀ decorator ∈ decorators, decorator.AppendsOnly)
    {settings : Settings} (schema : Schema arena) (name : String) :
    (schema.site decorators settings name).Appends name :=
  Decorator.allAtTop_extends happ schema { name }

theorem Nesting.site_appends (happ : ∀ decorator ∈ decorators, decorator.AppendsOnly)
    (nesting : Nesting arena) (entry : Schema arena × Nat) :
    (nesting.site decorators entry).Appends (nesting.nestedName entry.2) :=
  Decorator.allInside_extends happ _ entry.1 { name := _ }

namespace Grown

variable {site : Site arena} {after : Nesting arena} {tree : ClassTree} {name : String}

/-- The class keeps the name it starts with… -/
theorem name_decl (h : Grown decorators site after tree) (happends : site.Appends name) :
    tree.decl.name = name := by
  rw [ClassTree.name_decl, (Nesting.run_always happends h.run).name]

/-- …and what is declared inside it are the classes inside. -/
theorem innerClasses_decl (h : Grown decorators site after tree) (happends : site.Appends name) :
    tree.decl.innerClasses = tree.inner.map (·.decl) := by
  rw [ClassTree.decl_eq, ClassDecl.innerClasses_addInner,
    (Nesting.run_always happends h.run).innerClasses_eq]
  rfl

/-- It has no methods. -/
theorem methods_decl (h : Grown decorators site after tree) (happends : site.Appends name) :
    tree.decl.methods = [] := by
  rw [ClassTree.decl_eq, ClassDecl.methods_addInner,
    (Nesting.run_always happends h.run).methods_eq]
  rfl

end Grown

/-- A class inside has the name it was given with its number. -/
theorem Grown.name_inside (happ : ∀ decorator ∈ decorators, decorator.AppendsOnly)
    {nesting after : Nesting arena} {entry : Schema arena × Nat} {d : ClassTree}
    (h : Grown decorators (nesting.site decorators entry) after d) :
    d.decl.name = nesting.nestedName entry.2 :=
  h.name_decl (nesting.site_appends happ entry)

/-- The classes inside stand for the numbered schemas, in order, each under the name of its
number. -/
theorem Grows.numbered (happ : ∀ decorator ∈ decorators, decorator.AppendsOnly)
    {nesting : Nesting arena} {trees : List ClassTree}
    (h : Grows decorators (nesting.sites decorators) (.ok trees)) :
    List.Forall₂ (fun entry tree => tree.schema = entry.1.id ∧
      tree.decl.name = nesting.nestedName entry.2) nesting.numbered trees := by
  have hgrown := h.forall₂
  rw [Nesting.sites, List.forall₂_map_left_iff] at hgrown
  refine hgrown.imp fun entry tree hentry => ?_
  obtain ⟨last, hlast⟩ := hentry
  exact ⟨hlast.schema, hlast.name_inside happ⟩

/-- If the names from outside are declared around a class, then the names that the
classes inside it see are declared around them. -/
theorem outerInside_declared (happ : ∀ decorator ∈ decorators, decorator.AppendsOnly)
    {site : Site arena} {after : Nesting arena} {tree c : ClassTree} {above : List ClassTree}
    (h : Grown decorators site after c)
    (houter : ∀ entry ∈ site.before.outer, tree.Declares above entry) :
    ∀ entry ∈ after.outerInside, tree.Declares (c :: above) entry := by
  rintro ⟨id, name⟩ hentry
  rcases Nesting.mem_outerInside.mp hentry with ⟨schema, number, hnum, rfl, rfl⟩ | hmem
  · -- named here, so it has become a class inside
    obtain ⟨d, hd, last, hlast⟩ := h.exists_of_mem_numbered hnum
    exact .inr ⟨c, List.mem_cons_self, d, hd, hlast.schema, hlast.name_inside happ,
      ClassTree.decl_mem_innerClasses hd⟩
  · rw [(Nesting.run_later h.run).outer] at hmem
    exact (houter _ hmem).cons

/-! ## Answers -/

/-- The work of the decorators on the class of a schema inside the given classes: all of them
work on a class at the top, and further in those that know how. -/
def Decorator.allOn (decorators : List Decorator) (above : List ClassTree)
    (schema : Schema arena) (name : String) : Decoration arena ClassDecl :=
  match above with
  | [] => allAtTop decorators schema { name }
  | _ :: _ => allInside decorators name schema { name }

/-- The decorators are about to work on the class of that name, and nothing was asked for. -/
structure Site.Starts (decorators : List Decorator) (above : List ClassTree) (site : Site arena)
    (name : String) : Prop where
  /-- their work is that on a class of the schema -/
  decoration : site.decoration = Decorator.allOn decorators above site.schema name
  /-- there is no answer yet -/
  answers : site.before.answers = []

/-- From the answers on record alone, the decorators make the same class. -/
theorem Grown.replays {site : Site arena} {after : Nesting arena} {c : ClassTree}
    (h : Grown decorators site after c) (hanswers : site.before.answers = []) :
    site.decoration.Replays c.answers c.decorated := by
  obtain ⟨given, hrecord, hreplays⟩ := Nesting.run_replays h.run h.noStranger
  rw [hanswers, List.nil_append] at hrecord
  rwa [h.answers, hrecord]

/-- On the way down, everything a class sees from outside is declared around it. -/
theorem Grown.declared_of_descent (happ : ∀ decorator ∈ decorators, decorator.AppendsOnly)
    {site : Site arena} {after : Nesting arena} {tree c : ClassTree} {above : List ClassTree}
    (h : Grown decorators site after tree) (ht : site.before.Tidy)
    (hstarts : site.Starts decorators [] tree.decl.name)
    (houter : ∀ entry ∈ site.before.outer, tree.Declares [] entry) (hc : tree.Descent above c) :
    ∃ (last : Site arena) (left : Nesting arena), Grown decorators last left c ∧ left.Tidy ∧
      last.Starts decorators above c.decl.name ∧
      ∀ entry ∈ last.before.outer, tree.Declares above entry := by
  induction hc with
  | top => exact ⟨site, after, h, ht.run h.run, hstarts, houter⟩
  | inner _ hd ih =>
    obtain ⟨_, _, hgrown, -, -, hseen⟩ := ih
    obtain ⟨entry, -, last, hlast⟩ := hgrown.exists_of_mem_inner hd
    refine ⟨_, last, hlast, (Nesting.Tidy.of_untouched rfl rfl rfl).run hlast.run, ?_,
      outerInside_declared happ hgrown hseen⟩
    rw [hlast.name_inside happ]
    exact ⟨rfl, rfl⟩

/-- **No answer is left without its declaration.** In a complete tree no decorator
has asked for a schema of another arena. The decorators of a class have asked for exactly the
schemas on record, and were given the names beside them: answered in this way they make the
class out of nothing. Every such name is the name of the class at the top, if the schema is the
one at the top, or else the name of a class that stands for exactly this schema and is
declared directly inside the class under decoration or one of the classes around
it. -/
theorem classTree_answers_declared {settings : Settings} {id : NodeId} {tree c : ClassTree}
    {above : List ClassTree} (happ : ∀ decorator ∈ decorators, decorator.AppendsOnly)
    (h : arena.classTree decorators settings id = .ok tree) (hc : tree.Descent above c) :
    tree.schema = id ∧ c.strangers = [] ∧
      (∃ schema : Schema arena, schema.id = c.schema ∧
        (Decorator.allOn decorators above schema c.decl.name).Replays c.answers c.decorated) ∧
      ∀ entry ∈ c.answers, tree.Declares (c :: above) entry := by
  obtain ⟨schema, name, after, hget, -, hgrown⟩ := Arena.exists_grown h
  have hid : schema.id = id := Arena.get?_eq_some.mp hget
  have hname : tree.decl.name = name := by
    have hextends := Nesting.run_always (Decorator.allAtTop_extends happ ..) hgrown.run
    rw [ClassTree.name_decl, hextends.name]
  have houter : ∀ entry ∈ (schema.site decorators settings name).before.outer,
      tree.Declares [] entry := by
    intro entry hentry
    obtain rfl := List.mem_singleton.mp hentry
    exact .inl ⟨hgrown.schema.symm, hname.symm⟩
  have hstarts : (schema.site decorators settings name).Starts decorators [] tree.decl.name :=
    hname ▸ ⟨rfl, rfl⟩
  obtain ⟨last, left, hlast, htidy, hwork, hseen⟩ :=
    hgrown.declared_of_descent happ (schema.site_tidy name) hstarts houter hc
  refine ⟨hgrown.schema.trans hid, hlast.strangers.trans hlast.noStranger, ?_, ?_⟩
  · exact ⟨last.schema, hlast.schema.symm, hwork.decoration ▸ hlast.replays hwork.answers⟩
  · intro entry hentry
    rw [hlast.answers] at hentry
    exact outerInside_declared happ hlast hseen entry (htidy.answered entry hentry)

/-- The innermost class of the ring refers back to the class around it. -/
theorem ring_answer_declared :
    ∃ tree above c, Arena.ring.classTree (Decorator.standard {}) {} ⟨0⟩ = .ok tree ∧
      tree.Descent above c ∧ c.answers = [(⟨1⟩, "NestedClass1")] ∧
      (∃ schema : Schema Arena.ring, schema.id = c.schema ∧
        (Decorator.allOn (Decorator.standard {}) above schema c.decl.name).Replays
          c.answers c.decorated) ∧
      ∀ entry ∈ c.answers, tree.Declares (c :: above) entry :=
  ⟨_, _, _, rfl, .inner (.inner .top (.head _)) (.head _), rfl,
    (@classTree_answers_declared Arena.ring (Decorator.standard {}) {} ⟨0⟩ _ _ _
      (Decorator.standard_appendsOnly {}) rfl (.inner (.inner .top (.head _)) (.head _))).2.2⟩

end ApiClasses
