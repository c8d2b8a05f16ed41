import ApiClasses.Proofs.Placement
import Mathlib.Data.List.Count

/-!
# What a class name means

A class name is looked up from the inside out: directly inside the class where it is
used, then inside the classes around, and at the top level last (`Means`). An answer that
a decorator was given for a schema without a class name is always taken for the class
that was generated from this schema (`Placed.answer_means`).

That class is declared around the place of use, so only another class of the same name,
further in, could come in between. None does: classes inside one class are numbered, and
every level puts one more mark into the names it gives out (`marks`).
-/

namespace ApiClasses

/-! ## Looking names up -/

/-- A class together with the classes around it, innermost first. -/
structure Spot where
  /-- the class -/
  tree : ClassTree
  /-- the classes around it -/
  around : List ClassTree

/-- `Means trees around name spot` says that the name, used inside the given classes,
innermost first, means the class at the spot. -/
inductive Means (trees : List ClassTree) : List ClassTree → String → Spot → Prop where
  /-- outside of everything, a class at the top level -/
  | top {name tree} : tree ∈ trees → tree.decl.name = name → Means trees [] name ⟨tree, []⟩
  /-- first of all a class directly inside -/
  | inside {outer around name d} : d ∈ outer.inner → d.decl.name = name →
    Means trees (outer :: around) name ⟨d, outer :: around⟩
  /-- if there is none of this name, what is meant further out -/
  | outward {outer around name spot} : (∀ d ∈ outer.inner, d.decl.name ≠ name) →
    Means trees around name spot → Means trees (outer :: around) name spot

variable {arena : Arena} {decorators : List Decorator} {settings : Settings}
  {top site : Site arena} {after nesting : Nesting arena} {tree c : ClassTree}
  {trees above : List ClassTree} {name : String} {spot : Spot}

/-- The spot is a class of one of the trees. -/
def Spot.In (spot : Spot) (trees : List ClassTree) : Prop :=
  ∃ tree ∈ trees, tree.Descent spot.around spot.tree

/-- What a name means inside the classes of some tree, is a class of some tree. -/
theorem Means.spot_in (h : Means trees above name spot)
    (habove : ∀ c rest, above = c :: rest → Spot.In ⟨c, rest⟩ trees) : spot.In trees := by
  induction h with
  | top htree _ => exact ⟨_, htree, .top⟩
  | inside hd _ =>
    obtain ⟨tree, htree, hdescent⟩ := habove _ _ rfl
    exact ⟨tree, htree, .inner hdescent hd⟩
  | outward _ _ ih =>
    obtain ⟨tree, htree, hdescent⟩ := habove _ _ rfl
    apply ih
    rintro c rest rfl
    cases hdescent with
    | inner hdescent _ => exact ⟨tree, htree, hdescent⟩

/-- What stands at the top level is one of the trees, under its name. -/
theorem Means.at_top (h : Means trees above name spot) (htop : spot.around = []) :
    spot.tree ∈ trees ∧ spot.tree.decl.name = name := by
  induction h with
  | top htree hname => exact ⟨htree, hname⟩
  | inside _ _ => cases htop
  | outward _ _ ih => exact ih htop

/-- A name has a meaning inside some classes if one directly inside them, or one at the top
level, is called so. -/
theorem exists_means
    (h : (∃ tree ∈ trees, tree.decl.name = name) ∨
      ∃ outer ∈ above, ∃ d ∈ outer.inner, d.decl.name = name) :
    ∃ spot, Means trees above name spot := by
  induction above with
  | nil =>
    rcases h with ⟨tree, htree, hname⟩ | ⟨_, hmem, -⟩
    · exact ⟨_, .top htree hname⟩
    · cases hmem
  | cons outer around ih =>
    by_cases hinside : ∃ d ∈ outer.inner, d.decl.name = name
    · obtain ⟨d, hd, hname⟩ := hinside
      exact ⟨_, .inside hd hname⟩
    · have hnone : ∀ d ∈ outer.inner, d.decl.name ≠ name := fun d hd hname => hinside ⟨d, hd, hname⟩
      have hfurther : (∃ tree ∈ trees, tree.decl.name = name) ∨
          ∃ outer ∈ around, ∃ d ∈ outer.inner, d.decl.name = name := by
        refine h.imp_right fun ⟨other, hother, d, hd, hname⟩ => ?_
        rcases List.mem_cons.mp hother with rfl | hother
        · exact absurd hname (hnone d hd)
        · exact ⟨other, hother, d, hd, hname⟩
      obtain ⟨spot, hmeans⟩ := ih hfurther
      exact ⟨spot, .outward hnone hmeans⟩

/-! ## Marks in names -/

/-- The number of marks in a name. -/
def marks (name : String) : Nat := name.toList.count '_'

theorem marks_append (name other : String) : marks (name ++ other) = marks name + marks other := by
  simp [marks]

/-- Numbers are written in digits. -/
theorem isDigit_of_mem_toString {n : Nat} {c : Char} (h : c ∈ (toString n).toList) :
    c.isDigit = true := by
  have hdigits : (toString n).toList = Nat.toDigits 10 n := by
    simp
  rw [hdigits] at h
  exact Nat.isDigit_of_mem_toDigits (by decide) (by decide) h

/-- There are no marks in numbers. -/
theorem mark_notMem_toString (n : Nat) : '_' ∉ (toString n).toList := by
  intro hmem
  exact absurd (isDigit_of_mem_toString hmem) (by decide)

theorem marks_toString (n : Nat) : marks (toString n) = 0 :=
  List.count_eq_zero.mpr (mark_notMem_toString n)

/-- A number can be read back. -/
theorem eq_of_toString_eq {n m : Nat} (h : toString n = toString m) : n = m := by
  have hdigits := congrArg (fun digits => Nat.ofDigitChars 10 digits.toList 0) h
  simpa using hdigits

theorem Nesting.marks_nestedName (number : Nat) :
    marks (nesting.nestedName number) =
      marks nesting.settings.nestedStem + marks nesting.trail := by
  rw [nestedName, Settings.nestedName, marks_append, marks_append, marks_toString, Nat.add_zero]

/-- Names with different numbers are different. -/
theorem Nesting.nestedName_inj {number other : Nat}
    (h : nesting.nestedName number = nesting.nestedName other) : number = other :=
  eq_of_toString_eq ((String.append_right_inj _).mp h)

/-- The names that a class gives out have as many marks more than those of the class at
the top as there are classes around it. -/
theorem Placed.marks_nestedName (h : Placed decorators top tree above c site after)
    (number : Nat) :
    marks (after.nestedName number) = marks (top.before.nestedName 0) + above.length := by
  have hlater := Nesting.run_later h.grown.run
  rw [hlater.nestedName]
  induction h generalizing number with
  | top _ => simp only [Nesting.marks_nestedName, List.length_nil, Nat.add_zero]
  | @inner above c d site after entry last hplaced _ _ _ ih =>
    -- one more mark goes into the trail
    have houter := Nesting.run_later hplaced.grown.run
    have hstep : marks ((after.site decorators entry).before.nestedName number) =
        marks (after.nestedName number) + 1 := by
      have hmark : marks "_" = 1 := by decide
      simp only [Nesting.marks_nestedName, Nesting.site, Nesting.inside, marks_append,
        marks_toString, hmark]
      omega
    rw [hstep, houter.nestedName, ih number houter, List.length_cons, Nat.add_assoc]

/-! ## Names from the settings -/

/-- The name was put together from the settings. -/
def Settings.IsNested (settings : Settings) (name : String) : Prop :=
  ∃ trail number, name = settings.nestedName trail number

/-- What the classes inside are going to see is put together from the settings, if this
holds of what is seen from outside, apart from one schema. -/
theorem Nesting.Later.outerInside_nested {before : Nesting arena} (h : Later before after)
    {id : NodeId}
    (houter : ∀ entry ∈ before.outer, entry.1 = id ∨ before.settings.IsNested entry.2) :
    ∀ entry ∈ after.outerInside, entry.1 = id ∨ before.settings.IsNested entry.2 := by
  rintro ⟨found, name⟩ hentry
  rcases Nesting.mem_outerInside.mp hentry with ⟨schema, number, -, -, rfl⟩ | hmem
  · refine .inr ⟨after.trail, number, ?_⟩
    rw [Nesting.nestedName, h.settings]
  · exact houter _ (h.outer ▸ hmem)

/-! ## Meanings of answers -/

/-- The name has few enough marks for the classes around, and what it means inside them
stands for the schema. -/
structure Meant (trees : List ClassTree) (base : Nat) (around : List ClassTree)
    (entry : NodeId × String) : Prop where
  /-- no class further in can be called so -/
  marks : marks entry.2 < base + around.length
  /-- whatever it means is generated from the schema -/
  means : ∀ spot, Means trees around entry.2 spot → spot.tree.schema = entry.1

namespace Placed

/-- The classes directly inside have the names that go with their schemas. -/
theorem exists_of_mem_inner (happ : ∀ decorator ∈ decorators, decorator.AppendsOnly)
    (h : Placed decorators top tree above c site after) {d : ClassTree} (hd : d ∈ c.inner) :
    ∃ entry ∈ after.numbered, d.schema = entry.1.id ∧ d.decl.name = after.nestedName entry.2 := by
  obtain ⟨entry, hentry, last, hlast⟩ := h.grown.exists_of_mem_inner hd
  exact ⟨entry, hentry, hlast.schema, hlast.name_inside happ⟩

/-- If the names from outside are meant well around a class, then so are the names that
the classes inside it see. -/
theorem outerInside_meant (happ : ∀ decorator ∈ decorators, decorator.AppendsOnly)
    (h : Placed decorators top tree above c site after)
    (houter : ∀ entry ∈ site.before.outer,
      entry.1 = tree.schema ∨ Meant trees (marks (top.before.nestedName 0)) above entry) :
    ∀ entry ∈ after.outerInside,
      entry.1 = tree.schema ∨ Meant trees (marks (top.before.nestedName 0)) (c :: above) entry := by
  rintro ⟨id, name⟩ hentry
  rcases Nesting.mem_outerInside.mp hentry with ⟨schema, number, hnum, rfl, rfl⟩ | hmem
  · -- a name given out here means the class inside with its number
    refine .inr ⟨?_, fun spot hmeans => ?_⟩
    · rw [h.marks_nestedName, List.length_cons]
      omega
    · cases hmeans with
      | inside hd hname =>
        obtain ⟨⟨other, otherNumber⟩, hother, hschema, hcalled⟩ := h.exists_of_mem_inner happ hd
        obtain rfl : number = otherNumber := Nesting.nestedName_inj (hname.symm.trans hcalled)
        have hsame := (Nesting.mem_numbered.mp hother).2.symm.trans (Nesting.mem_numbered.mp hnum).2
        rw [hschema, Option.some.inj hsame]
      | outward hnone _ =>
        obtain ⟨d, hd, last, hlast⟩ := h.grown.exists_of_mem_numbered hnum
        exact absurd (hlast.name_inside happ) (hnone d hd)
  · -- a name from outside means what it did there
    rw [(Nesting.run_later h.grown.run).outer] at hmem
    rcases houter _ hmem with htop | hmeant
    · exact .inl htop
    · refine .inr ⟨Nat.lt_succ_of_lt hmeant.marks, fun spot hmeans => ?_⟩
      cases hmeans with
      | inside hd hname =>
        obtain ⟨entry, -, -, hcalled⟩ := h.exists_of_mem_inner happ hd
        have hmarks := h.marks_nestedName entry.2
        rw [← hcalled, hname] at hmarks
        exact absurd hmeant.marks (by omega)
      | outward _ hmeans => exact hmeant.means spot hmeans

/-- On the way down, what a class sees from outside is meant well around it. -/
theorem meant (happ : ∀ decorator ∈ decorators, decorator.AppendsOnly)
    (h : Placed decorators top tree above c site after)
    (htop : ∀ entry ∈ top.before.outer, entry.1 = tree.schema) :
    ∀ entry ∈ site.before.outer,
      entry.1 = tree.schema ∨ Meant trees (marks (top.before.nestedName 0)) above entry := by
  induction h with
  | top => exact fun entry hentry => .inl (htop entry hentry)
  | inner hplaced _ _ _ ih => exact outerInside_meant happ hplaced ih

/-- What an answer means in the class it was given for stands for the schema that was
asked for, unless this is the schema of the whole tree. -/
theorem answer_means (happ : ∀ decorator ∈ decorators, decorator.AppendsOnly)
    (h : Placed decorators top tree above c site after) (htidy : top.before.Tidy)
    (htop : ∀ entry ∈ top.before.outer, entry.1 = tree.schema) {entry : NodeId × String}
    (hentry : entry ∈ c.answers) (hmeans : Means trees (c :: above) entry.2 spot) :
    entry.1 = tree.schema ∨ spot.tree.schema = entry.1 := by
  rw [h.grown.answers] at hentry
  have hseen := (h.tidy htidy).answered entry hentry
  rcases h.outerInside_meant happ (h.meant happ htop) entry hseen with heq | hmeant
  · exact .inl heq
  · exact .inr (hmeant.means spot hmeans)

/-- What a class sees from outside was put together from the settings, unless it stands for
the schema of the whole tree. -/
theorem outer_nested (h : Placed decorators top tree above c site after)
    (htop : ∀ entry ∈ top.before.outer, entry.1 = tree.schema) :
    site.before.settings = top.before.settings ∧
      ∀ entry ∈ site.before.outer,
        entry.1 = tree.schema ∨ top.before.settings.IsNested entry.2 := by
  induction h with
  | top => exact ⟨rfl, fun entry hentry => .inl (htop entry hentry)⟩
  | inner hplaced _ _ _ ih =>
    obtain ⟨hsettings, houter⟩ := ih
    have hlater := Nesting.run_later hplaced.grown.run
    rw [← hsettings] at houter ⊢
    exact ⟨hlater.settings, hlater.outerInside_nested houter⟩

/-- So are the answers given to the decorators of a class. -/
theorem answer_nested (h : Placed decorators top tree above c site after)
    (htidy : top.before.Tidy) (htop : ∀ entry ∈ top.before.outer, entry.1 = tree.schema)
    {entry : NodeId × String} (hentry : entry ∈ c.answers) :
    entry.1 = tree.schema ∨ top.before.settings.IsNested entry.2 := by
  obtain ⟨hsettings, houter⟩ := h.outer_nested htop
  rw [← hsettings] at houter ⊢
  rw [h.grown.answers] at hentry
  exact (Nesting.run_later h.grown.run).outerInside_nested houter entry
    ((h.tidy htidy).answered entry hentry)

/-- A class is asked for under one name alone. -/
theorem answers_unique {schema : Schema arena} {topName : String}
    (h : Placed decorators (schema.site decorators settings topName) tree above c site after)
    {id : NodeId} {other : String} (hname : (id, name) ∈ c.answers)
    (hother : (id, other) ∈ c.answers) :
    name = other := by
  have hagreed := (h.tidy (schema.site_tidy topName)).agreed
  rw [h.grown.answers] at hname hother
  exact Option.some.inj ((hagreed _ hname).symm.trans (hagreed _ hother))

end Placed

end ApiClasses
