import ApiClasses.Proofs.Meanings

/-!
# Names tell the way down

The classes inside a class are numbered in their order, so a declaration inside another one
is found by numbers from the top down (`ClassDecl.at?`). Its name is the stem with just these
numbers, an underscore between any two of them (`Grown.name_at`). Each level counts from one
on its own, but numbers hold no underscores, so the way down can be read off the name
whatever the stem is (`Settings.nameAt_inj`): no two classes in one tree share a name, on
one level or on different ones (`nested_names_unique`).
-/

namespace ApiClasses

variable {arena : Arena} {decorators : List Decorator} {settings : Settings}

/-! ## Ways down -/

namespace ClassDecl

/-- The declaration that some numbers lead to. Each is the place of the next declaration
among those directly inside, counted from one. -/
def at? : ClassDecl → List Nat → Option ClassDecl
  | c, [] => some c
  | _, 0 :: _ => none
  | c, (number + 1) :: rest => c.innerClasses[number]?.bind (·.at? rest)

@[simp] theorem at?_nil (c : ClassDecl) : c.at? [] = some c := rfl

@[simp] theorem at?_zero (c : ClassDecl) (rest : List Nat) : c.at? (0 :: rest) = none := rfl

@[simp] theorem at?_succ (c : ClassDecl) (number : Nat) (rest : List Nat) :
    c.at? ((number + 1) :: rest) = c.innerClasses[number]?.bind (·.at? rest) := rfl

/-- Two ways, one after the other, are one way. -/
theorem at?_append (c : ClassDecl) (path rest : List Nat) :
    c.at? (path ++ rest) = (c.at? path).bind (·.at? rest) := by
  induction path generalizing c with
  | nil => rfl
  | cons number later ih =>
    cases number with
    | zero => rfl
    | succ number =>
      rw [List.cons_append, at?_succ, at?_succ, Option.bind_assoc]
      exact congrArg _ (funext ih)

/-- Everything declared inside, at any depth, can be found. -/
theorem Descent.exists_at? {top c : ClassDecl} (h : top.Descent c) :
    ∃ path, top.at? path = some c := by
  induction h with
  | top => exact ⟨[], rfl⟩
  | inner _ hd ih =>
    obtain ⟨path, hpath⟩ := ih
    obtain ⟨i, hi⟩ := List.mem_iff_getElem?.mp hd
    refine ⟨path ++ [i + 1], ?_⟩
    rw [at?_append, hpath, Option.bind_some, at?_succ, hi]
    rfl

end ClassDecl

/-! ## Names from numbers -/

/-- The name that belongs to some numbers from the top down. -/
def Settings.nameAt (settings : Settings) (path : List Nat) : String :=
  settings.nestedStem ++ "_".intercalate (path.map toString)

/-- The numbers can be read off a name. -/
theorem Settings.nameAt_inj {path other : List Nat} (hpath : path ≠ []) (hother : other ≠ [])
    (h : settings.nameAt path = settings.nameAt other) : path = other := by
  have hnumbers : "_".intercalate (path.map toString) = "_".intercalate (other.map toString) :=
    (String.append_right_inj _).mp h
  have hread {path : List Nat} (hpath : path ≠ []) :
      ("_".intercalate (path.map toString)).toList.splitOn '_' =
        path.map fun number => (toString number).toList := by
    rw [String.toList_intercalate, List.map_map]
    refine List.splitOn_intercalate '_' (fun digits hdigits => ?_) (by simpa using hpath)
    obtain ⟨number, -, rfl⟩ := List.mem_map.mp hdigits
    exact mark_notMem_toString number
  have hdigits := (hread hpath).symm.trans
    ((congrArg (fun name => name.toList.splitOn '_') hnumbers).trans (hread hother))
  refine List.map_injective_iff.mpr (fun number number' heq => ?_) hdigits
  exact eq_of_toString_eq (String.toList_injective heq)

/-! ## Trees -/

/-- What stands inside a class has the name of its numbers, after the trail of the class. -/
theorem Grown.name_at (happ : ∀ decorator ∈ decorators, decorator.AppendsOnly)
    {site : Site arena} {after : Nesting arena} {tree : ClassTree} {name : String} {d : ClassDecl}
    {path : List Nat} (h : Grown decorators site after tree) (happends : site.Appends name)
    (hpath : path ≠ []) (hd : tree.decl.at? path = some d) :
    d.name = site.before.settings.nestedStem ++ site.before.trail ++
      "_".intercalate (path.map toString) := by
  induction path generalizing site after tree name with
  | nil => exact absurd rfl hpath
  | cons number rest ih =>
    cases number with
    | zero => cases hd
    | succ number =>
      rw [ClassDecl.at?_succ, h.innerClasses_decl happends, List.getElem?_map] at hd
      obtain ⟨_, hfound, hd⟩ := Option.bind_eq_some_iff.mp hd
      obtain ⟨next, hnext, rfl⟩ := Option.map_eq_some_iff.mp hfound
      obtain ⟨schema, -, last, hlast⟩ := h.exists_of_getElem? hnext
      have hlater := Nesting.run_later h.run
      cases rest with
      | nil =>
        obtain rfl := Option.some.inj hd
        rw [hlast.name_inside happ, hlater.nestedName]
        simp [Nesting.nestedName, Settings.nestedName]
      | cons second others =>
        -- the number goes into the trail of the next level
        have hinside := ih hlast (after.site_appends happ _) (List.cons_ne_nil _ _) hd
        rw [hinside]
        simp only [Nesting.site, Nesting.inside, hlater.settings, hlater.trail, List.map_cons,
          String.intercalate_cons_cons, String.append_assoc]

/-- **Names tell the way down**: in the class of a schema, whatever decorators that only
append do with it and whatever the stem is, everything declared inside can be found by
numbers, its name is made of exactly these numbers, and no two different ways lead to
declarations of one name. -/
theorem nested_names_unique {id : NodeId} {c : ClassDecl}
    (happ : ∀ decorator ∈ decorators, decorator.AppendsOnly)
    (h : arena.classDecl decorators settings id = .ok c) :
    (∀ d, c.Descent d → ∃ path, c.at? path = some d) ∧
      (∀ path d, path ≠ [] → c.at? path = some d → d.name = settings.nameAt path) ∧
      ∀ path other d e, path ≠ [] → other ≠ [] → c.at? path = some d → c.at? other = some e →
        d.name = e.name → path = other := by
  obtain ⟨tree, htree, rfl⟩ := Arena.classDecl_eq_ok.mp h
  obtain ⟨schema, name, after, -, -, hgrown⟩ := Arena.exists_grown htree
  have hname : ∀ path d, path ≠ [] → tree.decl.at? path = some d →
      d.name = settings.nameAt path := by
    intro path d hpath hd
    have hcalled := hgrown.name_at happ (schema.site_appends happ name) hpath hd
    simpa [Schema.site, Nesting.enclose, Settings.nameAt] using hcalled
  refine ⟨fun d hd => hd.exists_at?, hname, fun path other d e hpath hother hd he hsame => ?_⟩
  apply Settings.nameAt_inj hpath hother
  rw [← hname path d hpath hd, ← hname other e hother he, hsame]

/-- `Family` has two classes inside, with one class inside each. -/
def Arena.cousins : Arena :=
  ⟨#[⟨some "Family", none, .object [⟨"first", ⟨1⟩⟩, ⟨"second", ⟨2⟩⟩] none⟩,
    ⟨none, none, .object [⟨"child", ⟨3⟩⟩] none⟩, ⟨none, none, .object [⟨"child", ⟨4⟩⟩] none⟩,
    ⟨none, none, .object [] none⟩, ⟨none, none, .object [] none⟩]⟩

/-- A stem that ends like a name with numbers. -/
def Settings.numberedStem : Settings := { nestedStem := "N1_" }

/-- Under a stem that looks numbered itself, the numbers still tell the cousins apart. -/
theorem cousins_told_apart :
    ∃ c d e, Arena.cousins.classDecl (Decorator.standard .numberedStem) .numberedStem ⟨0⟩ = .ok c ∧
      c.at? [1, 1] = some d ∧ c.at? [2, 1] = some e ∧ d.name = "N1_1_1" ∧ e.name = "N1_2_1" ∧
        d.name ≠ e.name := by
  refine ⟨_, _, _, rfl, rfl, rfl, rfl, rfl, ?_⟩
  intro hsame
  obtain ⟨-, -, hunique⟩ := @nested_names_unique Arena.cousins
    (Decorator.standard .numberedStem) .numberedStem ⟨0⟩ _
    (Decorator.standard_appendsOnly .numberedStem) rfl
  exact absurd (hunique [1, 1] [2, 1] _ _ (by decide) (by decide) rfl rfl hsame) (by decide)

end ApiClasses
