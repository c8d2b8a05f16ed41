import ApiClasses.Proofs.WireNames

/-!
# Names of fields as identifiers

A name that the class has already gets a number, so the names of the fields are different texts
(`Given.distinct`). As identifiers they need not be: the raw marker is no part of an identifier,
but it makes a different text. So a numbered keyword with the marker goes unnoticed beside a
plain name that looks like it.

This is the only way in which two fields can clash (`Clash`). Which numbers a keyword has got
tells how often it has come up (`Given.marked`), and a plain name is never numbered into one that
looks like a keyword. So whether the identifiers are different can be told from the member names
alone (`identifiers_distinct_iff`).
-/

namespace ApiClasses

open Identifier

namespace Identifier

variable {key word name other : String} {number count : Nat}

/-! ## Numbered names -/

/-- The part after the last mark is the number, and the part before it the name. -/
theorem numbered_inj (h : numbered name number = numbered other count) :
    name = other ∧ number = count := by
  have hchars := congrArg String.toList h
  rw [toList_numbered, toList_numbered, List.append_eq_append_iff] at hchars
  have hnone {between : List Char} {n m : Nat}
      (hrest : '_' :: (toString n).toList = between ++ '_' :: (toString m).toList) :
      between = [] := by
    rcases between with _ | ⟨first, between⟩
    · rfl
    · obtain ⟨-, hdigits⟩ := List.cons.inj hrest
      have hmark : '_' ∈ (toString n).toList := by
        rw [hdigits]
        exact List.mem_append_right _ List.mem_cons_self
      exact absurd hmark (mark_notMem_toString n)
  rcases hchars with ⟨between, hname, hrest⟩ | ⟨between, hname, hrest⟩
  · obtain rfl := hnone hrest
    obtain ⟨-, hdigits⟩ := List.cons.inj hrest
    rw [List.append_nil] at hname
    exact ⟨(String.toList_inj.mp hname).symm, eq_of_toString_eq (String.toList_inj.mp hdigits)⟩
  · obtain rfl := hnone hrest
    obtain ⟨-, hdigits⟩ := List.cons.inj hrest
    rw [List.append_nil] at hname
    exact ⟨String.toList_inj.mp hname,
      (eq_of_toString_eq (String.toList_inj.mp hdigits)).symm⟩

/-- The marker stays in front. -/
theorem numbered_marked (stem : String) (number : Nat) :
    numbered (rawMarker ++ stem) number = rawMarker ++ numbered stem number := by
  simp only [numbered, String.append_assoc]

/-- No word that the language keeps has an underscore in it… -/
theorem mark_notMem_kept (hword : word ∈ keywords ++ unmarkable) : '_' ∉ word.toList := by
  have hall : ∀ word ∈ keywords ++ unmarkable, '_' ∉ word.toList := by decide +kernel
  exact hall word hword

/-- …or the sign of the marker. -/
theorem sign_notMem_kept (hword : word ∈ keywords ++ unmarkable) : '#' ∉ word.toList := by
  have hall : ∀ word ∈ keywords ++ unmarkable, '#' ∉ word.toList := by decide +kernel
  exact hall word hword

/-- A name without an underscore is not numbered. -/
theorem ne_numbered (h : '_' ∉ name.toList) : name ≠ numbered other number := by
  rintro rfl
  apply h
  rw [toList_numbered]
  exact List.mem_append_right _ List.mem_cons_self

/-- So no keyword looks like a numbered name, with the marker or without it. -/
theorem keyword_ne_numbered (hword : word ∈ keywords) : word ≠ numbered name number :=
  ne_numbered (mark_notMem_kept (List.mem_append_left _ hword))

theorem marked_keyword_ne_numbered (hword : word ∈ keywords) :
    rawMarker ++ word ≠ numbered name number := by
  apply ne_numbered
  rw [String.toList_append, toList_rawMarker, List.mem_append, not_or]
  exact ⟨by decide, mark_notMem_kept (List.mem_append_left _ hword)⟩

/-! ## Member names -/

/-- Only keywords that can carry the marker get it. -/
theorem keyword_of_forMember (h : forMember key = rawMarker ++ word) :
    word ∈ keywords ∧ word ∉ unmarkable := by
  have hsign : '#' ∈ (forMember key).toList := by
    rw [h, String.toList_append, toList_rawMarker]
    exact List.mem_append_left _ (.tail _ (.head _))
  have hsnake := notMem_sign_snake key
  have hform := escaped_forMember key
  generalize forMember key = name at h hform hsign
  cases hform with
  | blank => exact absurd hsign (by decide)
  | digit | unmarkable => exact absurd hsign (by simpa using hsnake)
  | keyword _ _ hword hkeyword =>
    obtain rfl := (String.append_right_inj _).mp h
    exact ⟨hkeyword, hword⟩
  | plain => exact absurd hsign hsnake

/-- A member name is no word that the language keeps. -/
theorem forMember_notMem_kept : forMember key ∉ keywords ++ unmarkable := by
  intro hmem
  have hmark := mark_notMem_kept hmem
  have hsign := sign_notMem_kept hmem
  have hform := escaped_forMember key
  generalize forMember key = name at hmem hmark hsign hform
  cases hform with
  | blank => exact hmark (by decide)
  | digit | unmarkable => exact hmark (by simp)
  | keyword =>
    rw [String.toList_append, toList_rawMarker] at hsign
    exact hsign (List.mem_append_left _ (.tail _ (.head _)))
  | plain _ _ hword hkeyword =>
    rcases List.mem_append.mp hmem with hmem | hmem
    · exact hkeyword hmem
    · exact hword hmem

end Identifier

/-! ## Free names -/

variable {c : ClassDecl} {base : String}

theorem declares_iff {name : String} :
    c.declares name = true ↔ name ∈ c.members.map (·.name) := by
  simp [ClassDecl.declares]

theorem numberedNames_eq (base : String) (count : Nat) :
    numberedNames base count = (List.range' 2 count).map (numbered base) := rfl

/-- A name that is free stays as it is. -/
theorem freeMemberName_of_free (h : base ∉ c.members.map (·.name)) :
    freeMemberName c base = base := by
  rw [← declares_iff] at h
  simp only [freeMemberName, h, Bool.false_eq_true, if_false]

/-- Of the candidates at least one is free: they are different, and there are more of them than
members. -/
theorem exists_free_candidate (c : ClassDecl) (base : String) :
    ∃ name ∈ numberedNames base (c.members.length + 1), name ∉ c.members.map (·.name) := by
  by_contra hnone
  have htaken : numberedNames base (c.members.length + 1) ⊆ c.members.map (·.name) := by
    intro name hname
    by_contra hfree
    exact hnone ⟨name, hname, hfree⟩
  have hdistinct : (numberedNames base (c.members.length + 1)).Nodup := by
    refine List.Nodup.map ?_ List.nodup_range'
    intro number other hsame
    exact (numbered_inj hsame).2
  have hlength := (List.subperm_of_subset hdistinct htaken).length_le
  simp only [numberedNames, List.length_map, List.length_range'] at hlength
  omega

/-- A name that is taken gets the first number that is free. -/
theorem exists_freeMemberName (h : base ∈ c.members.map (·.name)) :
    ∃ number, 2 ≤ number ∧ freeMemberName c base = numbered base number ∧
      numbered base number ∉ c.members.map (·.name) ∧
      ∀ lower, 2 ≤ lower → lower < number → numbered base lower ∈ c.members.map (·.name) := by
  obtain ⟨free, hfree, hnew⟩ := exists_free_candidate c base
  have hsome : ((numberedNames base (c.members.length + 1)).find? (!c.declares ·)).isSome := by
    refine List.find?_isSome.mpr ⟨free, hfree, ?_⟩
    rw [← declares_iff] at hnew
    simp [hnew]
  obtain ⟨name, hfind⟩ := Option.isSome_iff_exists.mp hsome
  have hname : freeMemberName c base = name := by
    simp only [freeMemberName, declares_iff.mpr h, hfind, if_true, Option.getD_some]
  rw [numberedNames_eq, List.find?_map] at hfind
  obtain ⟨number, hnumber, rfl⟩ := Option.map_eq_some_iff.mp hfind
  obtain ⟨hisfree, hmem, hlower⟩ := List.find?_range'_eq_some.mp hnumber
  refine ⟨number, (List.mem_range'_1.mp hmem).1, hname, ?_, fun lower htwo hlt => ?_⟩
  · rw [← declares_iff]
    simpa using hisfree
  · rw [← declares_iff]
    simpa using hlower lower htwo hlt

/-! ## The names of a class -/

/-- The names that the fields for properties with these keys are given, one after the other. -/
structure Given (keys names : List String) : Prop where
  /-- they are different texts -/
  distinct : names.Nodup
  /-- every member name is given -/
  given : ∀ key ∈ keys, forMember key ∈ names
  /-- and besides them, only numbered ones are -/
  made : ∀ name ∈ names, ∃ key ∈ keys, name = forMember key ∨
    ∃ number, 2 ≤ number ∧ name = numbered (forMember key) number
  /-- a keyword is given with as many numbers as it has come up -/
  marked : ∀ word ∈ keywords, ∀ number, 2 ≤ number →
    (numbered (rawMarker ++ word) number ∈ names ↔
      number ≤ (keys.map forMember).count (rawMarker ++ word))

variable {keys names : List String} {key word name : String} {number : Nat}

/-- A keyword that has come up is given as it is, and a name that is given so has come up. -/
theorem Given.marked_mem_iff (h : Given keys names) (hword : word ∈ keywords) :
    rawMarker ++ word ∈ names ↔ rawMarker ++ word ∈ keys.map forMember := by
  constructor
  · intro hmem
    obtain ⟨key, hkey, hbase | ⟨number, -, hnumbered⟩⟩ := h.made _ hmem
    · rw [hbase]
      exact List.mem_map_of_mem hkey
    · exact absurd hnumbered (marked_keyword_ne_numbered hword)
  · intro hmem
    obtain ⟨key, hkey, hbase⟩ := List.mem_map.mp hmem
    rw [← hbase]
    exact h.given key hkey

/-- The first number of a keyword that is free is the one after all that it has come up. -/
theorem Given.next_number (h : Given keys names) (hword : word ∈ keywords) (htwo : 2 ≤ number)
    (hfree : numbered (rawMarker ++ word) number ∉ names)
    (htaken : rawMarker ++ word ∈ names)
    (hlower : ∀ lower, 2 ≤ lower → lower < number →
      numbered (rawMarker ++ word) lower ∈ names) :
    number = (keys.map forMember).count (rawMarker ++ word) + 1 := by
  have hmore : ¬ number ≤ (keys.map forMember).count (rawMarker ++ word) :=
    fun hle => hfree ((h.marked word hword number htwo).mpr hle)
  have honce : 0 < (keys.map forMember).count (rawMarker ++ word) :=
    List.count_pos_iff.mpr ((h.marked_mem_iff hword).mp htaken)
  by_cases hsecond : number = 2
  · omega
  · have hbefore := (h.marked word hword (number - 1) (by omega)).mp
      (hlower (number - 1) (by omega) (by omega))
    omega

/-- Nothing is given at first. -/
theorem Given.nil : Given [] [] where
  distinct := List.nodup_nil
  given _ hmem := absurd hmem List.not_mem_nil
  made _ hmem := absurd hmem List.not_mem_nil
  marked _ _ number htwo := by
    simp only [List.not_mem_nil, false_iff, List.map_nil, List.count_nil]
    omega

/-- With one more name, the member name of one more key is given if it is among them… -/
theorem Given.given_snoc (h : Given keys names) (hkey : forMember key ∈ names ++ [name]) :
    ∀ other ∈ keys ++ [key], forMember other ∈ names ++ [name] := by
  intro other hother
  rcases List.mem_append.mp hother with hold | hnew
  · exact List.mem_append_left _ (h.given other hold)
  · rw [List.mem_singleton.mp hnew]
    exact hkey

/-- …and all names are member names or numbered ones if the new one is. -/
theorem Given.made_snoc (h : Given keys names)
    (hname : name = forMember key ∨ ∃ number, 2 ≤ number ∧ name = numbered (forMember key) number) :
    ∀ given ∈ names ++ [name], ∃ other ∈ keys ++ [key], given = forMember other ∨
      ∃ number, 2 ≤ number ∧ given = numbered (forMember other) number := by
  intro given hgiven
  rcases List.mem_append.mp hgiven with hold | hnew
  · obtain ⟨other, hother, hmade⟩ := h.made given hold
    exact ⟨other, List.mem_append_left _ hother, hmade⟩
  · rw [List.mem_singleton.mp hnew]
    exact ⟨key, List.mem_append_right _ (List.mem_singleton_self _), hname⟩

/-- A member name that is free is given as it is… -/
theorem Given.snoc_free (h : Given keys names) (hfree : forMember key ∉ names) :
    Given (keys ++ [key]) (names ++ [forMember key]) where
  distinct := List.concat_eq_append ▸ h.distinct.concat hfree
  given := h.given_snoc (List.mem_append_right _ (List.mem_singleton_self _))
  made := h.made_snoc (.inl rfl)
  marked word hword number htwo := by
    have hother : numbered (rawMarker ++ word) number ≠ forMember key := by
      intro hsame
      rw [numbered_marked] at hsame
      exact keyword_ne_numbered (keyword_of_forMember hsame.symm).1 rfl
    have hnames : numbered (rawMarker ++ word) number ∈ names ++ [forMember key] ↔
        numbered (rawMarker ++ word) number ∈ names := by
      rw [List.mem_append, List.mem_singleton, or_iff_left hother]
    rw [hnames, h.marked word hword number htwo, List.map_append, List.count_append]
    by_cases hsame : forMember key = rawMarker ++ word
    · -- the keyword comes up for the first time
      have hnever : (keys.map forMember).count (rawMarker ++ word) = 0 := by
        rw [List.count_eq_zero, ← h.marked_mem_iff hword, ← hsame]
        exact hfree
      simp only [hnever, List.map_cons, List.map_nil, hsame, List.count_singleton_self]
      omega
    · simp only [List.map_cons, List.map_nil, List.count_singleton, beq_iff_eq, hsame, if_false,
        Nat.add_zero]

/-- …and one that is taken with the first number that is free. -/
theorem Given.snoc_numbered (h : Given keys names) (htaken : forMember key ∈ names)
    (htwo : 2 ≤ number) (hfree : numbered (forMember key) number ∉ names)
    (hlower : ∀ lower, 2 ≤ lower → lower < number → numbered (forMember key) lower ∈ names) :
    Given (keys ++ [key]) (names ++ [numbered (forMember key) number]) where
  distinct := List.concat_eq_append ▸ h.distinct.concat hfree
  given := h.given_snoc (List.mem_append_left _ htaken)
  made := h.made_snoc (.inr ⟨number, htwo, rfl⟩)
  marked word hword count hcount := by
    rw [List.mem_append, List.mem_singleton, h.marked word hword count hcount, List.map_append,
      List.count_append]
    by_cases hsame : forMember key = rawMarker ++ word
    · -- the keyword comes up once more
      rw [hsame] at htaken hfree hlower
      have hnext := h.next_number hword htwo hfree htaken hlower
      have hnumber : numbered (rawMarker ++ word) count =
          numbered (rawMarker ++ word) number ↔ count = number :=
        ⟨fun hname => (numbered_inj hname).2, fun heq => heq ▸ rfl⟩
      simp only [List.map_cons, List.map_nil, hsame, List.count_singleton_self, hnumber]
      omega
    · have hother : numbered (rawMarker ++ word) count ≠
          numbered (forMember key) number :=
        fun hname => hsame (numbered_inj hname).1.symm
      simp only [List.map_cons, List.map_nil, List.count_singleton, beq_iff_eq, hsame, if_false,
        Nat.add_zero, or_iff_left hother]

/-- So whatever the keys are, the name of the next field is given as these are. -/
theorem Given.snoc (h : Given keys (c.members.map (·.name))) (key : String) :
    Given (keys ++ [key]) (c.members.map (·.name) ++ [freeMemberName c (forMember key)]) := by
  by_cases htaken : forMember key ∈ c.members.map (·.name)
  · obtain ⟨number, htwo, hname, hfree, hlower⟩ := exists_freeMemberName htaken
    rw [hname]
    exact h.snoc_numbered htaken htwo hfree hlower
  · rw [freeMemberName_of_free htaken]
    exact h.snoc_free htaken

/-! ## Clashes -/

/-- Some key is a keyword with a number, and another key of the same keyword has got this
number. -/
def Clash (keys : List String) : Prop :=
  ∃ word ∈ keywords, ∃ number, 2 ≤ number ∧
    number ≤ (keys.map forMember).count (rawMarker ++ word) ∧
    numbered word number ∈ keys.map forMember

/-- Such a name carries the marker once at most. -/
theorem Given.exists_spells (h : Given keys names) (hname : name ∈ names) :
    ∃ stem, ¬ Marked stem ∧ Spells stem name := by
  obtain ⟨key, -, hbase | ⟨number, -, hnumbered⟩⟩ := h.made name hname
  · obtain ⟨stem, hsign, hspells⟩ := exists_spells_forMember key
    rw [hbase]
    exact ⟨stem, not_marked hsign, hspells⟩
  · obtain ⟨stem, hsign, hspells⟩ := exists_spells_forMember key
    rw [hnumbered]
    exact ⟨_, not_marked (sign_notMem_numbered hsign), hspells.numbered number⟩

/-- A name is given with the marker and without it only if there is such a clash. -/
theorem Given.clash_of_marked (h : Given keys names) {stem : String} (hplain : stem ∈ names)
    (hmarked : rawMarker ++ stem ∈ names) : Clash keys := by
  obtain ⟨other, hother, hfrom⟩ := h.made _ hplain
  obtain ⟨key, hkey, hbase | ⟨number, htwo, hnumbered⟩⟩ := h.made _ hmarked
  · -- a keyword without the marker is no name
    have hword := (keyword_of_forMember hbase.symm).1
    rcases hfrom with hsame | ⟨number, -, hsame⟩
    · exact absurd (List.mem_append_left _ (hsame ▸ hword)) forMember_notMem_kept
    · exact absurd hsame (keyword_ne_numbered hword)
  · obtain ⟨word, hsign, hspells⟩ := exists_spells_forMember key
    generalize hmember : forMember key = base at hspells hnumbered
    cases hspells with
    | plain => exact absurd ⟨stem, hnumbered.symm⟩ (not_marked (sign_notMem_numbered hsign))
    | marked =>
      have hword := (keyword_of_forMember hmember).1
      rw [numbered_marked] at hnumbered
      obtain rfl := (String.append_right_inj _).mp hnumbered
      rcases hfrom with hsame | ⟨count, -, hsame⟩
      · refine ⟨word, hword, number, htwo, ?_, hsame ▸ List.mem_map_of_mem hother⟩
        rwa [← h.marked word hword number htwo, numbered_marked]
      · exact absurd (List.mem_append_left _ ((numbered_inj hsame).1 ▸ hword)) forMember_notMem_kept

/-- The names that the fields are given stand for different identifiers, unless there is such a
clash. -/
theorem Given.unmarked_nodup_iff (h : Given keys names) :
    (names.map unmarked).Nodup ↔ ¬ Clash keys := by
  constructor
  · rintro hdistinct ⟨word, hword, number, htwo, hcount, hplain⟩
    -- the numbered keyword with the marker and the one without stand for the same
    have hmarked := (h.marked word hword number htwo).mpr hcount
    obtain ⟨key, hkey, hbase⟩ := List.mem_map.mp hplain
    have hgiven : numbered word number ∈ names := hbase ▸ h.given key hkey
    have hsign : '#' ∉ (numbered word number).toList :=
      sign_notMem_numbered (sign_notMem_kept (List.mem_append_left _ hword))
    have hsame : unmarked (numbered (rawMarker ++ word) number) =
        unmarked (numbered word number) := by
      rw [numbered_marked, unmarked_marked, unmarked_of_not_marked (not_marked hsign)]
    have hequal := List.inj_on_of_nodup_map hdistinct hmarked hgiven hsame
    rw [numbered_marked] at hequal
    exact not_marked hsign ⟨_, hequal.symm⟩
  · intro hnone
    refine h.distinct.map_on fun name hname other hother hsame => ?_
    obtain ⟨stem, hstem, hspells⟩ := h.exists_spells hname
    obtain ⟨stem', hstem', hspells'⟩ := h.exists_spells hother
    rw [hspells.unmarked_eq hstem, hspells'.unmarked_eq hstem'] at hsame
    subst hsame
    cases hspells with
    | plain =>
      cases hspells' with
      | plain => rfl
      | marked => exact absurd (h.clash_of_marked hname hother) hnone
    | marked =>
      cases hspells' with
      | plain => exact absurd (h.clash_of_marked hother hname) hnone
      | marked => rfl

/-! ## Fields one by one -/

variable {arena : Arena} {owner : Schema arena}

/-- A class whose members are fields under given names. -/
structure ClassDecl.Fielded (c : ClassDecl) (keys : List String) : Prop where
  /-- it has nothing but fields -/
  only : c.members.map (·.name) = c.fields.map (·.name)
  /-- and they have the names for these keys -/
  given : Given keys (c.members.map (·.name))

/-- A field is added under the next name. -/
theorem ClassDecl.Fielded.addField (h : c.Fielded keys) (property : String × Schema arena)
    (type : TypeRef) :
    (c.addField (propertyField c property type)).Fielded (keys ++ [property.1]) where
  only := by
    rw [fields_addField, List.map_append, ← h.only]
    exact List.map_append
  given := by
    have hnames : (c.addField (propertyField c property type)).members.map (·.name) =
        c.members.map (·.name) ++ [freeMemberName c (forMember property.1)] :=
      List.map_append
    rw [hnames]
    exact h.given.snoc property.1

/-- So the fields for some properties have the names for their keys. -/
theorem run_addProperties_fielded (owner : Schema arena)
    (properties : List (String × Schema arena)) (before : Nesting arena) (h : c.Fielded keys) :
    ∃ result after, before.run (properties.foldlM (addProperty owner) c) = .ok (result, after) ∧
      result.Fielded (keys ++ properties.map (·.1)) := by
  induction properties generalizing before c keys with
  | nil =>
    refine ⟨c, before, rfl, ?_⟩
    rw [List.map_nil, List.append_nil]
    exact h
  | cons property rest ih =>
    have hcompletes : (propertyType owner property.2).Completes :=
      Decoration.completes_bind fieldType_completes fun _ => trivial
    obtain ⟨type, between, htype, -⟩ := Nesting.run_completes hcompletes before
    obtain ⟨result, after, hrest, hfielded⟩ := ih between (h.addField property type)
    refine ⟨result, after, ?_, ?_⟩
    · rw [List.foldlM_cons, addProperty, Nesting.run_bind, Nesting.run_bind, htype]
      exact hrest
    · rw [List.append_assoc] at hfielded
      exact hfielded

/-- **Identifiers are different exactly if nothing clashes**: whatever the keys of a schema are,
its fields can be added to a class without members. They have different identifiers, unless some
key is a keyword with a number, and so many keys are this keyword. -/
theorem identifiers_distinct_iff (schema : Schema arena) (before : Nesting arena)
    (hnew : c.members = []) :
    ∃ result after, before.run (addProperties schema c) = .ok (result, after) ∧
      ((result.fields.map fun field => unmarked field.name).Nodup ↔
        ¬ Clash (schema.properties.map (·.1))) := by
  have hempty : c.Fielded [] := by
    constructor
    · simp only [ClassDecl.fields, hnew, List.map_nil, List.filterMap_nil]
    · simp only [hnew, List.map_nil, Given.nil]
  obtain ⟨result, after, hrun, hfielded⟩ :=
    run_addProperties_fielded schema schema.properties before hempty
  refine ⟨result, after, hrun, ?_⟩
  have hgiven := hfielded.given
  rw [hfielded.only, List.nil_append] at hgiven
  rw [← hgiven.unmarked_nodup_iff, List.map_map]
  rfl

/-- The keys of `Odd` do not clash, although two of them are one keyword. -/
theorem odd_identifiers_distinct : ∃ (schema : Schema Arena.odd) (before : Nesting Arena.odd)
    (c : ClassDecl), c.members = [] ∧
      ∃ result after, before.run (addProperties schema c) = .ok (result, after) ∧
        result.fields.map (·.name) = ["r#type", "r#type_2", "r_type"] ∧
        (result.fields.map fun field => unmarked field.name).Nodup ∧
        ¬ Clash (schema.properties.map (·.1)) := by
  let schema : Schema Arena.odd := ⟨⟨0⟩, by decide⟩
  let before : Nesting Arena.odd := { settings := {}, trail := "" }
  let c : ClassDecl := { name := "Odd" }
  have hnew : c.members = [] := rfl
  obtain ⟨result, after, hrun, hiff⟩ := identifiers_distinct_iff schema before hnew
  have hmade : (before.run (addProperties schema c)).toOption.map
      (fun made => made.1.fields.map (·.name)) = some ["r#type", "r#type_2", "r_type"] := by
    decide +kernel
  rw [hrun] at hmade
  have hnames : result.fields.map (·.name) = ["r#type", "r#type_2", "r_type"] :=
    Option.some.inj hmade
  have hdistinct : (result.fields.map fun field => unmarked field.name).Nodup := by
    have hsame : (result.fields.map fun field => unmarked field.name) =
        (result.fields.map (·.name)).map unmarked := by simp
    rw [hsame, hnames]
    decide
  exact ⟨schema, before, c, hnew, result, after, hrun, hnames, hdistinct, hiff.mp hdistinct⟩

/-- `Kind` has a keyword twice as a key, and the keyword with a number. -/
def Arena.kind : Arena :=
  ⟨#[⟨some "Kind", none,
      .object [⟨"type", ⟨1⟩⟩, ⟨"Type", ⟨1⟩⟩, ⟨"type_2", ⟨1⟩⟩] none⟩,
    ⟨none, none, .string⟩]⟩

/-- Two of its fields have one identifier. -/
theorem kind_identifier_twice : ∃ (schema : Schema Arena.kind) (before : Nesting Arena.kind)
    (c : ClassDecl), c.members = [] ∧
      ∃ result after, before.run (addProperties schema c) = .ok (result, after) ∧
        result.fields.map (·.name) = ["r#type", "r#type_2", "type_2"] ∧
        ¬ (result.fields.map fun field => unmarked field.name).Nodup := by
  let c : ClassDecl := { name := "Kind" }
  let before : Nesting Arena.kind := { settings := {}, trail := "" }
  refine ⟨⟨⟨0⟩, by decide⟩, before, c, rfl, _, _, rfl, ?_, ?_⟩
  · decide +kernel
  · decide +kernel

end ApiClasses
