import ApiClasses.Proofs.Completion
import ApiClasses.Proofs.SmallLetters

/-!
# Names on the wire

A field has a name in the code and one on the wire, which has to be the key of its property.
The two differ often: the name in the code is in small letters, it may carry the raw marker
or a mark in front, and it is numbered if the class has it already. A field therefore says its
name on the wire, unless that can be told from its name in the code.

What can be told is the name without the raw marker (`ClassField.Tells`). No name carries the
marker twice, because no key leaves its sign behind (`exists_spells_freeMemberName`). So
nothing is ever left out by mistake, whatever the keys are: the fields of a class tell the
keys of the properties, one by one (`wire_names_kept`).
-/

namespace ApiClasses

/-! ## The raw marker -/

namespace Identifier

/-- The name is what it stands for, with the raw marker in front or without it. -/
inductive Spells (stem : String) : String → Prop where
  /-- without the marker -/
  | plain : Spells stem stem
  /-- with it -/
  | marked : Spells stem (rawMarker ++ stem)

/-- The name carries the raw marker. -/
def Marked (name : String) : Prop := ∃ stem, name = rawMarker ++ stem

variable {stem name key : String} {number : Nat}

/-- A name with no sign of the marker in it does not carry it. -/
theorem not_marked (h : '#' ∉ stem.toList) : ¬ Marked stem := by
  rintro ⟨rest, rfl⟩
  refine h ?_
  rw [String.toList_append, toList_rawMarker]
  exact List.mem_append_left _ (.tail _ (.head _))

/-- A name stands for one thing without a marker at most. -/
theorem Spells.unique (h : Spells stem name) (h' : Spells key name) (hstem : ¬ Marked stem)
    (hkey : ¬ Marked key) : stem = key := by
  cases h with
  | plain =>
    cases h' with
    | plain => rfl
    | marked => exact absurd ⟨key, rfl⟩ hstem
  | marked =>
    generalize hname : rawMarker ++ stem = name at h'
    cases h' with
    | plain => exact absurd ⟨stem, hname.symm⟩ hkey
    | marked => exact (String.append_right_inj _).mp hname

theorem unmarked_marked (stem : String) : unmarked (rawMarker ++ stem) = stem := by
  have hchars : (rawMarker ++ stem).toList = 'r' :: '#' :: stem.toList := by
    rw [String.toList_append, toList_rawMarker]
    rfl
  rw [unmarked, hchars]
  exact String.ofList_toList

theorem unmarked_of_not_marked (h : ¬ Marked name) : unmarked name = name := by
  rw [unmarked]
  split
  · rename_i rest hchars
    refine absurd ⟨String.ofList rest, String.toList_inj.mp ?_⟩ h
    rw [hchars, String.toList_append, String.toList_ofList, toList_rawMarker]
    rfl
  · rfl

/-- Taking the marker off gives what the name stands for. -/
theorem Spells.unmarked_eq (h : Spells stem name) (hstem : ¬ Marked stem) :
    unmarked name = stem := by
  cases h with
  | plain => exact unmarked_of_not_marked hstem
  | marked => exact unmarked_marked stem

/-- What is added at the end is added to what the name stands for. -/
theorem Spells.append (h : Spells stem name) (ending : String) :
    Spells (stem ++ ending) (name ++ ending) := by
  cases h with
  | plain => exact .plain
  | marked => exact String.append_assoc ▸ .marked

/-! ## Numbered names -/

/-- A name with a number. -/
def numbered (name : String) (number : Nat) : String := name ++ "_" ++ toString number

theorem toList_numbered (name : String) (number : Nat) :
    (numbered name number).toList = name.toList ++ '_' :: (toString number).toList := by
  have hmark : "_".toList = ['_'] := by decide
  rw [numbered, String.toList_append, String.toList_append, hmark, List.append_assoc,
    List.singleton_append]

theorem sign_notMem_numbered (h : '#' ∉ stem.toList) : '#' ∉ (numbered stem number).toList := by
  have hdigits : '#' ∉ (toString number).toList :=
    fun hmem => absurd (isDigit_of_mem_toString hmem) (by decide)
  rw [toList_numbered, List.mem_append, List.mem_cons]
  simpa [h] using hdigits

/-- A number is added to what the name stands for. -/
theorem Spells.numbered (h : Spells stem name) (number : Nat) :
    Spells (numbered stem number) (numbered name number) :=
  (h.append "_").append (toString number)

/-! ## Names in the code -/

/-- Of a key, the sign of the marker is lost. -/
theorem notMem_sign_snake (key : String) : '#' ∉ (snake key).toList := by
  rw [toList_snake]
  exact notMem_snakeChars (by decide) (by decide) (by decide) (by decide)

/-- So a member name carries the marker once at most. -/
theorem exists_spells_forMember (key : String) :
    ∃ stem, '#' ∉ stem.toList ∧ Spells stem (forMember key) := by
  have hsnake := notMem_sign_snake key
  have hform := escaped_forMember key
  generalize forMember key = name at hform
  cases hform with
  | blank => exact ⟨"_", by decide, .plain⟩
  | digit | unmarkable => exact ⟨_, by simpa using hsnake, .plain⟩
  | keyword => exact ⟨_, hsnake, .marked⟩
  | plain => exact ⟨_, hsnake, .plain⟩

end Identifier

open Identifier

/-- A name that has been made free is the base or the base with a number. -/
theorem freeMemberName_eq (c : ClassDecl) (base : String) :
    freeMemberName c base = base ∨
      ∃ number, freeMemberName c base = numbered base number := by
  rw [freeMemberName]
  split
  · rcases hfind : (numberedNames base (c.members.length + 1)).find? (!c.declares ·) with _ | name
    · exact .inl rfl
    · obtain ⟨number, -, hname⟩ := List.mem_map.mp (List.mem_of_find?_eq_some hfind)
      exact .inr ⟨number, hname.symm⟩
  · exact .inl rfl

/-- The name of a field carries the marker once at most. -/
theorem exists_spells_freeMemberName (c : ClassDecl) (key : String) :
    ∃ stem, ¬ Marked stem ∧ Spells stem (freeMemberName c (forMember key)) := by
  obtain ⟨stem, hsign, hspells⟩ := exists_spells_forMember key
  rcases freeMemberName_eq c (forMember key) with hbase | ⟨number, hnumbered⟩
  · rw [hbase]
    exact ⟨stem, not_marked hsign, hspells⟩
  · rw [hnumbered]
    exact ⟨_, not_marked (sign_notMem_numbered hsign), hspells.numbered number⟩

/-! ## Names on the wire -/

/-- The name that a field has on the wire: the one it says, or else its name in the code
without the raw marker. -/
inductive ClassField.Tells (field : ClassField) : String → Prop where
  /-- the field says it -/
  | said {key} : field.wireName = some key → Tells field key
  /-- it is told by the name in the code -/
  | told {key} : field.wireName = none → ¬ Marked key → Spells key field.name → Tells field key

/-- A field that says its key, unless this is its name without the marker, tells the key and
nothing else. -/
theorem ClassField.tells_iff {field : ClassField} {stem key told : String}
    (hstem : ¬ Marked stem) (hspells : Spells stem field.name)
    (hwire : field.wireName = if unmarked field.name == key then none else some key) :
    field.Tells told ↔ told = key := by
  rw [hspells.unmarked_eq hstem] at hwire
  by_cases hsame : stem = key
  · rw [if_pos (beq_iff_eq.mpr hsame)] at hwire
    subst hsame
    constructor
    · rintro (hsaid | ⟨-, htold, hspells'⟩)
      · cases hwire.symm.trans hsaid
      · exact hspells'.unique hspells htold hstem
    · rintro rfl
      exact .told hwire hstem hspells
  · rw [if_neg (hsame ∘ beq_iff_eq.mp)] at hwire
    constructor
    · rintro (hsaid | ⟨hsilent, -, -⟩)
      · exact Option.some.inj (hsaid.symm.trans hwire)
      · cases hwire.symm.trans hsilent
    · rintro rfl
      exact .said hwire

/-- The field that is added for a property tells its key. -/
theorem tells_addProperty {arena : Arena} {owner : Schema arena} {before result : ClassDecl}
    {property : String × Schema arena} {answers : List (NodeId × String)}
    (h : (addProperty owner before property).EndsIn answers result) :
    ∃ field, result = before.addField field ∧ ∀ told, field.Tells told ↔ told = property.1 := by
  obtain ⟨type, -, hadded⟩ := Decoration.endsIn_bind.mp h
  obtain rfl := hadded
  obtain ⟨stem, hstem, hspells⟩ := exists_spells_freeMemberName before property.1
  exact ⟨_, rfl, fun told => ClassField.tells_iff hstem hspells rfl⟩

/-- The keys of the properties whose schemas are in the arena. -/
theorem Schema.map_fst_properties {arena : Arena} (schema : Schema arena) :
    schema.properties.map (·.1) =
      (schema.shape.properties.filter fun p => arena.contains p.schema).map (·.name) := by
  rw [properties]
  induction schema.shape.properties with
  | nil => rfl
  | cons p rest ih =>
    by_cases hin : p.schema.index < arena.size
    · have hget : arena.get? p.schema = some ⟨p.schema, hin⟩ := dif_pos hin
      have hcontains : arena.contains p.schema = true := decide_eq_true hin
      rw [List.filterMap_cons, hget, List.filter_cons, if_pos hcontains]
      exact congrArg (p.name :: ·) ih
    · have hget : arena.get? p.schema = none := dif_neg hin
      have hcontains : ¬ arena.contains p.schema = true := hin ∘ of_decide_eq_true
      rw [List.filterMap_cons, hget, List.filter_cons, if_neg hcontains]
      exact ih

/-- **Names on the wire are kept**: a schema with a class name has its class, and in every
class of it, at whatever depth, there is exactly one field for each property of its schema
that leads to a schema of the arena, in the order of the properties, and the field tells the
key of the property. -/
theorem wire_names_kept {arena : Arena} {schema : Schema arena} {name : String}
    (hname : schema.className? = some name) (settings : Settings) :
    ∃ tree, arena.classTree (Decorator.standard settings) settings schema.id = .ok tree ∧
      (∀ d, tree.decl.Descent d ↔ ∃ above c, tree.Descent above c ∧ c.decl = d) ∧
      ∀ above c, tree.Descent above c → ∃ s : Schema arena, s.id = c.schema ∧
        List.Forall₂ (fun key field => ∀ told, ClassField.Tells field told ↔ told = key)
          ((s.shape.properties.filter fun p => arena.contains p.schema).map (·.name))
          c.decl.fields := by
  obtain ⟨tree, htree⟩ :
      ∃ tree, arena.classTree (Decorator.standard settings) settings schema.id = .ok tree :=
    Arena.exists_classTree hname
  refine ⟨tree, htree, fun d => Arena.descent_decl_iff htree, fun above c hc => ?_⟩
  obtain ⟨top, _, site, left, -, -, -, -, hplaced⟩ := Arena.exists_placed htree hc
  refine ⟨site.schema, hplaced.grown.schema.symm, ?_⟩
  rw [← Schema.map_fst_properties, List.forall₂_map_left_iff]
  exact hplaced.fields_follow tells_addProperty

/-- `Odd` has keys that all look like a keyword, and one that leads nowhere. -/
def Arena.odd : Arena :=
  ⟨#[⟨some "Odd", none,
      .object [⟨"type", ⟨1⟩⟩, ⟨"Type", ⟨1⟩⟩, ⟨"gone", ⟨7⟩⟩, ⟨"r#type", ⟨1⟩⟩] none⟩,
    ⟨none, none, .string⟩]⟩

/-- Its fields have other names, but they tell these keys. -/
theorem odd_keys_kept : ∃ schema : Schema Arena.odd, schema.className? = some "Odd" ∧
    ∃ tree, Arena.odd.classTree (Decorator.standard {}) {} schema.id = .ok tree ∧
      tree.decl.fields.map (·.name) = ["r#type", "r#type_2", "r_type"] ∧
      List.Forall₂ (fun key field => ∀ told, ClassField.Tells field told ↔ told = key)
        ["type", "Type", "r#type"] tree.decl.fields := by
  have hname : (⟨⟨0⟩, by decide⟩ : Schema Arena.odd).className? = some "Odd" := rfl
  obtain ⟨tree, htree, -, hkept⟩ := wire_names_kept hname {}
  obtain ⟨s, hid, hfields⟩ := hkept [] tree .top
  have hmade : (Arena.odd.classTree (Decorator.standard {}) {} ⟨0⟩).toOption.map
      (fun tree => (tree.schema, tree.decl.fields.map (·.name))) =
        some (⟨0⟩, ["r#type", "r#type_2", "r_type"]) := by decide
  rw [htree] at hmade
  obtain ⟨hschema, hnames⟩ := Prod.mk.inj (Option.some.inj hmade)
  obtain rfl : s = ⟨⟨0⟩, by decide⟩ := Schema.ext (hid.trans hschema)
  exact ⟨_, hname, tree, htree, hnames, hfields⟩

end ApiClasses
