import ApiClasses.Proofs.Chains
import ApiClasses.Proofs.Completion

/-!
# Boxed fields

A class that held itself by value would be infinitely large, so some fields are boxed. These
are exactly the ones that have to be (`boxing_exact`): the property stands for an object that is
held inline, and a chain of such properties leads from it back to the owner.

Boxing all of them is enough. A circle of inline fields would have a first one, from which the
rest of the circle leads back to its owner, so this one is boxed and the circle is none of
unboxed fields.
-/

namespace ApiClasses

open Relation (ReflTransGen TransGen)

variable {arena : Arena} {schema owner held property : Schema arena}

/-! ## Inline objects -/

namespace Schema

/-- An object that a field holds inline: it has a class name, or it declares a property, or it
says nothing about other keys. -/
def Inline (schema : Schema arena) : Prop :=
  ∃ properties additional, schema.shape = .object properties additional ∧
    ((∃ name, schema.className? = some name) ∨ properties ≠ [] ∨ additional = none)

theorem isByValue_iff : schema.isByValue = true ↔ schema.Inline := by
  rw [isByValue, Inline]
  rcases hshape : schema.shape with _ | _ | _ | _ | _ | items | ⟨properties, additional⟩
  all_goals simp [Option.isSome_iff_exists, or_assoc]

/-- A property of the owner is an object that is held inline. -/
def HoldsInline (owner held : Schema arena) : Prop :=
  (∃ key, (key, held) ∈ owner.properties) ∧ held.Inline

theorem holds_iff : owner.Holds held ↔ owner.HoldsInline held := by
  rw [Holds, byValueProperties, List.mem_filter, List.mem_map, HoldsInline, ← isByValue_iff]
  refine and_congr_left' ⟨?_, ?_⟩
  · rintro ⟨⟨key, _⟩, hmem, rfl⟩
    exact ⟨key, hmem⟩
  · rintro ⟨key, hmem⟩
    exact ⟨(key, held), hmem, rfl⟩

/-- An inline object is a class of its own, not a container around one. -/
theorem Inline.hasClass (h : schema.Inline) : schema.HasClass := by
  obtain ⟨properties, additional, hshape, hinline⟩ := h
  refine ⟨?_, ?_⟩
  · simp [isObject, hshape, Shape.isObject]
  · rw [content?, Schema.additional, hshape]
    rcases hinline with ⟨name, hname⟩ | hproperties | rfl
    · simp [hname]
    · simp [hproperties]
    · simp [Shape.additional]

/-- The field for the property would make the owner contain itself: what is held inline leads
back, by a chain of inline properties, which may be empty. -/
def LeadsBack (property owner : Schema arena) : Prop :=
  property.Inline ∧ ReflTransGen HoldsInline property owner

theorem leadsBack_iff :
    (property.isByValue && property.leadsTo owner.id) = true ↔ property.LeadsBack owner := by
  have hsame : (Holds : Schema arena → Schema arena → Prop) = HoldsInline :=
    funext fun _ => funext fun _ => propext holds_iff
  rw [Bool.and_eq_true, isByValue_iff, leadsTo_iff, hsame, LeadsBack]
  refine and_congr_right fun _ => ⟨?_, fun hpath => ⟨owner, hpath, rfl⟩⟩
  rintro ⟨last, hpath, hid⟩
  rwa [← Schema.ext hid]

end Schema

/-! ## Boxes -/

/-- A type is not what is in its box. -/
theorem TypeRef.boxed_ne (type : TypeRef) : type.boxed ≠ type := by
  intro hsame
  have hsize := congrArg sizeOf hsame
  simp only [boxed, TypeRef.mk.sizeOf_spec, List.cons.sizeOf_spec, List.nil.sizeOf_spec] at hsize
  omega

/-- Whatever the requests are answered with, the type of the field is that of the property in a
box… -/
theorem propertyType_of_leadsBack (h : property.LeadsBack owner) :
    propertyType owner property = TypeRef.boxed <$> property.type := by
  simp only [propertyType, Schema.leadsBack_iff.mpr h, if_true, map_eq_pure_bind]

/-- …or that of the property itself. -/
theorem propertyType_of_not_leadsBack (h : ¬ property.LeadsBack owner) :
    propertyType owner property = property.type := by
  have hstays : ¬ (property.isByValue && property.leadsTo owner.id) = true :=
    fun hback => h (Schema.leadsBack_iff.mp hback)
  simp only [propertyType, hstays, Bool.false_eq_true, if_false]
  exact bind_pure _

/-! ## Fields one by one -/

/-- The fields for some properties, while the requests are answered by the first nesting, which
becomes the second one. Each has the type that is made of its property at that moment, boxed
exactly if the property leads back to the owner. What is held inline is typed by one name. -/
inductive Boxes (owner : Schema arena) : Nesting arena → List (String × Schema arena) →
    List ClassField → Nesting arena → Prop where
  /-- there are no properties -/
  | nil {nesting} : Boxes owner nesting [] [] nesting
  /-- the field for the first property, and then the others -/
  | cons {before between after property rest field fields unboxed} :
    before.run property.2.type = .ok (unboxed, between) →
    (field.type = .boxed unboxed ↔ property.2.LeadsBack owner) →
    (¬ property.2.LeadsBack owner → field.type = unboxed) →
    (property.2.Inline → unboxed.arguments = []) →
    Boxes owner between rest fields after →
    Boxes owner before (property :: rest) (field :: fields) after

/-- What is held inline is typed by one name. -/
theorem arguments_of_inline {before after : Nesting arena} {type : TypeRef} (h : schema.Inline)
    (hrun : before.run schema.type = .ok (type, after)) : type.arguments = [] := by
  rw [Schema.type, Schema.typeInside] at hrun
  rcases hname : schema.className? with _ | name
  · rw [fieldType_of_nameless h.hasClass hname] at hrun
    obtain ⟨rfl, -⟩ := Prod.mk.inj (Except.ok.inj hrun)
    obtain ⟨_, hanswer, -⟩ := before.answers_request schema
    rw [hanswer]
  · rw [fieldType_of_className h.hasClass.1 hname] at hrun
    obtain ⟨rfl, -⟩ := Prod.mk.inj (Except.ok.inj hrun)
    rfl

/-- The type of a field, given the type of its property. -/
theorem run_propertyType (owner : Schema arena) {before between : Nesting arena}
    {unboxed : TypeRef} (hrun : before.run property.type = .ok (unboxed, between)) :
    ∃ type, before.run (propertyType owner property) = .ok (type, between) ∧
      (type = .boxed unboxed ↔ property.LeadsBack owner) ∧
      (¬ property.LeadsBack owner → type = unboxed) := by
  by_cases hback : property.LeadsBack owner
  · refine ⟨.boxed unboxed, ?_, iff_of_true rfl hback, fun hnot => absurd hback hnot⟩
    rw [propertyType_of_leadsBack hback, map_eq_pure_bind, Nesting.run_bind, hrun]
    rfl
  · refine ⟨unboxed, ?_, iff_of_false unboxed.boxed_ne.symm hback, fun _ => rfl⟩
    rw [propertyType_of_not_leadsBack hback, hrun]

/-- One field is added for a property. -/
theorem run_addProperty (owner : Schema arena) (before : Nesting arena) (c : ClassDecl)
    (property : String × Schema arena) :
    ∃ field between, before.run (addProperty owner c property) = .ok (c.addField field, between) ∧
      ∀ {rest fields after}, Boxes owner between rest fields after →
        Boxes owner before (property :: rest) (field :: fields) after := by
  obtain ⟨unboxed, between, hrun, -⟩ :=
    Nesting.run_completes (m := property.2.type) fieldType_completes before
  obtain ⟨type, htype, hboxed, hstays⟩ := run_propertyType owner hrun
  refine ⟨propertyField c property type, between, ?_, fun hrest => ?_⟩
  · rw [addProperty, Nesting.run_bind, htype]
    rfl
  · exact .cons hrun hboxed hstays (fun hinline => arguments_of_inline hinline hrun) hrest

/-- So the fields for some properties are boxed where they have to be. -/
theorem run_addProperties (owner : Schema arena) (properties : List (String × Schema arena))
    (before : Nesting arena) (c : ClassDecl) :
    ∃ result after, before.run (properties.foldlM (addProperty owner) c) = .ok (result, after) ∧
      ∃ added, result.fields = c.fields ++ added ∧ Boxes owner before properties added after := by
  induction properties generalizing before c with
  | nil => exact ⟨c, before, rfl, [], (List.append_nil _).symm, .nil⟩
  | cons property rest ih =>
    obtain ⟨field, between, hfirst, hboxes⟩ := run_addProperty owner before c property
    obtain ⟨result, after, hrest, added, hfields, hadded⟩ := ih between (c.addField field)
    refine ⟨result, after, ?_, field :: added, ?_, hboxes hadded⟩
    · rw [List.foldlM_cons, Nesting.run_bind, hfirst]
      exact hrest
    · rw [hfields, ClassDecl.fields_addField, List.append_assoc]
      rfl

/-! ## Circles -/

/-- The field for a property of the owner is typed by the inline object itself, as it would be
anywhere, and not by a box of it. -/
def Schema.HoldsUnboxed (owner held : Schema arena) : Prop :=
  owner.HoldsInline held ∧ ∃ (before after : Nesting arena) (type : TypeRef),
    before.run held.type = .ok (type, after) ∧
    before.run (propertyType owner held) = .ok (type, after)

/-- An unboxed field does not lead back to its owner. -/
theorem Schema.HoldsUnboxed.not_leadsBack (h : owner.HoldsUnboxed held) :
    ¬ held.LeadsBack owner := by
  obtain ⟨-, before, after, type, htype, hfield⟩ := h
  intro hback
  rw [propertyType_of_leadsBack hback, map_eq_pure_bind, Nesting.run_bind, htype] at hfield
  obtain ⟨hboxed, -⟩ := Prod.mk.inj (Except.ok.inj hfield)
  exact type.boxed_ne hboxed

/-- So no circle is made of unboxed fields. -/
theorem not_circle_of_unboxed (schema : Schema arena) :
    ¬ TransGen Schema.HoldsUnboxed schema schema := by
  intro hcircle
  obtain ⟨held, hfirst, hpath⟩ := TransGen.head'_iff.mp hcircle
  -- the first field of the circle leads back along the others
  have hback : ReflTransGen Schema.HoldsInline held schema := by
    refine hpath.lift id ?_
    intro _ _ hstep
    exact hstep.1
  exact hfirst.not_leadsBack ⟨hfirst.1.2, hback⟩

/-- **Boxes stand exactly where they have to**: whatever has been asked for before, a field is
added for each property of a schema, and it is the type of the property in a box if the property
is held inline and leads back to the schema along inline properties, and this type itself if
not. Hence no circle is made of unboxed inline fields. -/
theorem boxing_exact (arena : Arena) :
    (∀ (schema : Schema arena) (before : Nesting arena) (c : ClassDecl),
      ∃ result after, before.run (addProperties schema c) = .ok (result, after) ∧
        ∃ added, result.fields = c.fields ++ added ∧
          Boxes schema before schema.properties added after) ∧
    ∀ schema : Schema arena, ¬ TransGen Schema.HoldsUnboxed schema schema := by
  refine ⟨fun schema before c => ?_, not_circle_of_unboxed⟩
  exact run_addProperties schema schema.properties before c

/-- Two schemas that hold each other, and a list of the first one. -/
def Arena.couple : Arena :=
  ⟨#[⟨some "Husband", none, .object [⟨"wife", ⟨1⟩⟩, ⟨"friends", ⟨2⟩⟩] none⟩,
    ⟨some "Wife", none, .object [⟨"husband", ⟨0⟩⟩] none⟩,
    ⟨none, none, .array (some ⟨0⟩)⟩]⟩

/-- The list is a box of its own. -/
example : (Arena.couple.classDecl (Decorator.standard {}) {} ⟨0⟩).toOption.map
    (fun c => c.fields.map (·.type.text)) = some ["Option<Box<Wife>>", "Vec<Husband>"] := by
  decide +kernel

end ApiClasses
