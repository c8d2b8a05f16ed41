import ApiClasses.Proofs.Completion
import ApiClasses.Proofs.Renaming
import ApiClasses.Proofs.Responses

/-!
# Opening containers

The type of a schema is found by opening one container after another, and those that are open
are kept on a stack. The count of layers only keeps this structural: without it, every
container that is pushed leaves fewer schemas that are not on the stack, so the recursion
ends by itself (`fieldTypeOn`). Both give the same type, and the stack is left as it was found
(`fieldTypeOn_eq`).

How a type comes about is said by one judgment (`TypedAs`), from which the rest follows by
induction. No more containers are in one another than there are schemas left, but for the one
that is cut off (`TypedAs.containers_le`). And the type of any value is in it just where a
container comes up again, or where nothing is said at the end of the way down
(`TypedAs.untyped_mem_names`, `TypedAs.cause_of_untyped`).
-/

namespace ApiClasses

open Relation (ReflTransGen TransGen)

variable {arena : Arena} {schema content last : Schema arena} {path : List NodeId}
  {answers : List (NodeId × String)} {type : TypeRef} {layers : Nat}

/-! ## Schemas that are left -/

namespace Arena

/-- The schemas that are not on the path. -/
def off (arena : Arena) (path : List NodeId) : List NodeId := arena.ids.filter (· ∉ path)

/-- How many schemas are not on the path. -/
def left (arena : Arena) (path : List NodeId) : Nat := (arena.off path).length

theorem mem_ids {id : NodeId} : id ∈ arena.ids ↔ id.index < arena.size := by
  rw [ids, List.mem_map]
  constructor
  · rintro ⟨i, hi, rfl⟩
    exact List.mem_range.mp hi
  · exact fun hin => ⟨id.index, List.mem_range.mpr hin, rfl⟩

theorem nodup_ids : arena.ids.Nodup :=
  List.nodup_range.map fun _ _ h => congrArg NodeId.index h

theorem left_le_size (arena : Arena) (path : List NodeId) : arena.left path ≤ arena.size := by
  have hall : arena.ids.length = arena.size := by
    rw [ids, List.length_map, List.length_range]
  exact hall ▸ List.length_filter_le ..

/-- A schema that is pushed is not left any more. -/
theorem left_push (hnew : schema.id ∉ path) :
    arena.left (schema.id :: path) + 1 = arena.left path := by
  have hmem : schema.id ∈ arena.off path :=
    List.mem_filter.mpr ⟨mem_ids.mpr schema.inside, decide_eq_true hnew⟩
  have herase : (arena.off path).erase schema.id = arena.off (schema.id :: path) := by
    have hdistinct : (arena.off path).Nodup := nodup_ids.filter _
    rw [hdistinct.erase_eq_filter, off, off, List.filter_filter]
    refine List.filter_congr fun id _ => ?_
    rw [Bool.eq_iff_iff]
    simp
  rw [left, ← herase, List.length_erase_of_mem hmem]
  exact Nat.sub_add_cancel (List.length_pos_of_mem hmem)

end Arena

/-! ## The stack of open containers -/

mutual

/-- The type of a schema, and the stack as it is left. -/
def fieldTypeOn (path : List NodeId) (schema : Schema arena) :
    Decoration arena (TypeRef × List NodeId) :=
  match schema.shape with
  | .any => pure (.untyped, path)
  | .boolean => pure (⟨"bool", []⟩, path)
  | .integer => pure (⟨"i64", []⟩, path)
  | .number => pure (⟨"f64", []⟩, path)
  | .string => pure (⟨"String", []⟩, path)
  | .array _ =>
    match schema.items with
    | some item => Prod.map .list id <$> contentTypeOn path schema item
    | none => pure (.list .untyped, path)
  | .object properties _ =>
    match schema.className? with
    | some name => pure (⟨name, []⟩, path)
    | none =>
      match schema.additional with
      | some value =>
        if properties.isEmpty then Prod.map .map id <$> contentTypeOn path schema value
        else (·, path) <$> Decoration.classOf schema
      | none => (·, path) <$> Decoration.classOf schema
  termination_by (arena.left path, 1)

/-- The type of what a container holds. The container is pushed, and popped when the type is
found; one that is on the stack already is not opened again. -/
def contentTypeOn (path : List NodeId) (schema content : Schema arena) :
    Decoration arena (TypeRef × List NodeId) :=
  if schema.id ∈ path then pure (.untyped, path)
  else Prod.map id List.tail <$> fieldTypeOn (schema.id :: path) content
  termination_by (arena.left path, 0)
  decreasing_by
    rename_i hnew
    have hless := Arena.left_push hnew
    exact Prod.Lex.left _ _ (by omega)

end

/-- A container that is open already is not opened again; any other one is, and then as many
layers are left as there are schemas. -/
theorem contentType_of_left (content : Schema arena) (hfit : arena.left path ≤ layers)
    (hnew : schema.id ∉ path) :
    ∃ fewer, layers = fewer + 1 ∧ arena.left (schema.id :: path) ≤ fewer ∧
      contentType layers path schema content = fieldType fewer (schema.id :: path) content := by
  have hless := Arena.left_push hnew
  obtain ⟨fewer, rfl⟩ : ∃ fewer, layers = fewer + 1 :=
    Nat.exists_eq_add_one_of_ne_zero (by omega)
  refine ⟨fewer, rfl, by omega, ?_⟩
  rw [contentType, if_neg (by simpa using hnew)]

/-- What is found below a container is found with the stack, if this holds for the content. -/
theorem contentTypeOn_of_content (hfit : arena.left path ≤ layers)
    (hdown : ∀ fewer < layers, arena.left (schema.id :: path) ≤ fewer →
      fieldTypeOn (schema.id :: path) content =
        (·, schema.id :: path) <$> fieldType fewer (schema.id :: path) content) :
    contentTypeOn path schema content = (·, path) <$> contentType layers path schema content := by
  rw [contentTypeOn]
  by_cases hopen : schema.id ∈ path
  · rw [if_pos hopen, contentType_of_mem hopen]
    rfl
  · obtain ⟨fewer, rfl, hleft, hcontent⟩ := contentType_of_left content hfit hopen
    rw [if_neg hopen, hcontent, hdown fewer (Nat.lt_succ_self fewer) hleft, Functor.map_map]
    rfl

/-- With as many layers as there are schemas left, the count of layers finds the type that
the stack finds, and the stack is left as it was. -/
theorem fieldTypeOn_eq (hfit : arena.left path ≤ layers) :
    fieldTypeOn path schema = (·, path) <$> fieldType layers path schema := by
  induction layers using Nat.strongRecOn generalizing path schema with
  | ind layers ih =>
    -- arrays and maps differ only in what is put around the type of the content
    have hcontent (content : Schema arena) : contentTypeOn path schema content =
        (·, path) <$> contentType layers path schema content :=
      contentTypeOn_of_content hfit fun fewer hfewer hleft => ih fewer hfewer hleft
    rw [fieldTypeOn, fieldType_eq]
    cases schema.shape with
    | any | boolean | integer | number | string => rfl
    | array items =>
      dsimp only
      cases schema.items with
      | none => rfl
      | some item =>
        dsimp only
        rw [hcontent, Functor.map_map, Functor.map_map]
        rfl
    | object properties additional =>
      dsimp only
      cases schema.className? with
      | some name => rfl
      | none =>
        dsimp only
        cases schema.additional with
        | none => rfl
        | some value =>
          dsimp only
          split
          · rw [hcontent, Functor.map_map, Functor.map_map]
            rfl
          · rfl

/-! ## What a type is made of -/

namespace TypeRef

mutual

/-- How many containers are in one another. -/
def containers : TypeRef → Nat
  | ⟨base, arguments⟩ =>
    containersOfAll arguments + if base ∈ ["Vec", "HashMap"] ∧ arguments ≠ [] then 1 else 0

/-- The most containers that are in one another in some types. -/
def containersOfAll : List TypeRef → Nat
  | [] => 0
  | type :: rest => max type.containers (containersOfAll rest)

end

/-- A built-in type is one container more at most… -/
theorem containers_wrapper_le {wrap : TypeRef → TypeRef} (h : wrap ∈ wrappers) (type : TypeRef) :
    (wrap type).containers ≤ type.containers + 1 := by
  simp only [wrappers, List.mem_cons, List.not_mem_nil, or_false] at h
  rcases h with rfl | rfl | rfl <;> simp [list, map, boxed, containers, containersOfAll]

/-- …and is not itself the type of any value. -/
theorem untyped_mem_names_wrapper {wrap : TypeRef → TypeRef} (h : wrap ∈ wrappers)
    {type : TypeRef} : untyped.base ∈ (wrap type).names ↔ untyped.base ∈ type.names := by
  simp only [wrappers, List.mem_cons, List.not_mem_nil, or_false] at h
  rcases h with rfl | rfl | rfl <;> simp [list, map, boxed, names, namesOfAll, untyped]

end TypeRef

namespace Schema

/-- Nothing is said about the values: any will do, or it is an array whose items are missing. -/
def SaysNothing (schema : Schema arena) : Prop :=
  schema.shape = .any ∨ schema.items = none ∧ ∃ items, schema.shape = .array items

/-- A plain schema, which is neither a container nor an object, and its type. -/
structure PlainType (schema : Schema arena) (type : TypeRef) : Prop where
  /-- no class stands for it -/
  plain : schema.isObject = false
  /-- there is nothing to open -/
  content : schema.content? = none
  /-- an array may be left -/
  containers : type.containers ≤ 1
  /-- it is typed as far as something is said about it -/
  untyped : TypeRef.untyped.base ∈ type.names ↔ schema.SaysNothing

end Schema

theorem exists_plainType (hplain : schema.isObject = false) (hcontent : schema.content? = none) :
    ∃ type, schema.PlainType type ∧ fieldType layers path schema = pure type := by
  rw [fieldType_eq]
  have hitems (items : Option NodeId) (hshape : schema.shape = .array items) :
      schema.items = none := by
    simpa only [Schema.content?, hshape] using hcontent
  cases hshape : schema.shape with
  | any =>
    exact ⟨.untyped, ⟨hplain, hcontent, by decide, iff_of_true (by decide) (.inl hshape)⟩, rfl⟩
  | array items =>
    refine ⟨.list .untyped, ⟨hplain, hcontent, by decide, ?_⟩, by simp only [hitems items hshape]⟩
    exact iff_of_true (by decide) (.inr ⟨hitems items hshape, items, hshape⟩)
  | object properties additional =>
    rw [Schema.isObject, hshape] at hplain
    cases hplain
  | boolean | integer | number | string =>
    refine ⟨_, ⟨hplain, hcontent, by decide, iff_of_false (by decide) ?_⟩, rfl⟩
    simp [Schema.SaysNothing, hshape]

/-- How the type of a schema comes about inside the containers on the path. -/
inductive TypedAs (answers : List (NodeId × String)) :
    List NodeId → Schema arena → TypeRef → Prop where
  /-- a container that is on the path already holds anything -/
  | cut {path : List NodeId} {schema content : Schema arena} {wrap : TypeRef → TypeRef} :
    schema.content? = some content → wrap ∈ TypeRef.wrappers → schema.id ∈ path →
    TypedAs answers path schema (wrap .untyped)
  /-- any other container is opened -/
  | opened {path : List NodeId} {schema content : Schema arena} {wrap : TypeRef → TypeRef}
    {type : TypeRef} : schema.content? = some content → wrap ∈ TypeRef.wrappers →
    schema.id ∉ path → TypedAs answers (schema.id :: path) content type →
    TypedAs answers path schema (wrap type)
  /-- a class stands for the object -/
  | called {path : List NodeId} {schema : Schema arena} {name : String} : schema.HasClass →
    schema.CalledAs answers name → TypedAs answers path schema ⟨name, []⟩
  /-- the type is built-in -/
  | plain {path : List NodeId} {schema : Schema arena} {type : TypeRef} : schema.PlainType type →
    TypedAs answers path schema type

/-- Every type comes about in one of these ways. -/
theorem typedAs_of_endsIn (hfit : arena.left path ≤ layers)
    (h : (fieldType layers path schema).EndsIn answers type) :
    TypedAs answers path schema type := by
  induction layers using Nat.strongRecOn generalizing path schema type with
  | ind layers ih =>
    rcases schema.kinds with ⟨content, hcontent⟩ | hclass | ⟨hplain, hcontent⟩
    · obtain ⟨wrap, hwrap, htype⟩ := fieldType_of_content hcontent
      rw [htype] at h
      obtain ⟨inner, hinner, rfl⟩ := Decoration.endsIn_map.mp h
      by_cases hopen : schema.id ∈ path
      · rw [contentType_of_mem hopen] at hinner
        obtain rfl : .untyped = inner := hinner
        exact .cut hcontent hwrap hopen
      · obtain ⟨fewer, rfl, hleft, hheld⟩ := contentType_of_left content hfit hopen
        rw [hheld] at hinner
        exact .opened hcontent hwrap hopen (ih fewer (Nat.lt_succ_self fewer) hleft hinner)
    · obtain ⟨hdirect, hcalled⟩ := eq_of_fieldType hclass h
      obtain ⟨base, arguments⟩ := type
      obtain rfl : arguments = [] := hdirect
      exact .called hclass hcalled
    · obtain ⟨plain, hfacts, htype⟩ := exists_plainType hplain hcontent
      rw [htype] at h
      obtain rfl : plain = type := h
      exact .plain hfacts

/-- Every container in the type takes up a schema that is not on the path, but for the last
one, which may be cut off. -/
theorem TypedAs.containers_le (h : TypedAs answers path schema type) :
    type.containers ≤ arena.left path + 1 := by
  induction h with
  | cut _ hwrap _ =>
    have hone := TypeRef.containers_wrapper_le hwrap .untyped
    have hnone : TypeRef.untyped.containers = 0 := by decide
    omega
  | @opened path schema content wrap type _ hwrap hnew _ ih =>
    have hone := TypeRef.containers_wrapper_le hwrap type
    have hless := Arena.left_push hnew
    omega
  | called _ _ => simp [TypeRef.containers, TypeRef.containersOfAll]
  | plain hplain => exact Nat.le_trans hplain.containers (Nat.le_add_left 1 _)

/-! ## Where a type is cut off -/

namespace Schema

/-- On the way down from the schema a container comes up that is on the path, or that holds
itself. -/
def CutOff (path : List NodeId) (schema : Schema arena) : Prop :=
  ∃ container content, ReflTransGen Opens schema container ∧ Opens container content ∧
    (container.id ∈ path ∨ TransGen Opens container container)

/-- The way down from the schema ends where nothing is said about the values. -/
def EndsUnsaid (schema : Schema arena) : Prop :=
  ∃ last, ReflTransGen Opens schema last ∧ last.SaysNothing

theorem SaysNothing.isObject (h : schema.SaysNothing) : schema.isObject = false := by
  rcases h with hshape | ⟨-, items, hshape⟩ <;> rw [Schema.isObject, hshape] <;> rfl

theorem SaysNothing.content? (h : schema.SaysNothing) : schema.content? = none := by
  unfold Schema.content?
  rcases h with hshape | ⟨hitems, items, hshape⟩
  · simp only [hshape]
  · simp only [hshape, hitems]

/-- From a schema that is no container the way leads nowhere. -/
theorem eq_of_reaches (hcontent : schema.content? = none) (h : ReflTransGen Opens schema last) :
    last = schema := by
  rcases ReflTransGen.cases_head h with rfl | ⟨next, hnext, -⟩
  · rfl
  · cases hcontent.symm.trans hnext

/-- From a container the way leads on into what it holds. -/
theorem reaches_content (hcontent : schema.content? = some content)
    (h : ReflTransGen Opens schema last) : last = schema ∨ ReflTransGen Opens content last := by
  rcases ReflTransGen.cases_head h with rfl | ⟨next, hnext, hrest⟩
  · exact .inl rfl
  · obtain rfl := Option.some.inj (hcontent.symm.trans hnext)
    exact .inr hrest

theorem not_cutOff (hcontent : schema.content? = none) : ¬ schema.CutOff path := by
  rintro ⟨container, content, hdown, hopens, -⟩
  obtain rfl := eq_of_reaches hcontent hdown
  cases hcontent.symm.trans hopens

theorem endsUnsaid_iff (hcontent : schema.content? = none) :
    schema.EndsUnsaid ↔ schema.SaysNothing := by
  constructor
  · rintro ⟨last, hdown, hnothing⟩
    exact eq_of_reaches hcontent hdown ▸ hnothing
  · exact fun hnothing => ⟨schema, .refl, hnothing⟩

/-- Pushing a container moves the question to what it holds: it is cut off itself exactly if
it comes up again there. -/
theorem cutOff_push (hcontent : schema.content? = some content) (hnew : schema.id ∉ path) :
    schema.CutOff path ↔ content.CutOff (schema.id :: path) := by
  constructor
  · rintro ⟨container, held, hdown, hopens, hagain⟩
    rcases reaches_content hcontent hdown with rfl | hrest
    · -- the container itself comes up again
      obtain ⟨next, hnext, hback⟩ := TransGen.head'_iff.mp (hagain.resolve_left hnew)
      obtain rfl := Option.some.inj (hcontent.symm.trans hnext)
      exact ⟨container, held, hback, hopens, .inl List.mem_cons_self⟩
    · exact ⟨container, held, hrest, hopens, hagain.imp_left (List.mem_cons_of_mem _)⟩
  · rintro ⟨container, held, hdown, hopens, hagain⟩
    refine ⟨container, held, .head hcontent hdown, hopens, ?_⟩
    rcases hagain with hmem | hloop
    · rcases List.mem_cons.mp hmem with hid | hmem
      · obtain rfl := Schema.ext hid
        exact .inr (.head' hcontent hdown)
      · exact .inl hmem
    · exact .inr hloop

theorem endsUnsaid_push (hcontent : schema.content? = some content) :
    schema.EndsUnsaid ↔ content.EndsUnsaid := by
  constructor
  · rintro ⟨last, hdown, hnothing⟩
    rcases reaches_content hcontent hdown with rfl | hrest
    · cases hcontent.symm.trans hnothing.content?
    · exact ⟨last, hrest, hnothing⟩
  · rintro ⟨last, hdown, hnothing⟩
    exact ⟨last, .head hcontent hdown, hnothing⟩

end Schema

/-- The type of any value is in the type of a schema that is cut off or ends unsaid… -/
theorem TypedAs.untyped_mem_names (h : TypedAs answers path schema type)
    (hcause : schema.CutOff path ∨ schema.EndsUnsaid) : TypeRef.untyped.base ∈ type.names := by
  induction h with
  | cut _ hwrap _ => exact (TypeRef.untyped_mem_names_wrapper hwrap).mpr (by decide)
  | opened hcontent hwrap hnew _ ih =>
    rw [Schema.cutOff_push hcontent hnew, Schema.endsUnsaid_push hcontent] at hcause
    exact (TypeRef.untyped_mem_names_wrapper hwrap).mpr (ih hcause)
  | called hclass _ =>
    rcases hcause with hcut | hunsaid
    · exact absurd hcut (Schema.not_cutOff hclass.2)
    · have hnothing := (Schema.endsUnsaid_iff hclass.2).mp hunsaid
      cases hclass.1.symm.trans hnothing.isObject
  | plain hplain =>
    rcases hcause with hcut | hunsaid
    · exact absurd hcut (Schema.not_cutOff hplain.content)
    · exact hplain.untyped.mpr ((Schema.endsUnsaid_iff hplain.content).mp hunsaid)

/-- …and in no other one, unless the answer for the object was this type. -/
theorem TypedAs.cause_of_untyped (h : TypedAs answers path schema type)
    (huntyped : TypeRef.untyped.base ∈ type.names) :
    schema.CutOff path ∨ schema.EndsUnsaid ∨
      ∃ last, schema.ComesTo last ∧ (last.id, TypeRef.untyped.base) ∈ answers := by
  induction h with
  | cut hcontent _ hopen => exact .inl ⟨_, _, .refl, hcontent, .inl hopen⟩
  | opened hcontent hwrap hnew _ ih =>
    rw [Schema.cutOff_push hcontent hnew, Schema.endsUnsaid_push hcontent]
    refine (ih ((TypeRef.untyped_mem_names_wrapper hwrap).mp huntyped)).imp_right (.imp_right ?_)
    rintro ⟨last, hlast, hanswer⟩
    exact ⟨last, .opened hcontent hlast, hanswer⟩
  | @called path schema name hclass hcalled =>
    obtain rfl : TypeRef.untyped.base = name := List.mem_singleton.mp huntyped
    rcases hcalled with hown | ⟨-, hanswer⟩
    · -- class names hold no such signs
      obtain ⟨key, -, hkey⟩ := Option.bind_eq_some_iff.mp hown
      exact absurd hkey Identifier.forClass?_ne_untyped
    · exact .inr (.inr ⟨schema, .object hclass, hanswer⟩)
  | plain hplain =>
    exact .inr (.inl ((Schema.endsUnsaid_iff hplain.content).mpr (hplain.untyped.mp huntyped)))

/-- **Containers are cut off at cycles and nowhere else**: the recursion that keeps a stack
comes to an end, with the type of the schema and the stack as it was; it cannot fail, and
whatever the answers are, the type has at most one container more in one another than there
are schemas off the path. The type of any value is in it if a container comes up again on the
way down, or if nothing is said at its end; otherwise only if it was the answer for an
object. -/
theorem containers_cut_at_cycles (path : List NodeId) (schema : Schema arena) :
    fieldTypeOn path schema = (·, path) <$> schema.typeInside path ∧
      (∀ content, contentTypeOn path schema content =
        (·, path) <$> contentType arena.size path schema content) ∧
      (schema.typeInside path).Completes ∧
      ∀ answers type, (schema.typeInside path).EndsIn answers type →
        type.containers ≤ arena.left path + 1 ∧
        (schema.CutOff path ∨ schema.EndsUnsaid → TypeRef.untyped.base ∈ type.names) ∧
        (TypeRef.untyped.base ∈ type.names → schema.CutOff path ∨ schema.EndsUnsaid ∨
          ∃ last, schema.ComesTo last ∧ (last.id, TypeRef.untyped.base) ∈ answers) := by
  have hfit := arena.left_le_size path
  refine ⟨fieldTypeOn_eq hfit, fun content => ?_, fieldType_completes, fun answers type h => ?_⟩
  · exact contentTypeOn_of_content hfit fun fewer _ hleft => fieldTypeOn_eq hleft
  · have htyped := typedAs_of_endsIn hfit h
    exact ⟨htyped.containers_le, htyped.untyped_mem_names, htyped.cause_of_untyped⟩

/-- One array, whose items are this array. -/
def Arena.selfHolding : Arena := ⟨#[⟨none, none, .array (some ⟨0⟩)⟩]⟩

/-- It is opened once and cut off inside, so the bound on containers is met. -/
theorem selfHolding_cut_off : ∃ schema : Schema Arena.selfHolding, ∃ type,
    (schema.typeInside []).EndsIn [] type ∧ type = .list (.list .untyped) ∧
      type.containers = Arena.selfHolding.left [] + 1 ∧ schema.CutOff [] := by
  let schema : Schema Arena.selfHolding := ⟨⟨0⟩, by decide⟩
  have hends : (schema.typeInside []).EndsIn [] (.list (.list .untyped)) := rfl
  obtain ⟨-, -, -, hall⟩ := containers_cut_at_cycles [] schema
  obtain ⟨hle, -, hcause⟩ := hall [] _ hends
  refine ⟨schema, _, hends, rfl, Nat.le_antisymm hle (by decide), ?_⟩
  rcases hcause (by decide) with hcut | hunsaid | ⟨last, -, hanswer⟩
  · exact hcut
  · -- the items are there
    obtain ⟨last, hdown, hnothing⟩ := hunsaid
    have hfirst : last.id.index < 1 := last.inside
    obtain rfl : last = schema := Schema.ext (congrArg NodeId.mk (Nat.lt_one_iff.mp hfirst))
    cases hnothing.content?
  · cases hanswer

end ApiClasses
