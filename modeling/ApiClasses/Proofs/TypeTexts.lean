import ApiClasses.Class.Source
import ApiClasses.Proofs.FieldTypes

/-!
# Texts of types

A type is written out twice: for a reader its base names stand as they are, and in the code of a
class those of inner classes stand behind the name of its module. The two differ in nothing
else, so what a class writes is the plain text of a type with other names
(`textWith_eq_text_renamed`).

In the plain text, brackets and commas show where a name ends and how the arguments are nested.
So a type can be read back from its text, as long as no name holds such a mark
(`toList_text_append_inj`).
-/

namespace ApiClasses

namespace TypeRef

variable {type other : TypeRef} {types others : List TypeRef} {rest tail : List Char}

/-! ## Types and their arguments -/

/-- What holds of a type whenever it holds of all its arguments, holds of every type. -/
theorem induction_arguments {motive : TypeRef → Prop}
    (step : ∀ base arguments, (∀ argument ∈ arguments, motive argument) → motive ⟨base, arguments⟩)
    (type : TypeRef) : motive type := by
  obtain ⟨base, arguments⟩ := type
  refine step base arguments fun argument hargument => ?_
  have hlist := List.sizeOf_lt_of_mem hargument
  exact induction_arguments step argument
termination_by sizeOf type
decreasing_by
  simp only [TypeRef.mk.sizeOf_spec]
  omega

mutual

/-- The type with other base names, at any depth. -/
def renamed (rename : String → String) : TypeRef → TypeRef
  | ⟨base, arguments⟩ => ⟨rename base, renamedAll rename arguments⟩

/-- Some types with other base names. -/
def renamedAll (rename : String → String) : List TypeRef → List TypeRef
  | [] => []
  | type :: rest => type.renamed rename :: renamedAll rename rest

end

theorem renamedAll_eq_map (rename : String → String) (types : List TypeRef) :
    renamedAll rename types = types.map (·.renamed rename) := by
  induction types with
  | nil => rfl
  | cons type rest ih => rw [renamedAll, ih, List.map_cons]

theorem namesOfAll_eq_flatMap (types : List TypeRef) : namesOfAll types = types.flatMap names := by
  induction types with
  | nil => rfl
  | cons type rest ih => rw [namesOfAll, ih, List.flatMap_cons]

/-- The names in a type are its own and those in its arguments. -/
theorem forall_mem_names {P : String → Prop} {base : String} {arguments : List TypeRef} :
    (∀ name ∈ names ⟨base, arguments⟩, P name) ↔
      P base ∧ ∀ argument ∈ arguments, ∀ name ∈ argument.names, P name := by
  rw [names, List.forall_mem_cons, namesOfAll_eq_flatMap]
  refine and_congr_right fun _ => ⟨?_, ?_⟩
  · intro h argument hargument name hname
    exact h name (List.mem_flatMap.mpr ⟨argument, hargument, hname⟩)
  · intro h name hname
    obtain ⟨argument, hargument, hname⟩ := List.mem_flatMap.mp hname
    exact h argument hargument name hname

/-! ## Joining the arguments -/

/-- Texts in angle brackets, a comma and a space between any two; nothing, if there are none. -/
def bracketed (texts : List String) : String :=
  if texts.isEmpty then "" else "<" ++ ", ".intercalate texts ++ ">"

/-- The arguments after the first, each behind its separator, are the arguments joined. -/
theorem textWith_append_textOfRest (spell : String → String) (type : TypeRef)
    (types : List TypeRef) :
    type.textWith spell ++ textOfRest spell types =
      ", ".intercalate ((type :: types).map (textWith spell)) := by
  induction types generalizing type with
  | nil =>
    rw [textOfRest, List.map_singleton, String.append_empty, String.intercalate_singleton]
  | cons next rest ih =>
    rw [textOfRest, List.map_cons, List.map_cons, String.intercalate_cons_cons,
      ← List.map_cons, ← ih next]
    simp only [String.append_assoc]

/-- A type is its base name and the texts of its arguments in brackets. -/
theorem textWith_eq (spell : String → String) (base : String) (arguments : List TypeRef) :
    textWith spell ⟨base, arguments⟩ =
      spell base ++ bracketed (arguments.map (textWith spell)) := by
  cases arguments with
  | nil => rw [textWith, List.map_nil, bracketed, List.isEmpty_nil, if_pos rfl, String.append_empty]
  | cons first rest =>
    rw [textWith, bracketed, List.map_cons, List.isEmpty_cons, if_neg Bool.false_ne_true,
      ← List.map_cons, ← textWith_append_textOfRest]
    simp only [String.append_assoc]

/-- Spelling the names of a type is writing the type with these names. -/
theorem textWith_eq_text_renamed (spell : String → String) (type : TypeRef) :
    type.textWith spell = (type.renamed spell).text := by
  induction type using induction_arguments with
  | step base arguments ih =>
    rw [renamed, renamedAll_eq_map, text, textWith_eq, textWith_eq, List.map_map]
    exact congrArg (spell base ++ bracketed ·) (List.map_congr_left ih)

/-! ## Reading a type back -/

/-- The characters that stand between the names of a type. -/
def marks : List Char := ['<', '>', ',']

/-- No name in the type holds a mark. -/
def Plain (type : TypeRef) : Prop := ∀ name ∈ type.names, ∀ c ∈ name.toList, c ∉ marks

instance : DecidablePred Plain := fun type =>
  have (name : String) : Decidable (∀ c ∈ name.toList, c ∉ marks) := List.decidableBAll _ _
  List.decidableBAll (fun name : String => ∀ c ∈ name.toList, c ∉ marks) type.names

/-- What may follow a type within the text of another one. -/
def Follows (rest : List Char) : Prop := ∀ c ∈ rest.head?, c = ',' ∨ c = '>'

theorem plain_iff {base : String} {arguments : List TypeRef} :
    Plain ⟨base, arguments⟩ ↔
      (∀ c ∈ base.toList, c ∉ marks) ∧ ∀ argument ∈ arguments, argument.Plain :=
  forall_mem_names

/-- A name without marks ends where the first mark stands. -/
theorem takeWhile_name {name after : List Char} (hname : ∀ c ∈ name, c ∉ marks)
    (hafter : ∀ c ∈ after.head?, c ∈ marks) : (name ++ after).takeWhile (· ∉ marks) = name := by
  rw [List.takeWhile_append_of_pos fun c hc => decide_eq_true (hname c hc)]
  cases after with
  | nil => exact List.append_nil name
  | cons c rest => rw [List.takeWhile_cons_of_neg (by simpa using hafter c rfl), List.append_nil]

/-- The type can be told from what follows it. -/
def ReadsBack (type : TypeRef) : Prop :=
  ∀ other : TypeRef, other.Plain → ∀ rest tail, Follows rest → Follows tail →
    type.text.toList ++ rest = other.text.toList ++ tail → type = other ∧ rest = tail

theorem follows_textOfRest (types : List TypeRef) (rest : List Char) :
    Follows ((textOfRest id types).toList ++ '>' :: rest) := by
  intro c hc
  cases types with
  | nil => exact .inr (Option.some.inj hc).symm
  | cons type types =>
    rw [textOfRest, String.toList_append, String.toList_append] at hc
    exact .inl (Option.some.inj hc).symm

/-- The arguments after the first can be told from what follows the closing bracket. -/
theorem textOfRest_append_inj (htypes : ∀ type ∈ types, type.ReadsBack)
    (hothers : ∀ other ∈ others, other.Plain)
    (h : (textOfRest id types).toList ++ '>' :: rest =
      (textOfRest id others).toList ++ '>' :: tail) :
    types = others ∧ rest = tail := by
  induction types generalizing others with
  | nil =>
    cases others with
    | nil => exact ⟨rfl, (List.cons.inj h).2⟩
    | cons other others =>
      rw [textOfRest, textOfRest, String.toList_append, String.toList_append] at h
      exact absurd (List.cons.inj h).1 (by decide)
  | cons type types ih =>
    cases others with
    | nil =>
      rw [textOfRest, textOfRest, String.toList_append, String.toList_append] at h
      exact absurd (List.cons.inj h).1 (by decide)
    | cons other others =>
      obtain ⟨hfirst, hlater⟩ := List.forall_mem_cons.mp htypes
      obtain ⟨hother, hplain⟩ := List.forall_mem_cons.mp hothers
      simp only [textOfRest, String.toList_append, List.append_assoc] at h
      obtain ⟨rfl, hrest⟩ := hfirst other hother _ _ (follows_textOfRest types rest)
        (follows_textOfRest others tail) (List.append_cancel_left h)
      obtain ⟨rfl, htail⟩ := ih hlater hplain hrest
      exact ⟨rfl, htail⟩

theorem toList_bracketed_cons (type : TypeRef) (types : List TypeRef) (rest : List Char) :
    (bracketed ((type :: types).map text)).toList ++ rest =
      '<' :: (type.text.toList ++ ((textOfRest id types).toList ++ '>' :: rest)) := by
  have hjoined := textWith_append_textOfRest id type types
  have htext : text = textWith id := rfl
  rw [bracketed, List.map_cons, List.isEmpty_cons, if_neg Bool.false_ne_true, ← List.map_cons,
    htext, ← hjoined]
  simp

/-- Brackets, or none at all, can be told from what follows. -/
theorem bracketed_append_inj (htypes : ∀ type ∈ types, type.ReadsBack)
    (hothers : ∀ other ∈ others, other.Plain) (hrest : Follows rest) (htail : Follows tail)
    (h : (bracketed (types.map text)).toList ++ rest =
      (bracketed (others.map text)).toList ++ tail) : types = others ∧ rest = tail := by
  cases types with
  | nil =>
    cases others with
    | nil => exact ⟨rfl, h⟩
    | cons other others =>
      rw [toList_bracketed_cons] at h
      obtain rfl : rest = '<' :: _ := h
      exact absurd (hrest '<' rfl) (by decide)
  | cons type types =>
    cases others with
    | nil =>
      rw [toList_bracketed_cons] at h
      obtain rfl : tail = '<' :: _ := h.symm
      exact absurd (htail '<' rfl) (by decide)
    | cons other others =>
      obtain ⟨hfirst, hlater⟩ := List.forall_mem_cons.mp htypes
      obtain ⟨hother, hplain⟩ := List.forall_mem_cons.mp hothers
      rw [toList_bracketed_cons, toList_bracketed_cons] at h
      obtain ⟨rfl, hbehind⟩ := hfirst other hother _ _ (follows_textOfRest types rest)
        (follows_textOfRest others tail) (List.cons.inj h).2
      obtain ⟨rfl, hsame⟩ := textOfRest_append_inj hlater hplain hbehind
      exact ⟨rfl, hsame⟩

/-- After a name there is nothing, a bracket, or what follows the type. -/
theorem head_mem_marks (types : List TypeRef) (hrest : Follows rest) :
    ∀ c ∈ ((bracketed (types.map text)).toList ++ rest).head?, c ∈ marks := by
  intro c hc
  cases types with
  | nil => rcases hrest c hc with rfl | rfl <;> decide
  | cons type types =>
    rw [toList_bracketed_cons] at hc
    obtain rfl := Option.some.inj hc
    decide

/-- A type without marks in its names can be told from what follows its text. -/
theorem readsBack (h : type.Plain) : type.ReadsBack := by
  induction type using induction_arguments with
  | step base arguments ih =>
    rintro ⟨otherBase, otherArguments⟩ hother rest tail hrest htail htext
    obtain ⟨hbase, harguments⟩ := plain_iff.mp h
    obtain ⟨hotherBase, hotherArguments⟩ := plain_iff.mp hother
    rw [text, text, textWith_eq, textWith_eq, String.toList_append, String.toList_append,
      List.append_assoc, List.append_assoc] at htext
    -- both names end at the first mark
    have hname : base.toList = otherBase.toList := by
      rw [← takeWhile_name hbase (head_mem_marks arguments hrest),
        ← takeWhile_name hotherBase (head_mem_marks otherArguments htail)]
      exact congrArg _ htext
    obtain rfl := String.toList_inj.mp hname
    obtain ⟨rfl, hsame⟩ := bracketed_append_inj
      (fun argument hargument => ih argument hargument (harguments argument hargument))
      hotherArguments hrest htail (List.append_cancel_left htext)
    exact ⟨rfl, hsame⟩

end TypeRef

/-- **Types are written one way, and can be read back.** What a class writes for a type is the
base name, behind the name of the module if it is that of an inner class, and the arguments as
the class writes them, joined in brackets. That is the plain text of the type in which exactly
the names of inner classes have the module's name in front. And different types have different
plain texts, as long as no name in them holds a bracket or a comma. -/
theorem types_written_alike (module : String) (inner : List String) :
    (∀ base arguments, TypeRef.textWith (spelling module inner) ⟨base, arguments⟩ =
        spelling module inner base ++
          TypeRef.bracketed (arguments.map (TypeRef.textWith (spelling module inner)))) ∧
      (∀ type : TypeRef, type.textWith (spelling module inner) =
        (type.renamed fun base =>
          if base ∈ inner then module ++ "::" ++ base else base).text) ∧
      ∀ type other : TypeRef, type.Plain → other.Plain → type.text = other.text →
        type = other := by
  refine ⟨TypeRef.textWith_eq _, fun type => ?_, fun type other htype hother htext => ?_⟩
  · have hspelling : spelling module inner =
        fun base => if base ∈ inner then module ++ "::" ++ base else base := by
      funext base
      rw [spelling]
      exact if_congr List.contains_iff_mem rfl rfl
    rw [type.textWith_eq_text_renamed, hspelling]
  · have hend : TypeRef.Follows [] := fun _ hc => nomatch hc
    exact (TypeRef.readsBack htype other hother [] [] hend hend (by rw [htext])).1

/-- Owners by name, in the class of a pet with an inner class for one of them. -/
def TypeRef.owners : TypeRef := .map (.list ⟨"NestedClass1", []⟩)

/-- Only the inner class is spelled in another way, and the text tells how the type is built. -/
theorem owners_written_alike :
    TypeRef.owners.Plain ∧
      TypeRef.owners.textWith (spelling "pet" ["NestedClass1"]) =
        "HashMap<String, Vec<pet::NestedClass1>>" ∧
      TypeRef.owners.text = "HashMap<String, Vec<NestedClass1>>" ∧
      TypeRef.owners = ⟨"HashMap", [⟨"String", []⟩, ⟨"Vec", [⟨"NestedClass1", []⟩]⟩]⟩ := by
  obtain ⟨-, hspelled, hread⟩ := types_written_alike "pet" ["NestedClass1"]
  exact ⟨by decide, (hspelled _).trans (by decide), by decide,
    hread _ _ (by decide) (by decide) (by decide)⟩

end ApiClasses
