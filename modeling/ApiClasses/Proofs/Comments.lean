import ApiClasses.Proofs.Descriptions

/-!
# Doc comments in the code

A doc comment is cut into lines before it is printed, and each of them is printed behind the
comment mark. No line feed is left in it then, so wherever it stands in the code it is a line of
its own, and a comment from its first sign to its end.

If the comment lines are taken out of the code, nothing is left of doc comments
(`withoutComments_sourceOfAll`). So documents that differ in descriptions alone give the same
code, up to comment lines: no description becomes code (`descriptions_stay_comments`).
-/

namespace ApiClasses

/-! ## Lines of a text -/

section Texts

variable {before after line chars : List Char} {c : Char} {text : String}

theorem exists_splitLines (chars : List Char) :
    ∃ line later, splitLines chars = line :: later := by
  cases chars with
  | nil => exact ⟨_, _, rfl⟩
  | cons c rest =>
    rw [splitLines.eq_def]
    split
    · exact ⟨_, _, rfl⟩
    · exact ⟨_, _, rfl⟩
    · split
      · exact ⟨_, _, rfl⟩
      · exact ⟨_, _, rfl⟩

/-- A character that ends no line is the first one of the first line. -/
theorem splitLines_cons {later : List (List Char)} (hc : c ≠ '\n')
    (h : splitLines chars = line :: later) : splitLines (c :: chars) = (c :: line) :: later := by
  rw [splitLines, h]
  exact hc

/-- A line feed keeps the lines before it and those after it apart. -/
theorem splitLines_append_lineFeed (before after : List Char) :
    splitLines (before ++ '\n' :: after) = splitLines before ++ splitLines after := by
  induction before with
  | nil => rfl
  | cons c rest ih =>
    rw [List.cons_append]
    by_cases hc : c = '\n'
    · subst hc
      rw [splitLines, splitLines, ih, List.cons_append]
    · obtain ⟨line, later, hlines⟩ := exists_splitLines rest
      rw [hlines] at ih
      rw [splitLines_cons hc hlines, splitLines_cons hc ih]
      rfl

/-- Without a line feed there is one line. -/
theorem splitLines_of_notMem (h : '\n' ∉ chars) : splitLines chars = [chars] := by
  induction chars with
  | nil => rfl
  | cons c rest ih =>
    have hc : c ≠ '\n' := fun hsame => h (hsame ▸ List.mem_cons_self)
    have hrest : '\n' ∉ rest := fun hmem => h (List.mem_cons_of_mem _ hmem)
    exact splitLines_cons hc (ih hrest)

/-- No line holds a line feed. -/
theorem notMem_of_mem_splitLines (h : line ∈ splitLines chars) : '\n' ∉ line := by
  induction chars generalizing line with
  | nil =>
    obtain rfl := List.mem_singleton.mp h
    exact List.not_mem_nil
  | cons c rest ih =>
    by_cases hc : c = '\n'
    · subst hc
      rw [splitLines] at h
      rcases List.mem_cons.mp h with rfl | h
      · exact List.not_mem_nil
      · exact ih h
    · obtain ⟨first, later, hlines⟩ := exists_splitLines rest
      rw [splitLines_cons hc hlines] at h
      rw [hlines] at ih
      rcases List.mem_cons.mp h with rfl | h
      · intro hmem
        rcases List.mem_cons.mp hmem with hsame | hmem
        · exact hc hsame.symm
        · exact ih List.mem_cons_self hmem
      · exact ih (List.mem_cons_of_mem _ h)

theorem mem_of_mem_dropReturn (h : c ∈ dropReturn line) : c ∈ line := by
  rw [dropReturn] at h
  split at h
  · next rest hreverse =>
    rw [← List.mem_reverse, hreverse]
    exact List.mem_cons_of_mem _ (List.mem_reverse.mp h)
  · exact h

/-- Lines that have been ended hold nothing more. -/
theorem notMem_of_mem_endLines {lines : List (List Char)} (hlines : ∀ line ∈ lines, c ∉ line)
    (h : line ∈ endLines lines) : c ∉ line := by
  fun_induction endLines lines with
  | case1 => exact absurd h List.not_mem_nil
  | case2 last hempty => exact absurd h List.not_mem_nil
  | case3 last hempty =>
    obtain rfl := List.mem_singleton.mp h
    exact hlines _ List.mem_cons_self
  | case4 first later hlater ih =>
    obtain ⟨hfirst, hrest⟩ := List.forall_mem_cons.mp hlines
    rcases List.mem_cons.mp h with rfl | h
    · exact fun hmem => hfirst (mem_of_mem_dropReturn hmem)
    · exact ih hrest h

theorem notMem_of_mem_textLines {line : String} (h : line ∈ textLines text) :
    '\n' ∉ line.toList := by
  obtain ⟨chars, hchars, rfl⟩ := List.mem_map.mp h
  rw [String.toList_ofList]
  exact notMem_of_mem_endLines (fun _ => notMem_of_mem_splitLines) hchars

/-- Nor does trimming add anything. -/
theorem notMem_trimEnd (h : c ∉ text.toList) : c ∉ (trimEnd text).toList := by
  rw [trimEnd, String.toList_ofList, trimEndChars, List.mem_reverse]
  intro hmem
  exact h (List.mem_reverse.mp ((List.dropWhile_sublist _).mem hmem))

end Texts

/-! ## Comment lines -/

/-- The marks that a comment starts with. -/
def commentMark : List Char := ['/', '/', '/']

/-- The first characters of the line, up to spaces, are the comment mark. -/
def isCommentLine (line : List Char) : Bool :=
  commentMark.isPrefixOf (line.dropWhile (· == ' '))

/-- The text without its comment lines. -/
def withoutComments (text : String) : String :=
  String.ofList (['\n'].intercalate ((splitLines text.toList).filter (!isCommentLine ·)))

namespace Line

variable {line : Line} {lines more : List Line}

/-- The line starts with the comment mark, and does not go on behind a line feed. -/
def isComment : Line → Bool
  | blank => false
  | code _ s => commentMark.isPrefixOf s.toList && !s.toList.contains '\n'

/-- The characters of the line, up to its line feed. -/
def chars : Line → List Char
  | blank => []
  | code depth s => (indents depth).toList ++ s.toList

theorem joined_append (lines more : List Line) :
    joined (lines ++ more) = joined lines ++ joined more := by
  rw [joined, List.map_append, String.join_append]
  rfl

theorem toList_text (line : Line) : line.text.toList = line.chars ++ ['\n'] := by
  cases line with
  | blank => rfl
  | code depth s =>
    rw [text, chars, String.toList_append, String.toList_append]
    rfl

/-- What is printed falls into the lines that are printed. -/
theorem splitLines_joined (lines : List Line) :
    splitLines (joined lines).toList = lines.flatMap (splitLines ·.chars) ++ [[]] := by
  induction lines with
  | nil => rfl
  | cons line rest ih =>
    have hjoined : joined (line :: rest) = line.text ++ joined rest := by
      simp [joined, String.join_cons]
    rw [hjoined, String.toList_append, toList_text, List.append_assoc, List.singleton_append,
      splitLines_append_lineFeed, ih, List.flatMap_cons, List.append_assoc]

theorem toList_indents (depth : Nat) : (indents depth).toList = List.replicate (4 * depth) ' ' := by
  induction depth with
  | zero => rfl
  | succ depth ih =>
    have hindent : indent.toList = List.replicate 4 ' ' := by decide
    rw [indents, String.toList_append, ih, hindent, List.replicate_append_replicate]
    exact congrArg (List.replicate · ' ') (by omega)

theorem eq_space_of_mem_indents {c : Char} {depth : Nat} (h : c ∈ (indents depth).toList) :
    c = ' ' := by
  rw [toList_indents] at h
  exact List.eq_of_mem_replicate h

/-- A comment is one comment line of the text, wherever it stands. -/
theorem filter_splitLines_of_isComment (h : line.isComment = true) :
    (splitLines line.chars).filter (!isCommentLine ·) = [] := by
  cases line with
  | blank => cases h
  | code depth s =>
    obtain ⟨hmark, hfeed⟩ : commentMark <+: s.toList ∧ '\n' ∉ s.toList := by
      simpa [isComment] using h
    have hone : '\n' ∉ (code depth s).chars := by
      rw [chars, List.mem_append, not_or]
      exact ⟨fun hmem => absurd (eq_space_of_mem_indents hmem) (by decide), hfeed⟩
    have hstart : (code depth s).chars.dropWhile (· == ' ') = s.toList := by
      obtain ⟨rest, hrest⟩ := hmark
      rw [chars, List.dropWhile_append_of_pos, ← hrest]
      · rfl
      · intro c hc
        exact beq_iff_eq.mpr (eq_space_of_mem_indents hc)
    have hcomment : isCommentLine (code depth s).chars = true := by
      rw [isCommentLine, hstart]
      exact List.isPrefixOf_iff_prefix.mpr hmark
    rw [splitLines_of_notMem hone]
    simp [hcomment]

/-- The lines that are no comments. -/
def uncommented (lines : List Line) : List Line := lines.filter (!·.isComment)

/-- So comments leave nothing in the text without comment lines. -/
theorem withoutComments_joined (lines : List Line) :
    withoutComments (joined lines) = withoutComments (joined (uncommented lines)) := by
  have hsame : lines.flatMap (fun line => (splitLines line.chars).filter (!isCommentLine ·)) =
      (uncommented lines).flatMap fun line =>
        (splitLines line.chars).filter (!isCommentLine ·) := by
    induction lines with
    | nil => rfl
    | cons line rest ih =>
      rw [uncommented] at ih ⊢
      rw [List.flatMap_cons, ih]
      by_cases hcomment : line.isComment = true
      · rw [filter_splitLines_of_isComment hcomment, List.filter_cons_of_neg (by simp [hcomment])]
        rfl
      · rw [List.filter_cons_of_pos (by simp [hcomment]), List.flatMap_cons]
  simp only [withoutComments, splitLines_joined, List.filter_append, List.filter_flatMap, hsame]

/-! ### Lines that are put together -/

@[simp] theorem uncommented_append (lines more : List Line) :
    uncommented (lines ++ more) = uncommented lines ++ uncommented more :=
  List.filter_append ..

/-- A line in front makes no difference. -/
theorem uncommented_cons (line : Line) (h : uncommented lines = uncommented more) :
    uncommented (line :: lines) = uncommented (line :: more) := by
  have happend := uncommented_append [line]
  exact (happend lines).trans ((congrArg _ h).trans (happend more).symm)

@[simp] theorem uncommented_inside (lines : List Line) :
    uncommented (lines.map inside) = (uncommented lines).map inside := by
  rw [uncommented, uncommented, List.filter_map]
  refine congrArg (List.map inside) (List.filter_congr fun line _ => ?_)
  cases line <;> rfl

/-- What is put together of parts is the same if each part is. -/
theorem uncommented_flatMap {α : Type} {f g : α → List Line} {parts : List α}
    (h : ∀ part ∈ parts, uncommented (f part) = uncommented (g part)) :
    uncommented (parts.flatMap f) = uncommented (parts.flatMap g) := by
  rw [uncommented, uncommented, List.filter_flatMap, List.filter_flatMap]
  exact List.flatMap_congr h

theorem uncommented_intercalate (separator : List Line) (parts : List (List Line)) :
    uncommented (separator.intercalate parts) =
      (uncommented separator).intercalate (parts.map uncommented) := by
  induction parts with
  | nil => rfl
  | cons first rest ih =>
    cases rest with
    | nil => simp
    | cons second others =>
      rw [List.intercalate_cons_cons, uncommented_append, uncommented_append, ih]
      simp only [List.map_cons, List.intercalate_cons_cons]

end Line

open Line (uncommented uncommented_append uncommented_cons uncommented_inside
  uncommented_flatMap uncommented_intercalate)

/-! ## Doc comments -/

/-- All that a doc comment is printed as is comments. -/
theorem uncommented_docLines (doc : Option String) : uncommented (docLines doc) = [] := by
  cases doc with
  | none => rfl
  | some text =>
    rw [uncommented, List.filter_eq_nil_iff]
    intro printed hprinted
    obtain ⟨line, hline, rfl⟩ := List.mem_map.mp hprinted
    have hcomment (hfeed : '\n' ∉ (trimEnd line).toList) :
        (Line.code 0 ("/// " ++ trimEnd line)).isComment = true := by
      have hmark : "/// ".toList = commentMark ++ [' '] := by decide
      rw [Line.isComment, String.toList_append, hmark]
      simpa [commentMark] using hfeed
    split
    · decide
    · simpa using hcomment (notMem_trimEnd (notMem_of_mem_textLines hline))

/-! ## Classes -/

namespace ClassDecl

variable (c : ClassDecl)

theorem spell_undocumented : c.undocumented.spell = c.spell := by
  rw [spell, spell, moduleName, name_undocumented, innerClasses_undocumented, List.map_map]
  simp [moduleName, Function.comp_def]

end ClassDecl

/-! ### Printing -/

theorem ClassField.uncommented_lines (spell : String → String) (field : ClassField) :
    uncommented (field.undocumented.lines spell) = uncommented (field.lines spell) := by
  rw [lines, lines]
  simp only [uncommented_append, uncommented_docLines]
  rfl

theorem ClassMethod.uncommented_lines (spell : String → String) (method : ClassMethod) :
    uncommented (method.undocumented.lines spell) = uncommented (method.lines spell) := by
  rw [lines, lines]
  simp only [uncommented_append, uncommented_docLines]
  rfl

namespace ClassDecl

variable (c : ClassDecl)

theorem uncommented_structLines :
    uncommented c.undocumented.structLines = uncommented c.structLines := by
  have hfields : uncommented ((c.fields.map ClassField.undocumented).flatMap (·.lines c.spell)) =
      uncommented (c.fields.flatMap (·.lines c.spell)) := by
    rw [List.flatMap_map]
    exact uncommented_flatMap fun field _ => field.uncommented_lines c.spell
  rw [structLines, structLines, fields_undocumented, spell_undocumented, name_undocumented,
    visibility_undocumented, List.isEmpty_map]
  split
  · rfl
  · rw [uncommented_append, uncommented_append]
    refine congrArg (· ++ _) (uncommented_cons _ ?_)
    rw [uncommented_inside, uncommented_inside, hfields]

theorem uncommented_methodLines :
    uncommented c.undocumented.methodLines = uncommented c.methodLines := by
  have hmethods : ((c.methods.map ClassMethod.undocumented).map (·.lines c.spell)).map
        uncommented =
      (c.methods.map (·.lines c.spell)).map uncommented := by
    rw [List.map_map, List.map_map, List.map_map]
    refine List.map_congr_left fun method _ => ?_
    exact method.uncommented_lines c.spell
  have hall : uncommented ([Line.blank].intercalate
        ((c.methods.map ClassMethod.undocumented).map (·.lines c.spell))) =
      uncommented ([Line.blank].intercalate (c.methods.map (·.lines c.spell))) := by
    rw [uncommented_intercalate, uncommented_intercalate, hmethods]
  rw [methodLines, methodLines, methods_undocumented, spell_undocumented, name_undocumented,
    List.isEmpty_map]
  split
  · rfl
  · rw [uncommented_append, uncommented_append]
    refine congrArg (· ++ _) (uncommented_cons _ ?_)
    rw [uncommented_inside, uncommented_inside, hall]

theorem uncommented_ownLines : uncommented c.undocumented.ownLines = uncommented c.ownLines := by
  have htraits : c.undocumented.traitLines = c.traitLines := by
    rw [traitLines, traitLines, traits_undocumented, name_undocumented]
  rw [ownLines, ownLines, attributes_undocumented, htraits]
  simp only [uncommented_append, uncommented_docLines, uncommented_structLines,
    uncommented_methodLines]

theorem uncommented_moduleLines {inner inner' : List Line}
    (h : uncommented inner' = uncommented inner) :
    uncommented (c.undocumented.moduleLines inner') = uncommented (c.moduleLines inner) := by
  rw [moduleLines, moduleLines, innerClasses_undocumented, List.isEmpty_map, moduleName,
    moduleName, name_undocumented]
  split
  · rfl
  · rw [uncommented_append, uncommented_append]
    refine congrArg (· ++ _) (uncommented_cons _ (uncommented_cons _ ?_))
    rw [uncommented_inside, uncommented_inside]
    exact congrArg (List.map Line.inside) (uncommented_cons _ (uncommented_cons _ h))

/-- What holds of a class whenever it holds of all directly inside, holds of every class. -/
theorem induction_inside {motive : ClassDecl → Prop}
    (step : ∀ c, (∀ d ∈ c.innerClasses, motive d) → motive c) (c : ClassDecl) : motive c := by
  refine step c fun d hd => ?_
  have hsmaller : sizeOf d < sizeOf c := by
    obtain ⟨name, doc, visibility, attributes, traits, members⟩ := c
    obtain ⟨member, hmember, hinner⟩ := List.mem_filterMap.mp hd
    cases member with
    | field | method => cases hinner
    | inner other =>
      obtain rfl := Option.some.inj hinner
      have hlist := List.sizeOf_lt_of_mem hmember
      simp only [Member.inner.sizeOf_spec, ClassDecl.mk.sizeOf_spec] at hlist ⊢
      omega
  exact induction_inside step d
termination_by sizeOf c

/-- The class without doc comments is printed with the same lines, up to comments. -/
theorem uncommented_lines : uncommented c.undocumented.lines = uncommented c.lines := by
  induction c using induction_inside with
  | step c ih =>
    rw [lines_eq, lines_eq, uncommented_append, uncommented_append, uncommented_ownLines,
      innerClasses_undocumented, List.flatMap_map]
    exact congrArg (_ ++ ·) (c.uncommented_moduleLines (uncommented_flatMap ih))

end ClassDecl

/-! ## Code -/

/-- The code is made of the lines of all classes. -/
theorem sourceOfAll_eq (classes : List ClassDecl) :
    sourceOfAll classes = Line.joined (classes.flatMap (·.lines)) := by
  induction classes with
  | nil => rfl
  | cons c rest ih =>
    have hfirst : sourceOfAll (c :: rest) = c.source ++ sourceOfAll rest := by
      rw [sourceOfAll, List.map_cons, String.join_cons]
      rfl
    rw [hfirst, ih, List.flatMap_cons, Line.joined_append]
    rfl

/-- Up to comment lines, the code of classes is that of the classes without doc comments. -/
theorem withoutComments_sourceOfAll (classes : List ClassDecl) :
    withoutComments (sourceOfAll classes) =
      withoutComments (sourceOfAll (classes.map ClassDecl.undocumented)) := by
  have hlines : uncommented ((classes.map ClassDecl.undocumented).flatMap (·.lines)) =
      uncommented (classes.flatMap (·.lines)) := by
    rw [List.flatMap_map]
    exact uncommented_flatMap fun c _ => c.uncommented_lines
  rw [sourceOfAll_eq, sourceOfAll_eq, Line.withoutComments_joined, ← hlines,
    ← Line.withoutComments_joined]

/-- **Descriptions stay comments**: for documents that differ in the descriptions of their
schemas alone, the generation fails with the same error, or the code is the same once the
comment lines are taken out. -/
theorem descriptions_stay_comments {one other : Document}
    (h : one.undescribed = other.undescribed) (settings : Settings) :
    SameEnd (fun classes others =>
        withoutComments (sourceOfAll classes) = withoutComments (sourceOfAll others))
      (one.standardClasses settings) (other.standardClasses settings) := by
  refine (standardClasses_alike h settings).mono fun classes others halike => ?_
  rw [withoutComments_sourceOfAll classes, withoutComments_sourceOfAll others]
  exact congrArg (withoutComments ∘ sourceOfAll) halike

/-- A pet with a tag, described in some way or not at all. -/
def Document.pets (pet tag : Option String) : Document where
  arena := ⟨#[⟨some "Pet", pet, .object [⟨"tag", ⟨1⟩⟩] none⟩, ⟨none, tag, .string⟩]⟩
  schemas := [("Pet", ⟨0⟩)]

/-- Both are described by what looks like code. -/
def Document.trickyPets : Document :=
  .pets (some "A pet.\n\r\n  \x7d\nfn f() \x7b\x7d") (some "*/\r///")

theorem Document.undescribed_pets (pet tag : Option String) :
    (Document.pets pet tag).undescribed = .pets none none := by
  simp [pets, undescribed, Arena.undescribed, Node.undescribed]

/-- The descriptions are printed, but only as comments. -/
theorem tricky_pets_stay_comments : ∃ classes others : List ClassDecl,
    Document.standardClasses (.pets none none) {} = .ok classes ∧
      Document.standardClasses .trickyPets {} = .ok others ∧
      sourceOfAll classes ≠ sourceOfAll others ∧
      withoutComments (sourceOfAll classes) = withoutComments (sourceOfAll others) := by
  have hsame : Document.undescribed (.pets none none) = Document.undescribed .trickyPets :=
    (Document.undescribed_pets none none).trans (Document.undescribed_pets _ _).symm
  have hend := descriptions_stay_comments hsame {}
  have hmade : (Document.standardClasses (.pets none none) {}).toOption.isSome = true := by decide
  have hdiffer : (Document.standardClasses (.pets none none) {}).toOption.map sourceOfAll ≠
      (Document.standardClasses .trickyPets {}).toOption.map sourceOfAll := by
    decide +kernel
  generalize Document.standardClasses (.pets none none) {} = one,
    Document.standardClasses .trickyPets {} = other at hend hmade hdiffer ⊢
  cases hend with
  | error error => cases hmade
  | @ok classes others hrel =>
    refine ⟨classes, others, rfl, rfl, fun hsame => hdiffer ?_, hrel⟩
    exact congrArg some hsame

end ApiClasses
