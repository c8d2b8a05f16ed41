import ApiClasses.Proofs.Comments
import ApiClasses.Proofs.SmallLetters
import ApiClasses.Proofs.TypeTexts

/-!
# Printing at a depth

A class is printed as if it stood alone, and what stands inside another class is moved in as a
whole. Here the printing is said once more, the way it is done in one go: the depth is handed
down, and every line is written behind the spaces of its depth (`ClassDecl.textAt`). Both give
the same text (`textAt_eq`).

The text at a depth can also be had from the text alone, by putting spaces in front of every
line that is not empty (`indented`). This needs each line to be one line of the text, which doc
comments and quoted names always are; names, attributes, types and bodies are as long as they
hold no line feed (`ClassDecl.OneLined`). So a module holds its classes the way they are printed
alone, one after the other, and moved in (`printed_alike_at_every_depth`).
-/

namespace ApiClasses

variable {depth : Nat}

/-! ## Lines at a depth -/

namespace Line

variable {line : Line} {lines : List Line}

/-- The line so many levels further in. -/
def moved (depth : Nat) : Line → Line
  | blank => blank
  | code more s => code (depth + more) s

/-- A line of text at a depth. -/
def textAt (depth : Nat) (s : String) : String := indents depth ++ s ++ "\n"

/-- The text of several lines so many levels further in. -/
def joinedAt (depth : Nat) (lines : List Line) : String := joined (lines.map (moved depth))

@[simp] theorem joinedAt_nil : joinedAt depth [] = "" := rfl

theorem joinedAt_cons (line : Line) (lines : List Line) :
    joinedAt depth (line :: lines) = (line.moved depth).text ++ joinedAt depth lines := by
  rw [joinedAt, List.map_cons, joined, List.map_cons, String.join_cons]
  rfl

@[simp] theorem joinedAt_cons_blank (lines : List Line) :
    joinedAt depth (blank :: lines) = "\n" ++ joinedAt depth lines :=
  joinedAt_cons blank lines

@[simp] theorem joinedAt_cons_code (more : Nat) (s : String) (lines : List Line) :
    joinedAt depth (code more s :: lines) =
      textAt (depth + more) s ++ joinedAt depth lines :=
  joinedAt_cons (code more s) lines

@[simp] theorem joinedAt_append (lines more : List Line) :
    joinedAt depth (lines ++ more) = joinedAt depth lines ++ joinedAt depth more := by
  rw [joinedAt, List.map_append, joined_append]
  rfl

/-- What stands inside is one level further in. -/
@[simp] theorem joinedAt_inside (lines : List Line) :
    joinedAt depth (lines.map inside) = joinedAt (depth + 1) lines := by
  have hmoved : moved depth ∘ inside = moved (depth + 1) := by
    funext line
    cases line with
    | blank => rfl
    | code more s => exact congrArg (code · s) (by omega)
  rw [joinedAt, List.map_map, hmoved]
  rfl

@[simp] theorem joinedAt_flatMap {α : Type} (f : α → List Line) (parts : List α) :
    joinedAt depth (parts.flatMap f) =
      String.join (parts.map fun part => joinedAt depth (f part)) := by
  induction parts with
  | nil => rfl
  | cons first rest ih =>
    rw [List.flatMap_cons, joinedAt_append, ih, List.map_cons, String.join_cons]

theorem joinedAt_map {α : Type} (f : α → Line) (parts : List α) :
    joinedAt depth (parts.map f) =
      String.join (parts.map fun part => ((f part).moved depth).text) := by
  rw [joinedAt, joined, List.map_map, List.map_map]
  rfl

@[simp] theorem joinedAt_map_code {α : Type} (more : Nat) (f : α → String) (parts : List α) :
    joinedAt depth (parts.map fun part => code more (f part)) =
      String.join (parts.map fun part => textAt (depth + more) (f part)) :=
  joinedAt_map ..

/-- Blank lines between the parts are line feeds between their texts. -/
@[simp] theorem joinedAt_intercalate (parts : List (List Line)) :
    joinedAt depth ([blank].intercalate parts) = "\n".intercalate (parts.map (joinedAt depth)) := by
  induction parts with
  | nil => rfl
  | cons first rest ih =>
    cases rest with
    | nil => rw [List.intercalate_singleton, List.map_singleton, String.intercalate_singleton]
    | cons second others =>
      rw [List.intercalate_cons_cons, joinedAt_append, joinedAt_append, ih]
      simp only [List.map_cons, String.intercalate_cons_cons]
      rfl

theorem joinedAt_zero (lines : List Line) : joinedAt 0 lines = joined lines := by
  have hmoved : moved 0 = id := by
    funext line
    cases line with
    | blank => rfl
    | code more s => exact congrArg (code · s) (Nat.zero_add more)
  rw [joinedAt, hmoved, List.map_id]

end Line

open Line (joinedAt)

/-! ## Printing -/

/-- A doc comment at a depth. -/
def docTextAt (depth : Nat) : Option String → String
  | none => ""
  | some doc =>
    String.join ((textLines doc).map fun line =>
      if (trim line).isEmpty then Line.textAt depth "///"
      else Line.textAt depth ("/// " ++ trimEnd line))

/-- A field at a depth. -/
def ClassField.textAt (spell : String → String) (depth : Nat) (field : ClassField) : String :=
  docTextAt depth field.doc ++
    (match field.wireName with
      | some wire => Line.textAt depth ("#[serde(rename = " ++ quote wire ++ ")]")
      | none => "") ++
    Line.textAt depth ("pub " ++ field.name ++ ": " ++ field.type.textWith spell ++ ",")

/-- A method at a depth. -/
def ClassMethod.textAt (spell : String → String) (depth : Nat) (method : ClassMethod) : String :=
  docTextAt depth method.doc ++ Line.textAt depth (method.signature spell) ++
    String.join (method.body.map (Line.textAt (depth + 1))) ++ Line.textAt depth "\x7d"

namespace ClassDecl

/-- The struct of a class at a depth. -/
def structTextAt (depth : Nat) (c : ClassDecl) : String :=
  let head :=
    (match c.visibility with
      | .shown => "pub "
      | .hidden => "") ++ "struct " ++ c.name
  if c.fields.isEmpty then Line.textAt depth (head ++ " \x7b\x7d") ++ "\n"
  else
    Line.textAt depth (head ++ " \x7b") ++
      String.join (c.fields.map (·.textAt c.spell (depth + 1))) ++
      Line.textAt depth "\x7d" ++ "\n"

/-- The methods of a class at a depth, if there are any. -/
def methodTextAt (depth : Nat) (c : ClassDecl) : String :=
  if c.methods.isEmpty then ""
  else
    Line.textAt depth ("impl " ++ c.name ++ " \x7b") ++
      "\n".intercalate (c.methods.map (·.textAt c.spell (depth + 1))) ++
      Line.textAt depth "\x7d" ++ "\n"

/-- The class at a depth, up to the module of the classes inside. -/
def ownTextAt (depth : Nat) (c : ClassDecl) : String :=
  docTextAt depth c.doc ++
    String.join (c.attributes.map fun a => Line.textAt depth ("#[" ++ a ++ "]")) ++
    c.structTextAt depth ++ c.methodTextAt depth ++
    String.join (c.traits.map fun type =>
      Line.textAt depth ("impl " ++ type.text ++ " for " ++ c.name ++ " \x7b\x7d") ++ "\n")

/-- The module at a depth, around the text of the classes inside. -/
def moduleTextAt (depth : Nat) (c : ClassDecl) (inner : String) : String :=
  if c.innerClasses.isEmpty then ""
  else
    Line.textAt depth ("/// Nested types of [`" ++ c.name ++ "`].") ++
      Line.textAt depth ("pub mod " ++ c.moduleName ++ " \x7b") ++
      Line.textAt (depth + 1) "use super::*;" ++ "\n" ++ inner ++
      Line.textAt depth "\x7d" ++ "\n"

mutual

/-- The class at a depth, and everything declared inside. -/
def textAt (depth : Nat) : ClassDecl → String
  | c@⟨_, _, _, _, _, members⟩ =>
    c.ownTextAt depth ++ c.moduleTextAt depth (innerTextAt (depth + 1) members)

/-- The classes among some members at a depth. -/
def innerTextAt (depth : Nat) : List (Member ClassDecl) → String
  | [] => ""
  | .inner c :: rest => c.textAt depth ++ innerTextAt depth rest
  | .field _ :: rest => innerTextAt depth rest
  | .method _ :: rest => innerTextAt depth rest

end

theorem innerTextAt_eq_join (members : List (Member ClassDecl)) :
    innerTextAt depth members =
      String.join ((members.filterMap Member.inner?).map (textAt depth)) := by
  induction members with
  | nil => rfl
  | cons member rest ih =>
    cases member <;> simp [innerTextAt, List.filterMap_cons, Member.inner?, ih, String.join_cons]

theorem textAt_eq_own_module (c : ClassDecl) : c.textAt depth =
    c.ownTextAt depth ++
      c.moduleTextAt depth (String.join (c.innerClasses.map (textAt (depth + 1)))) := by
  obtain ⟨name, doc, visibility, attributes, traits, members⟩ := c
  rw [textAt, innerTextAt_eq_join]
  rfl

end ClassDecl

/-! ### The lines moved in -/

theorem docTextAt_eq (doc : Option String) :
    docTextAt depth doc = joinedAt depth (docLines doc) := by
  cases doc with
  | none => rfl
  | some text =>
    rw [docTextAt, docLines, Line.joinedAt_map]
    refine congrArg String.join (List.map_congr_left fun line _ => ?_)
    split <;> rfl

theorem ClassField.textAt_eq (spell : String → String) (field : ClassField) :
    field.textAt spell depth = joinedAt depth (field.lines spell) := by
  rw [textAt, lines, docTextAt_eq]
  cases field.wireName <;> simp [String.append_assoc]

theorem ClassMethod.textAt_eq (spell : String → String) (method : ClassMethod) :
    method.textAt spell depth = joinedAt depth (method.lines spell) := by
  have hbody : joinedAt depth (method.body.map (.code 1 ·)) =
      String.join (method.body.map (Line.textAt (depth + 1))) :=
    Line.joinedAt_map ..
  rw [textAt, lines, docTextAt_eq]
  simp [String.append_assoc, hbody]

namespace ClassDecl

theorem structTextAt_eq (c : ClassDecl) : c.structTextAt depth = joinedAt depth c.structLines := by
  rw [structTextAt, structLines]
  cases c.visibility <;> split <;> simp [String.append_assoc, ClassField.textAt_eq]

theorem methodTextAt_eq (c : ClassDecl) : c.methodTextAt depth = joinedAt depth c.methodLines := by
  rw [methodTextAt, methodLines]
  split
  · rfl
  · simp [String.append_assoc, ClassMethod.textAt_eq, Function.comp_def]

theorem ownTextAt_eq (c : ClassDecl) : c.ownTextAt depth = joinedAt depth c.ownLines := by
  rw [ownTextAt, ownLines, docTextAt_eq, structTextAt_eq, methodTextAt_eq, traitLines]
  simp [String.append_assoc]

theorem moduleTextAt_eq (c : ClassDecl) {inner : String} {innerLines : List Line}
    (h : inner = joinedAt (depth + 1) innerLines) :
    c.moduleTextAt depth inner = joinedAt depth (c.moduleLines innerLines) := by
  rw [moduleTextAt, moduleLines, h]
  split
  · rfl
  · rw [Line.joinedAt_append, Line.joinedAt_cons_code, Line.joinedAt_cons_code,
      Line.joinedAt_inside]
    simp [String.append_assoc]

/-- The text at a depth is that of the lines, moved in. -/
theorem textAt_eq (c : ClassDecl) : c.textAt depth = joinedAt depth c.lines := by
  induction c using induction_inside generalizing depth with
  | step c ih =>
    have hinner : String.join (c.innerClasses.map (textAt (depth + 1))) =
        joinedAt (depth + 1) (c.innerClasses.flatMap lines) := by
      rw [Line.joinedAt_flatMap]
      exact congrArg String.join (List.map_congr_left fun d hd => ih d hd)
    rw [textAt_eq_own_module, lines_eq, Line.joinedAt_append, ownTextAt_eq,
      moduleTextAt_eq c hinner]

end ClassDecl

/-! ## Moving a text in -/

/-- There is no line feed in the text. -/
def OneLine (s : String) : Prop := '\n' ∉ s.toList

/-- The text with the spaces of a depth in front of every line that is not empty. -/
def indented (depth : Nat) (text : String) : String :=
  String.ofList (['\n'].intercalate ((splitLines text.toList).map fun line =>
    if line.isEmpty then [] else List.replicate (4 * depth) ' ' ++ line))

/-- Lines with a line feed between any two, and one at the end, are lines with their line
feeds. -/
theorem intercalate_lineFeeds (lines : List (List Char)) :
    ['\n'].intercalate (lines ++ [[]]) = lines.flatMap (· ++ ['\n']) := by
  induction lines with
  | nil => rfl
  | cons line rest ih =>
    obtain ⟨next, later, hrest⟩ : ∃ next later, rest ++ [[]] = next :: later := by
      cases rest <;> exact ⟨_, _, rfl⟩
    rw [List.cons_append, hrest, List.intercalate_cons_cons, ← hrest, ih, List.flatMap_cons]

namespace Line

variable {line : Line} {lines : List Line}

/-- It is one line of the text, and not an empty one unless it is meant to be. -/
def Whole : Line → Prop
  | blank => True
  | code more s => OneLine s ∧ (more = 0 → s ≠ "")

/-- All of the lines are whole. -/
def AllWhole (lines : List Line) : Prop := ∀ line ∈ lines, line.Whole

/-- What stands inside is not empty. -/
theorem Whole.inside (h : line.Whole) : line.inside.Whole := by
  cases line with
  | blank => trivial
  | code more s => exact ⟨h.1, nofun⟩

theorem Whole.notMem_chars (h : line.Whole) : '\n' ∉ line.chars := by
  cases line with
  | blank => exact List.not_mem_nil
  | code more s =>
    rw [chars, List.mem_append, not_or]
    exact ⟨fun hmem => absurd (eq_space_of_mem_indents hmem) (by decide), h.1⟩

/-- Moving the line in is putting spaces in front of it, if it is not empty. -/
theorem Whole.chars_moved (h : line.Whole) : (line.moved depth).chars =
    if line.chars.isEmpty then [] else List.replicate (4 * depth) ' ' ++ line.chars := by
  cases line with
  | blank => rfl
  | code more s =>
    -- without a depth of its own the line has some text
    have hsome : (code more s).chars ≠ [] := by
      rw [chars, toList_indents]
      intro hnone
      obtain ⟨hspaces, hs⟩ := List.append_eq_nil_iff.mp hnone
      have hmore : 4 * more = 0 := (List.replicate_eq_nil_iff ' ').mp hspaces
      exact h.2 (by omega) (String.toList_eq_nil_iff.mp hs)
    rw [if_neg (by simpa using hsome), moved, chars, chars, toList_indents, toList_indents,
      ← List.append_assoc, List.replicate_append_replicate, Nat.mul_add]

theorem toList_joined (lines : List Line) :
    (joined lines).toList = lines.flatMap fun line => line.chars ++ ['\n'] := by
  rw [joined, String.toList_join, List.flatMap_map]
  exact List.flatMap_congr fun line _ => toList_text line

/-- So moving whole lines in is putting spaces in front of the lines of their text. -/
theorem joinedAt_eq_indented (h : AllWhole lines) :
    joinedAt depth lines = indented depth (joined lines) := by
  -- cutting the text gives the lines back, and nothing after the last line feed
  have hsplit : splitLines (joined lines).toList = lines.map chars ++ [[]] := by
    rw [splitLines_joined, List.map_eq_flatMap]
    refine congrArg (· ++ [[]]) (List.flatMap_congr fun line hline => ?_)
    exact splitLines_of_notMem (h line hline).notMem_chars
  have hmoved : (lines.map chars).map (fun chars : List Char =>
        if chars.isEmpty then [] else List.replicate (4 * depth) ' ' ++ chars) =
      (lines.map (moved depth)).map chars := by
    rw [List.map_map, List.map_map]
    exact List.map_congr_left fun line hline => (h line hline).chars_moved.symm
  rw [← String.toList_inj, joinedAt, toList_joined, indented, String.toList_ofList, hsplit,
    List.map_append, hmoved, List.map_singleton, List.isEmpty_nil, if_pos rfl,
    intercalate_lineFeeds, List.flatMap_map, List.flatMap_map, List.flatMap_map]

end Line

/-! ## Texts without line feeds -/

section OneLine

variable {s t : String}

instance : DecidablePred OneLine := fun s => inferInstanceAs (Decidable (¬ '\n' ∈ s.toList))

@[simp] theorem oneLine_append : OneLine (s ++ t) ↔ OneLine s ∧ OneLine t := by
  simp [OneLine]

theorem oneLine_join {parts : List String} (h : ∀ part ∈ parts, OneLine part) :
    OneLine (String.join parts) := by
  rw [OneLine, String.toList_join, List.mem_flatMap]
  rintro ⟨part, hpart, hmem⟩
  exact h part hpart hmem

/-- What is joined is made of the parts and of what stands between them. -/
theorem mem_of_mem_intercalate {α : Type} {x : α} {separator : List α} {parts : List (List α)}
    (h : x ∈ separator.intercalate parts) : x ∈ separator ∨ ∃ part ∈ parts, x ∈ part := by
  induction parts with
  | nil => exact absurd h List.not_mem_nil
  | cons first rest ih =>
    cases rest with
    | nil =>
      rw [List.intercalate_singleton] at h
      exact .inr ⟨first, List.mem_cons_self, h⟩
    | cons second others =>
      rw [List.intercalate_cons_cons, List.mem_append, List.mem_append] at h
      rcases h with (h | h) | h
      · exact .inr ⟨first, List.mem_cons_self, h⟩
      · exact .inl h
      · refine (ih h).imp_right ?_
        rintro ⟨part, hpart, hx⟩
        exact ⟨part, List.mem_cons_of_mem _ hpart, hx⟩

theorem oneLine_intercalate (hs : OneLine s) {parts : List String}
    (h : ∀ part ∈ parts, OneLine part) : OneLine (s.intercalate parts) := by
  rw [OneLine, String.toList_intercalate]
  intro hmem
  rcases mem_of_mem_intercalate hmem with hmem | ⟨chars, hchars, hmem⟩
  · exact hs hmem
  · obtain ⟨part, hpart, rfl⟩ := List.mem_map.mp hchars
    exact h part hpart hmem

theorem lineFeed_notMem_toDigits (n : Nat) : '\n' ∉ Nat.toDigits 16 n := by
  have hdigit : ∀ m < 16, '\n' ≠ Nat.digitChar m := by decide
  induction n using Nat.strongRecOn with
  | ind n ih =>
    by_cases hone : n < 16
    · rw [Nat.toDigits_of_lt_base hone, List.mem_singleton]
      exact hdigit n hone
    · rw [Nat.toDigits_of_base_le (by decide) (Nat.le_of_not_lt hone), List.mem_append,
        List.mem_singleton, not_or]
      exact ⟨ih (n / 16) (by omega), hdigit (n % 16) (by omega)⟩

/-- A line feed is quoted by a letter, and characters that are quoted by their numbers need
none either. -/
theorem lineFeed_notMem_quoteChar (c : Char) : '\n' ∉ quoteChar c := by
  rw [quoteChar.eq_def]
  split
  case h_7 hfeed _ _ =>
    split
    · simpa [escapeByNumber] using lineFeed_notMem_toDigits c.toNat
    · exact fun hmem => hfeed (List.mem_singleton.mp hmem).symm
  all_goals decide

theorem oneLine_quote (s : String) : OneLine (quote s) := by
  rw [OneLine, quote, String.toList_ofList]
  simpa using fun c _ => lineFeed_notMem_quoteChar c

theorem oneLine_forModule (className : String) : OneLine (Identifier.forModule className) :=
  Identifier.notMem_forModule ⟨by decide, by decide, by decide, by decide, by decide⟩

end OneLine

/-! ### Types -/

/-- No name in the type holds a line feed. -/
def TypeRef.OneLined (type : TypeRef) : Prop := ∀ name ∈ type.names, OneLine name

instance : DecidablePred TypeRef.OneLined := fun type => List.decidableBAll OneLine type.names

/-- A way to spell names that adds no line feed. -/
def KeepsLine (spell : String → String) : Prop := ∀ name, OneLine name → OneLine (spell name)

theorem keepsLine_id : KeepsLine id := fun _ h => h

theorem ClassDecl.keepsLine_spell (c : ClassDecl) : KeepsLine c.spell := by
  intro name h
  rw [spell, spelling]
  split
  · rw [oneLine_append, oneLine_append]
    exact ⟨⟨oneLine_forModule c.name, by decide⟩, h⟩
  · exact h

theorem TypeRef.OneLined.textWith {spell : String → String} {type : TypeRef} (h : type.OneLined)
    (hspell : KeepsLine spell) : OneLine (type.textWith spell) := by
  induction type using TypeRef.induction_arguments with
  | step base arguments ih =>
    obtain ⟨hbase, harguments⟩ := TypeRef.forall_mem_names.mp h
    rw [TypeRef.textWith_eq, oneLine_append, TypeRef.bracketed]
    refine ⟨hspell base hbase, ?_⟩
    split
    · decide
    · rw [oneLine_append, oneLine_append]
      refine ⟨⟨by decide, oneLine_intercalate (by decide) ?_⟩, by decide⟩
      exact List.forall_mem_map.mpr fun argument hargument =>
        ih argument hargument (harguments argument hargument)

/-! ### Classes -/

/-- Nothing that stands on a line of the method holds a line feed. -/
structure ClassMethod.OneLined (method : ClassMethod) : Prop where
  /-- the name -/
  name : OneLine method.name
  /-- the names and types of the parameters -/
  parameters : ∀ p ∈ method.parameters, OneLine p.name ∧ p.type.OneLined
  /-- the type of the result -/
  result : ∀ type ∈ method.result, type.OneLined
  /-- the lines of the body -/
  body : ∀ line ∈ method.body, OneLine line

/-- Nothing that stands on a line of the class holds a line feed. Doc comments are cut into
lines and names on the wire are quoted, so these may hold anything. -/
structure ClassDecl.OneLined (c : ClassDecl) : Prop where
  /-- the name -/
  name : OneLine c.name
  /-- the attributes -/
  attributes : ∀ a ∈ c.attributes, OneLine a
  /-- the traits -/
  traits : ∀ type ∈ c.traits, type.OneLined
  /-- the names and types of the fields -/
  fields : ∀ field ∈ c.fields, OneLine field.name ∧ field.type.OneLined
  /-- the methods -/
  methods : ∀ method ∈ c.methods, method.OneLined

namespace Line

variable {line : Line} {lines more : List Line}

@[simp] theorem allWhole_nil : AllWhole [] := List.forall_mem_nil _

@[simp] theorem allWhole_cons : AllWhole (line :: lines) ↔ line.Whole ∧ AllWhole lines :=
  List.forall_mem_cons

@[simp] theorem allWhole_append : AllWhole (lines ++ more) ↔ AllWhole lines ∧ AllWhole more :=
  List.forall_mem_append

@[simp] theorem whole_blank : blank.Whole := trivial

@[simp] theorem whole_code {s : String} : (code 0 s).Whole ↔ OneLine s ∧ s ≠ "" := by
  simp [Whole]

theorem AllWhole.inside (h : AllWhole lines) : AllWhole (lines.map Line.inside) :=
  List.forall_mem_map.mpr fun line hline => (h line hline).inside

theorem allWhole_flatMap {α : Type} {f : α → List Line} {parts : List α}
    (h : ∀ part ∈ parts, AllWhole (f part)) : AllWhole (parts.flatMap f) := by
  intro line hline
  obtain ⟨part, hpart, hline⟩ := List.mem_flatMap.mp hline
  exact h part hpart line hline

theorem allWhole_intercalate {parts : List (List Line)} (h : ∀ part ∈ parts, AllWhole part) :
    AllWhole ([blank].intercalate parts) := by
  intro line hline
  rcases mem_of_mem_intercalate hline with hline | ⟨part, hpart, hline⟩
  · obtain rfl := List.mem_singleton.mp hline
    exact whole_blank
  · exact h part hpart line hline

end Line

open Line (AllWhole)

theorem allWhole_docLines (doc : Option String) : AllWhole (docLines doc) := by
  cases doc with
  | none => exact Line.allWhole_nil
  | some text =>
    refine List.forall_mem_map.mpr fun line hline => ?_
    split
    · exact Line.whole_code.mpr ⟨by decide, by decide⟩
    · have hend : OneLine (trimEnd line) := notMem_trimEnd (notMem_of_mem_textLines hline)
      simp +decide [hend]

theorem ClassField.allWhole_lines {spell : String → String} (hspell : KeepsLine spell)
    {field : ClassField} (hname : OneLine field.name) (htype : field.type.OneLined) :
    AllWhole (field.lines spell) := by
  have htext := htype.textWith hspell
  rw [lines]
  cases field.wireName with
  | none => simp +decide [allWhole_docLines, hname, htext]
  | some wire => simp +decide [allWhole_docLines, hname, htext, oneLine_quote]

theorem ClassMethod.OneLined.signature {spell : String → String} (hspell : KeepsLine spell)
    {method : ClassMethod} (h : method.OneLined) : OneLine (method.signature spell) := by
  have hparameters : OneLine (String.join (method.parameters.map fun p =>
      ", " ++ p.name ++ ": " ++ p.type.textWith spell)) := by
    refine oneLine_join (List.forall_mem_map.mpr fun p hp => ?_)
    obtain ⟨hname, htype⟩ := h.parameters p hp
    simp +decide [hname, htype.textWith hspell]
  have hresult := h.result
  rw [ClassMethod.signature]
  cases hreturn : method.result with
  | none => simp +decide [h.name, hparameters]
  | some type => simp +decide [h.name, hparameters, (h.result type hreturn).textWith hspell]

theorem ClassMethod.OneLined.allWhole_lines {spell : String → String} (hspell : KeepsLine spell)
    {method : ClassMethod} (h : method.OneLined) : AllWhole (method.lines spell) := by
  have hbody : AllWhole (method.body.map (.code 1 ·)) :=
    List.forall_mem_map.mpr fun line hline => ⟨h.body line hline, nofun⟩
  have hsome : method.signature spell ≠ "" := by simp [ClassMethod.signature]
  rw [ClassMethod.lines]
  simp +decide [allWhole_docLines, h.signature hspell, hsome, hbody]

namespace ClassDecl.OneLined

variable {c : ClassDecl} (h : c.OneLined)

include h

theorem allWhole_structLines : AllWhole c.structLines := by
  have hfields : AllWhole ((c.fields.flatMap (·.lines c.spell)).map Line.inside) := by
    refine (Line.allWhole_flatMap fun field hfield => ?_).inside
    obtain ⟨hname, htype⟩ := h.fields field hfield
    exact ClassField.allWhole_lines c.keepsLine_spell hname htype
  rw [structLines]
  cases c.visibility <;> split <;> simp +decide [h.name, hfields]

theorem allWhole_methodLines : AllWhole c.methodLines := by
  have hmethods : AllWhole
      (([Line.blank].intercalate (c.methods.map (·.lines c.spell))).map Line.inside) := by
    refine (Line.allWhole_intercalate (List.forall_mem_map.mpr fun method hmethod => ?_)).inside
    exact (h.methods method hmethod).allWhole_lines c.keepsLine_spell
  rw [methodLines]
  split <;> simp +decide [h.name, hmethods]

theorem allWhole_ownLines : AllWhole c.ownLines := by
  have hattributes : AllWhole (c.attributes.map fun a => .code 0 ("#[" ++ a ++ "]")) := by
    refine List.forall_mem_map.mpr fun a ha => ?_
    simp +decide [h.attributes a ha]
  have htraits : AllWhole c.traitLines := by
    refine Line.allWhole_flatMap fun type htype => ?_
    have htext : OneLine type.text := (h.traits type htype).textWith keepsLine_id
    simp +decide [h.name, htext]
  rw [ownLines]
  simp [allWhole_docLines, hattributes, h.allWhole_structLines, h.allWhole_methodLines, htraits]

theorem allWhole_moduleLines {inner : List Line} (hinner : AllWhole inner) :
    AllWhole (c.moduleLines inner) := by
  have hbody : AllWhole ((.code 0 "use super::*;" :: .blank :: inner).map Line.inside) :=
    Line.AllWhole.inside (by simp +decide [hinner])
  rw [moduleLines]
  split
  · exact Line.allWhole_nil
  · rw [Line.allWhole_append, Line.allWhole_cons, Line.allWhole_cons]
    refine ⟨⟨?_, ?_, hbody⟩, by simp +decide⟩
    · simp +decide [h.name]
    · simp +decide [moduleName, oneLine_forModule]

end ClassDecl.OneLined

namespace ClassDecl

variable {c d e : ClassDecl}

theorem Descent.trans (hd : c.Descent d) (he : d.Descent e) : c.Descent e := by
  induction he with
  | top => exact hd
  | inner _ hinner ih => exact .inner ih hinner

/-- A class is printed in whole lines, if none in its tree holds a line feed. -/
theorem allWhole_lines (c : ClassDecl) (h : ∀ d, c.Descent d → d.OneLined) : AllWhole c.lines := by
  induction c using induction_inside with
  | step c ih =>
    have hown := h c .top
    rw [lines_eq, Line.allWhole_append]
    have hinner : AllWhole (c.innerClasses.flatMap lines) :=
      Line.allWhole_flatMap fun d hd => ih d hd fun e he => h e ((Descent.top.inner hd).trans he)
    exact ⟨hown.allWhole_ownLines, hown.allWhole_moduleLines hinner⟩

/-- At a depth it is printed like alone, and moved in. -/
theorem textAt_eq_indented (h : ∀ d, c.Descent d → d.OneLined) :
    c.textAt depth = indented depth c.source := by
  rw [textAt_eq, Line.joinedAt_eq_indented (c.allWhole_lines h)]
  rfl

end ClassDecl

/-- **Printing is the same at every depth**: if the names, attributes, types and bodies of a
class and of all classes inside it hold no line feed, each of them is printed, at any depth,
as if it stood alone, with the spaces of the depth in front of every line that is not empty.
So its module holds the classes directly inside the way they are printed alone, in their
order, and moved in. -/
theorem printed_alike_at_every_depth {c d : ClassDecl} (h : ∀ e, c.Descent e → e.OneLined)
    (hd : c.Descent d) (depth : Nat) :
    d.source = d.textAt 0 ∧ d.textAt depth = indented depth d.source ∧
      d.textAt depth = d.ownTextAt depth ++ d.moduleTextAt depth
        (String.join (d.innerClasses.map fun e => indented (depth + 1) e.source)) := by
  have hinside : ∀ e, d.Descent e → e.OneLined := fun e he => h e (hd.trans he)
  refine ⟨?_, ClassDecl.textAt_eq_indented hinside, ?_⟩
  · rw [ClassDecl.textAt_eq, Line.joinedAt_zero]
    rfl
  · have hinner : d.innerClasses.map (ClassDecl.textAt (depth + 1)) =
        d.innerClasses.map fun e => indented (depth + 1) e.source := by
      refine List.map_congr_left fun e he => ClassDecl.textAt_eq_indented fun f hf => ?_
      exact hinside f ((ClassDecl.Descent.top.inner he).trans hf)
    rw [ClassDecl.textAt_eq_own_module, hinner]

/-- The owner of a pet, described in two lines. -/
def ClassDecl.petOwner : ClassDecl where
  name := "NestedClass1"
  doc := some "The owner.\n\nMay be away.\n"
  members := [.field { name := "email", type := ⟨"String", []⟩, wireName := some "e\nmail" }]

/-- A pet, with its owner inside. -/
def ClassDecl.ownedPet : ClassDecl where
  name := "Pet"
  attributes := ["derive(Debug)"]
  members := [.field { name := "owner", type := ⟨"NestedClass1", []⟩ }, .inner .petOwner,
    .method { name := "name", result := some ⟨"String", []⟩, body := ["String::new()"] }]

theorem ClassDecl.oneLined_of_descent_ownedPet {e : ClassDecl} (h : ownedPet.Descent e) :
    e.OneLined := by
  have hall : e = ownedPet ∨ e = petOwner := by
    induction h with
    | top => exact .inl rfl
    | inner _ hinner ih =>
      rcases ih with rfl | rfl
      · exact .inr (List.mem_singleton.mp hinner)
      · exact absurd hinner List.not_mem_nil
  have hmethod : ClassMethod.OneLined
      { name := "name", result := some ⟨"String", []⟩, body := ["String::new()"] } :=
    ⟨by decide, List.forall_mem_nil _, by decide, by decide⟩
  rcases hall with rfl | rfl
  · exact ⟨by decide, by decide, List.forall_mem_nil _, by decide,
      List.forall_mem_singleton.mpr hmethod⟩
  · exact ⟨by decide, by decide, List.forall_mem_nil _, by decide, List.forall_mem_nil _⟩

/-- The owner is printed inside as it is printed alone, although its comment and the name of
its field on the wire hold line feeds. -/
theorem owner_printed_inside : ClassDecl.ownedPet.Descent .petOwner ∧
    ClassDecl.petOwner.textAt 1 = indented 1 ClassDecl.petOwner.source ∧
    ClassDecl.ownedPet.textAt 0 = ClassDecl.ownedPet.ownTextAt 0 ++
      ClassDecl.ownedPet.moduleTextAt 0 (indented 1 ClassDecl.petOwner.source) := by
  have howner : ClassDecl.ownedPet.Descent .petOwner := .inner .top List.mem_cons_self
  obtain ⟨-, halone, -⟩ :=
    printed_alike_at_every_depth (fun _ => ClassDecl.oneLined_of_descent_ownedPet) howner 1
  obtain ⟨-, -, hmodule⟩ :=
    printed_alike_at_every_depth (fun _ => ClassDecl.oneLined_of_descent_ownedPet) .top 0
  have hinner : ClassDecl.ownedPet.innerClasses = [.petOwner] := rfl
  rw [hinner, List.map_singleton, String.join_cons, String.join_nil, String.append_empty] at hmodule
  exact ⟨howner, halone, hmodule⟩

end ApiClasses
