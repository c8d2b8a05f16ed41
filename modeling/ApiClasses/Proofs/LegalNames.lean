import ApiClasses.Proofs.FieldNames
import ApiClasses.Proofs.Words

/-!
# Which names are legal

Keys can hold anything, but classes and members called after them need names that the generated
language accepts: words of a certain spelling that it does not keep for itself. For keys in
ASCII it can be said which names are accepted.

A class name is spelled as it has to be, and it never starts with a small letter. All words that
the language keeps do, with one exception: `Self`. Nothing makes sure that a class is not called
so, and it is if nothing else is left of its key (`class_names_legal_iff`).

A member name is in small letters throughout. Here the kept words are avoided, each in one of
two ways, and what is added makes no other kept word. But of some keys nothing is left, and then
the mark that stands for them is the whole name (`member_names_legal`).
-/

namespace ApiClasses.Identifier

/-! ## Class names -/

section Classes

variable {name word : List Char} {initial : Bool} {d : Char} {rest : List Char}

/-- In ASCII, the capital form of a letter or numeral is no small letter. -/
theorem toUpper_of_ascii {c : Char} (hascii : c.toNat < 0x80) (hc : isAlphanumeric c = true) :
    c.toUpper.isAlphanum = true ∧ c.toUpper.isLower = false :=
  forall_ascii (P := fun c => isAlphanumeric c = true →
    c.toUpper.isAlphanum = true ∧ c.toUpper.isLower = false) (by decide +kernel) hascii hc

/-- Parts run together are made of letters and digits… -/
theorem isAlphanum_of_mem_pascalChars (hascii : ∀ c ∈ name, c.toNat < 0x80)
    (hd : d ∈ pascalChars initial name) : d.isAlphanum = true := by
  induction name generalizing initial with
  | nil => exact absurd hd List.not_mem_nil
  | cons c cs ih =>
    obtain ⟨hc, hcs⟩ := List.forall_mem_cons.mp hascii
    cases hletter : isAlphanumeric c with
    | false =>
      rw [pascalChars_separator initial hletter] at hd
      exact ih hcs hd
    | true =>
      cases initial with
      | true =>
        rw [pascalChars_initial hletter, capital_of_ascii hc, List.singleton_append] at hd
        rcases List.mem_cons.mp hd with rfl | hd
        · exact (toUpper_of_ascii hc hletter).1
        · exact ih hcs hd
      | false =>
        rw [pascalChars_later hletter] at hd
        rcases List.mem_cons.mp hd with rfl | hd
        · exact isAlphanumeric_of_ascii hc ▸ hletter
        · exact ih hcs hd

/-- …and nothing is left of separators alone. -/
theorem pascalChars_eq_nil_iff :
    pascalChars initial name = [] ↔ ∀ c ∈ name, isAlphanumeric c = false := by
  induction name generalizing initial with
  | nil => simp [pascalChars]
  | cons c cs ih =>
    rw [List.forall_mem_cons]
    cases hletter : isAlphanumeric c with
    | false => simp [pascalChars_separator initial hletter, ih]
    | true =>
      cases initial <;> simp [pascalChars_initial, pascalChars_later, hletter, capital_ne_nil]

/-- Separators in front leave no trace. -/
theorem pascalChars_append {before : List Char} (h : ∀ c ∈ before, isAlphanumeric c = false)
    (rest : List Char) : pascalChars true (before ++ rest) = pascalChars true rest := by
  induction before with
  | nil => rfl
  | cons c cs ih =>
    obtain ⟨hc, hcs⟩ := List.forall_mem_cons.mp h
    rw [List.cons_append, pascalChars_separator true hc, ih hcs]

/-- What is left starts with the capital form of the first letter or numeral. -/
theorem exists_initial (h : pascalChars true name = d :: rest) :
    ∃ before c after, name = before ++ c :: after ∧
      (∀ x ∈ before, isAlphanumeric x = false) ∧ isAlphanumeric c = true ∧
      capital c ++ pascalChars false after = d :: rest := by
  induction name with
  | nil => cases h
  | cons c cs ih =>
    cases hletter : isAlphanumeric c with
    | false =>
      rw [pascalChars_separator true hletter] at h
      obtain ⟨before, first, after, rfl, hbefore, hrest⟩ := ih h
      exact ⟨c :: before, first, after, rfl, List.forall_mem_cons.mpr ⟨hletter, hbefore⟩, hrest⟩
    | true =>
      rw [pascalChars_initial hletter] at h
      exact ⟨[], c, cs, rfl, List.forall_mem_nil _, hletter, h⟩

/-- In ASCII, no small letter comes first. -/
theorem isLower_head_pascalChars (hascii : ∀ c ∈ name, c.toNat < 0x80)
    (h : pascalChars true name = d :: rest) : d.isLower = false := by
  obtain ⟨before, c, after, rfl, -, hletter, hrest⟩ := exists_initial h
  have hc : c.toNat < 0x80 := hascii c (List.mem_append_right _ List.mem_cons_self)
  rw [capital_of_ascii hc, List.singleton_append] at hrest
  obtain rfl := (List.cons.inj hrest).1
  exact (toUpper_of_ascii hc hletter).2

/-- Small letters are left only of themselves: a separator before one would make it a capital. -/
theorem exists_of_pascalChars_false (hascii : ∀ c ∈ name, c.toNat < 0x80)
    (hword : ∀ c ∈ word, c.isLower = true) (h : pascalChars false name = word) :
    ∃ after, name = word ++ after ∧ ∀ c ∈ after, isAlphanumeric c = false := by
  induction name generalizing word with
  | nil =>
    obtain rfl : word = [] := h.symm
    exact ⟨[], rfl, List.forall_mem_nil _⟩
  | cons c cs ih =>
    obtain ⟨hc, hcs⟩ := List.forall_mem_cons.mp hascii
    cases hletter : isAlphanumeric c with
    | false =>
      rw [pascalChars_separator false hletter] at h
      cases word with
      | nil =>
        exact ⟨c :: cs, rfl, List.forall_mem_cons.mpr ⟨hletter, pascalChars_eq_nil_iff.mp h⟩⟩
      | cons first others =>
        have hfirst := isLower_head_pascalChars hcs h
        cases hfirst.symm.trans (hword first List.mem_cons_self)
    | true =>
      rw [pascalChars_later hletter] at h
      subst h
      obtain ⟨after, hafter, hseparators⟩ := ih hcs (List.forall_mem_cons.mp hword).2 rfl
      exact ⟨after, congrArg (c :: ·) hafter, hseparators⟩

end Classes

variable {name className word : String}

theorem exists_toList_eq_cons (h : name ≠ "") : ∃ first rest, name.toList = first :: rest :=
  List.exists_cons_of_ne_nil fun hnil => h (String.toList_inj.mp hnil)

/-- Nothing but the word `self`, with a small or a capital initial, is left of the name. -/
def LeavesSelf (name : String) : Prop :=
  ∃ before word after, name.toList = before ++ word ++ after ∧
    (∀ c ∈ before ++ after, isAlphanumeric c = false) ∧
    (word = ['s', 'e', 'l', 'f'] ∨ word = ['S', 'e', 'l', 'f'])

/-- The class name is `Self` exactly if nothing but this word is left. -/
theorem pascal_eq_self_iff (hascii : Ascii name) : pascal name = "Self" ↔ LeavesSelf name := by
  have hself : "Self".toList = ['S', 'e', 'l', 'f'] := by decide
  rw [← String.toList_inj, toList_pascal, hself]
  constructor
  · intro h
    obtain ⟨before, c, rest, hname, hbefore, -, hrest⟩ := exists_initial h
    have hsplit : ∀ x ∈ before ++ c :: rest, x.toNat < 0x80 := hname ▸ hascii
    obtain ⟨-, hc, hlater⟩ := by
      rwa [List.forall_mem_append, List.forall_mem_cons] at hsplit
    rw [capital_of_ascii hc, List.singleton_append] at hrest
    obtain ⟨hupper, hrest⟩ := List.cons.inj hrest
    have hlower : ∀ c ∈ ['e', 'l', 'f'], c.isLower = true := List.all_eq_true.mp (by decide)
    obtain ⟨after, rfl, hafter⟩ := exists_of_pascalChars_false hlater hlower hrest
    have hinitial : c = 's' ∨ c = 'S' :=
      forall_ascii (P := fun c => c.toUpper = 'S' → c = 's' ∨ c = 'S') (by decide +kernel) hc hupper
    refine ⟨before, c :: ['e', 'l', 'f'], after, ?_,
      List.forall_mem_append.mpr ⟨hbefore, hafter⟩, ?_⟩
    · rw [hname, List.append_assoc]
      rfl
    · rcases hinitial with rfl | rfl
      · exact .inl rfl
      · exact .inr rfl
  · rintro ⟨before, word, after, hname, hseparators, hword⟩
    obtain ⟨hbefore, hafter⟩ := List.forall_mem_append.mp hseparators
    have hrest : pascalChars false after = [] := pascalChars_eq_nil_iff.mpr hafter
    have hletters : isAlphanumeric 's' = true ∧ isAlphanumeric 'S' = true ∧
        isAlphanumeric 'e' = true ∧ isAlphanumeric 'l' = true ∧ isAlphanumeric 'f' = true := by
      decide
    have hcapitals : capital 's' = ['S'] ∧ capital 'S' = ['S'] := by decide
    rw [hname, List.append_assoc, pascalChars_append hbefore]
    rcases hword with rfl | rfl <;> simp [pascalChars, hletters, hcapitals, hrest]

/-- A class can be called so: a letter or the mark, then letters and digits, but neither the
mark alone nor a word that the language keeps. -/
structure ClassName (name : String) : Prop where
  /-- it is spelled like this -/
  spelling : ∃ first rest, name.toList = first :: rest ∧
    (first.isAlpha = true ∨ first = '_') ∧ ∀ c ∈ rest, c.isAlphanum = true
  /-- something comes after a mark -/
  notBlank : name ≠ "_"
  /-- it is not kept -/
  free : name ∉ keywords ∧ name ∉ unmarkable

/-- The words that the language keeps start with small letters, but for `Self`. -/
theorem isLower_of_kept (hword : word ∈ keywords ++ unmarkable) (hself : word ≠ "Self")
    {first : Char} {rest : List Char} (hchars : word.toList = first :: rest) :
    first.isLower = true := by
  have hall : ∀ word ∈ keywords ++ unmarkable,
      word ≠ "Self" → word.toList.head?.any Char.isLower = true := by
    decide +kernel
  have hfirst := hall word hword hself
  rwa [hchars] at hfirst

/-- Parts run together, as a class name. -/
theorem className_of_pascal {first : Char} {rest : List Char} (hascii : Ascii name)
    (hchars : (pascal name).toList = first :: rest) (hdigit : first.isDigit = false) :
    ClassName (pascal name) ↔ pascal name ≠ "Self" := by
  have hpascal := (toList_pascal name).symm.trans hchars
  have halphanum {c : Char} (hc : c ∈ first :: rest) : c.isAlphanum = true :=
    isAlphanum_of_mem_pascalChars hascii (hpascal ▸ hc)
  constructor
  · intro h hself
    exact h.free.2 (by rw [hself]; decide)
  · intro hself
    have hfirst := halphanum List.mem_cons_self
    have hfree : pascal name ∉ keywords ++ unmarkable := by
      intro hword
      cases (isLower_head_pascalChars hascii hpascal).symm.trans
        (isLower_of_kept hword hself hchars)
    rw [List.mem_append, not_or] at hfree
    refine ⟨⟨first, rest, hchars, .inl ?_, fun c hc => halphanum (List.mem_cons_of_mem _ hc)⟩,
      ?_, hfree⟩
    · rwa [Char.isAlphanum, hdigit, Bool.or_false] at hfirst
    · intro hblank
      rw [hblank] at hchars
      obtain rfl := (List.cons.inj hchars).1
      cases hfirst

/-- After a mark, they are a class name in any case. -/
theorem className_of_mark {first : Char} {rest : List Char} (hascii : Ascii name)
    (hchars : (pascal name).toList = first :: rest) : ClassName ("_" ++ pascal name) := by
  have hpascal := (toList_pascal name).symm.trans hchars
  have hmarked : ("_" ++ pascal name).toList = '_' :: first :: rest := by
    rw [String.toList_append, hchars]
    rfl
  have hfree : "_" ++ pascal name ∉ keywords ++ unmarkable := by
    intro hword
    refine mark_notMem_kept hword ?_
    rw [hmarked]
    exact List.mem_cons_self
  rw [List.mem_append, not_or] at hfree
  refine ⟨⟨'_', first :: rest, hmarked, .inr rfl, fun c hc => ?_⟩, ?_, hfree⟩
  · exact isAlphanum_of_mem_pascalChars hascii (hpascal ▸ hc)
  · intro hblank
    rw [hblank] at hmarked
    cases hmarked

/-- **Class names are legal, but for one**: of a name in ASCII that gives a class name, the class
can be called so, unless nothing but the word `self` is left of it. -/
theorem class_names_legal_iff (hascii : Ascii name) (h : forClass? name = some className) :
    ClassName className ↔ ¬ LeavesSelf name := by
  rw [← pascal_eq_self_iff hascii]
  obtain ⟨hsome, hform⟩ := forClass?_eq_some h
  obtain ⟨first, rest, hchars⟩ := exists_toList_eq_cons hsome
  rcases hform with ⟨hdigit, rfl⟩ | ⟨hdigit, rfl⟩
  · refine iff_of_true (className_of_mark hascii hchars) ?_
    intro hself
    rw [hself] at hdigit
    exact absurd hdigit (by decide)
  · refine className_of_pascal hascii hchars ?_
    rwa [startsWithDigit, hchars] at hdigit

/-- A key that starts with a digit gives a class name that is not `Self`. -/
theorem model_class_legal : Ascii "3d-model" ∧ forClass? "3d-model" = some "_3dModel" ∧
    ClassName "_3dModel" ∧ ¬ LeavesSelf "3d-model" := by
  have hascii : Ascii "3d-model" := by decide
  have hname : forClass? "3d-model" = some "_3dModel" := by decide
  have hlegal : ClassName "_3dModel" := by
    refine ⟨⟨'_', "3dModel".toList, by decide, .inr rfl, ?_⟩, by decide, by decide, by decide⟩
    exact List.all_eq_true.mp (by decide)
  exact ⟨hascii, hname, hlegal, (class_names_legal_iff hascii hname).mp hlegal⟩

/-- The key `self` gives a class name that the language keeps. -/
theorem self_class_kept : Ascii "self" ∧ forClass? "self" = some "Self" ∧ ¬ ClassName "Self" :=
  ⟨by decide, by decide, fun h => h.free.2 (by decide)⟩

/-! ## Member names -/

/-- A small letter or the mark, then more of these and digits. -/
def SmallWord (stem : String) : Prop :=
  ∃ first rest, stem.toList = first :: rest ∧ (first.isLower = true ∨ first = '_') ∧
    ∀ c ∈ rest, c.isLower = true ∨ c.isDigit = true ∨ c = '_'

/-- A field, a method or a module can be called so, up to the mark alone. -/
structure MemberName (name : String) : Prop where
  /-- it is a word in small letters, with the raw marker or without it -/
  spelling : ∃ stem, Spells stem name ∧ SmallWord stem
  /-- it is not kept as it stands -/
  free : name ∉ keywords ∧ name ∉ unmarkable
  /-- the marker is not put before a word that cannot carry it -/
  markable : ∀ word ∈ unmarkable, name ≠ rawMarker ++ word

/-- The small form of a name in ASCII is made of small letters, digits and marks. -/
theorem forms_of_mem_snake (hascii : Ascii name) {d : Char} (hd : d ∈ (snake name).toList) :
    d.isLower = true ∨ d.isDigit = true ∨ d = '_' := by
  by_cases hmark : d = '_'
  · exact .inr (.inr hmark)
  · have hkept : d ∈ (snake name).toList.filter (· != '_') :=
      List.mem_filter.mpr ⟨hd, bne_iff_ne.mpr hmark⟩
    rw [toList_snake, filter_snakeChars] at hkept
    obtain ⟨c, hc, hsmall⟩ := List.mem_flatMap.mp hkept
    obtain ⟨hmem, hletter⟩ := List.mem_filter.mp hc
    rw [small_of_ascii (hascii c hmem), List.mem_singleton] at hsmall
    have hlower : c.toLower.isLower = true ∨ c.toLower.isDigit = true :=
      forall_ascii (P := fun c => isAlphanumeric c = true →
        c.toLower.isLower = true ∨ c.toLower.isDigit = true) (by decide +kernel)
        (hascii c hmem) hletter
    rw [hsmall]
    exact hlower.imp_right .inl

/-- It starts with a small letter or a digit. -/
theorem exists_snake_eq (hascii : Ascii name) (hsome : snake name ≠ "") :
    ∃ first rest, (snake name).toList = first :: rest ∧
      (first.isLower = true ∨ first.isDigit = true) := by
  obtain ⟨first, rest, hchars⟩ := exists_toList_eq_cons hsome
  refine ⟨first, rest, hchars, ?_⟩
  have hneat : Neat (snake name).toList := by
    rw [toList_snake]
    exact neat_snakeChars name.toList
  rcases forms_of_mem_snake hascii (hchars ▸ List.mem_cons_self) with hlower | hdigit | rfl
  · exact .inl hlower
  · exact .inr hdigit
  · exact absurd (congrArg List.head? hchars) hneat.first

/-- If it does not start with a digit, it is a word… -/
theorem smallWord_snake (hascii : Ascii name) (hsome : snake name ≠ "")
    (hdigit : startsWithDigit (snake name) = false) : SmallWord (snake name) := by
  obtain ⟨first, rest, hchars, hlower | hfirst⟩ := exists_snake_eq hascii hsome
  · refine ⟨first, rest, hchars, .inl hlower, fun c hc => ?_⟩
    exact forms_of_mem_snake hascii (hchars ▸ List.mem_cons_of_mem _ hc)
  · rw [startsWithDigit, hchars] at hdigit
    cases hfirst.symm.trans hdigit

/-- …and with a mark in front it always is one. -/
theorem smallWord_mark (hascii : Ascii name) : SmallWord ("_" ++ snake name) := by
  refine ⟨'_', (snake name).toList, ?_, .inr rfl, fun c hc => forms_of_mem_snake hascii hc⟩
  rw [String.toList_append]
  rfl

/-- A mark can be added at the end. -/
theorem SmallWord.mark {stem : String} (h : SmallWord stem) : SmallWord (stem ++ "_") := by
  obtain ⟨first, rest, hchars, hfirst, hrest⟩ := h
  refine ⟨first, rest ++ ['_'], ?_, hfirst, ?_⟩
  · rw [String.toList_append, hchars]
    rfl
  · exact List.forall_mem_append.mpr ⟨hrest, List.forall_mem_singleton.mpr (.inr (.inr rfl))⟩

/-- A member name is a word in small letters, with the raw marker or without it. -/
theorem exists_smallWord (hascii : Ascii name) :
    ∃ stem, Spells stem (forMember name) ∧ SmallWord stem := by
  have hform := escaped_forMember name
  generalize forMember name = member at hform
  cases hform with
  | blank => exact ⟨"_", .plain, '_', [], by decide, .inr rfl, List.forall_mem_nil _⟩
  | digit => exact ⟨_, .plain, smallWord_mark hascii⟩
  | unmarkable hsome hdigit => exact ⟨_, .plain, (smallWord_snake hascii hsome hdigit).mark⟩
  | keyword hsome hdigit => exact ⟨_, .marked, smallWord_snake hascii hsome hdigit⟩
  | plain hsome hdigit => exact ⟨_, .plain, smallWord_snake hascii hsome hdigit⟩

/-- The mark alone is the name exactly if there is nothing to put it to. -/
theorem forMember_eq_mark_iff (hascii : Ascii name) :
    forMember name = "_" ↔ ∀ c ∈ name.toList, isAlphanumeric c = false := by
  rw [← snakeChars_eq_nil_iff]
  have hblank : snakeChars name.toList = [] ↔ snake name = "" := by
    rw [← String.toList_inj, toList_snake]
    rfl
  have hform := escaped_forMember name
  rw [hblank]
  generalize forMember name = member at hform
  cases hform with
  | blank hnone => exact iff_of_true rfl hnone
  | digit hsome => simp [hsome]
  | unmarkable hsome => simp [hsome]
  | keyword hsome =>
    refine iff_of_false (fun hmark => ?_) hsome
    have hchars := congrArg String.toList hmark
    rw [String.toList_append, toList_rawMarker] at hchars
    exact absurd (List.cons.inj hchars).1 (by decide)
  | plain hsome =>
    refine iff_of_false (fun hmark => ?_) hsome
    obtain ⟨first, rest, hchars, hfirst⟩ := exists_snake_eq hascii hsome
    rw [hmark] at hchars
    obtain rfl := (List.cons.inj hchars).1
    exact absurd hfirst (by decide)

/-- **Member names are legal, but for the blank one**: a field, a method or a module can be
called by the member name for a name in ASCII, unless this has no letters and digits; only then
the member name is the mark alone. -/
theorem member_names_legal (hascii : Ascii name) :
    MemberName (forMember name) ∧
      (forMember name = "_" ↔ ∀ c ∈ name.toList, isAlphanumeric c = false) := by
  refine ⟨⟨exists_smallWord hascii, ?_, ?_⟩, forMember_eq_mark_iff hascii⟩
  · rw [← not_or, ← List.mem_append]
    exact forMember_notMem_kept
  · intro word hword hmarked
    exact (keyword_of_forMember hmarked).2 hword

/-- A kept word that cannot carry the marker has a legal member name. -/
theorem crate_member_legal : Ascii "Crate" ∧ forMember "Crate" = "crate_" ∧
    MemberName "crate_" ∧ ¬ ∀ c ∈ "Crate".toList, isAlphanumeric c = false := by
  have hascii : Ascii "Crate" := by decide
  have hmember : forMember "Crate" = "crate_" := by decide
  obtain ⟨hlegal, hblank⟩ := member_names_legal hascii
  rw [hmember] at hlegal hblank
  exact ⟨hascii, hmember, hlegal, fun hnone => absurd (hblank.mpr hnone) (by decide)⟩

/-- Of a row of dashes, only the mark is left. -/
theorem dashes_member_blank : ¬ ∀ name, Ascii name → MemberName (forMember name) ∧
    forMember name ≠ "_" := by
  intro h
  exact (h "--" (by decide)).2 (by decide)

end ApiClasses.Identifier
