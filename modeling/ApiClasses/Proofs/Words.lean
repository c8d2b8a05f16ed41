import ApiClasses.Proofs.SmallLetters

/-!
# Small forms are tidy

What the scanner writes are the words of a name in small letters, with an underscore between
any two (`toList_snake`). No word is empty and no letter becomes an underscore. So underscores
stand between words only: never first, never last and never side by side (`neat_snakeChars`).
Without them the letters and numerals of the name are left, each in its own small form. All
this holds in every script.

The small form of a small form is another matter, because the small form of a letter need not
be made of letters: that of the capital I with a dot is an i and a mark that counts as neither
letter nor numeral, and the mark gets lost the second time. Letters of ASCII settle at once
(`settled_of_ascii`). A joined text of settled characters has the words it was joined from
(`words_intercalate`), so within ASCII the small form is final.
-/

namespace ApiClasses

/-! ## Characters in small form -/

/-- A letter or numeral that is no capital, and its own small form. -/
structure Settled (c : Char) : Prop where
  /-- it is no separator -/
  alphanumeric : isAlphanumeric c = true
  /-- no word starts at it -/
  notCapital : isCapital c = false
  /-- it stays as it is -/
  small : small c = [c]

/-- The small forms of ASCII are settled. -/
theorem settled_of_ascii {c d : Char} (hascii : c.toNat < 0x80) (hc : isAlphanumeric c = true)
    (hd : d ∈ small c) : Settled d := by
  have hlower : isAlphanumeric c = true → isAlphanumeric c.toLower = true ∧
      isCapital c.toLower = false ∧ small c.toLower = [c.toLower] :=
    forall_ascii (P := fun c => isAlphanumeric c = true → isAlphanumeric c.toLower = true ∧
      isCapital c.toLower = false ∧ small c.toLower = [c.toLower]) (by decide +kernel) hascii
  rw [small_of_ascii hascii, List.mem_singleton] at hd
  subst hd
  obtain ⟨halphanumeric, hcapital, hsmall⟩ := hlower hc
  exact ⟨halphanumeric, hcapital, hsmall⟩

namespace Identifier

/-! ## Underscores between parts -/

/-- Underscores stand inside only, and apart from each other. -/
structure Neat (chars : List Char) : Prop where
  /-- the first character is none -/
  first : chars.head? ≠ some '_'
  /-- the last character is none -/
  last : chars.getLast? ≠ some '_'
  /-- no two are side by side -/
  apart : ¬ ['_', '_'] <:+: chars

/-- Without any underscore, nothing can be wrong with them. -/
theorem neat_of_notMem {chars : List Char} (h : '_' ∉ chars) : Neat chars where
  first hfirst := h (List.mem_of_mem_head? hfirst)
  last hlast := h (List.mem_of_getLast? hlast)
  apart hdouble := h (hdouble.subset List.mem_cons_self)

/-- One more part can be put in front. -/
theorem Neat.join {part rest : List Char} (hpart : part ≠ []) (hmark : '_' ∉ part)
    (hrest : rest ≠ []) (h : Neat rest) : Neat (part ++ '_' :: rest) where
  first := by
    rw [List.head?_append_of_ne_nil part hpart]
    exact fun hfirst => hmark (List.mem_of_mem_head? hfirst)
  last := by
    obtain ⟨c, cs, rfl⟩ := List.exists_cons_of_ne_nil hrest
    rw [List.getLast?_append_cons, List.getLast?_cons_cons]
    exact h.last
  apart := by
    clear hpart
    induction part with
    | nil =>
      rw [List.nil_append, List.infix_cons_iff, List.cons_prefix_cons]
      rintro (⟨-, hprefix⟩ | hdouble)
      · obtain ⟨after, rfl⟩ := hprefix
        exact h.first rfl
      · exact h.apart hdouble
    | cons c cs ih =>
      obtain ⟨hc, hcs⟩ := not_or.mp (hmark ∘ List.mem_cons.mpr)
      rw [List.cons_append, List.infix_cons_iff, List.cons_prefix_cons]
      rintro (⟨hsame, -⟩ | hdouble)
      · exact hc hsame
      · exact ih hcs hdouble

theorem intercalate_ne_nil {separator : List Char} {part : List Char} (hpart : part ≠ [])
    (rest : List (List Char)) : separator.intercalate (part :: rest) ≠ [] := by
  cases rest with
  | nil => simpa using hpart
  | cons next others => simp [List.intercalate_cons_cons, hpart]

/-- Parts that are neither empty nor broken by an underscore are joined neatly. -/
theorem neat_intercalate {parts : List (List Char)}
    (h : ∀ part ∈ parts, part ≠ [] ∧ '_' ∉ part) : Neat (['_'].intercalate parts) := by
  induction parts with
  | nil => exact neat_of_notMem List.not_mem_nil
  | cons part rest ih =>
    obtain ⟨⟨hpart, hmark⟩, hrest⟩ := List.forall_mem_cons.mp h
    cases rest with
    | nil =>
      rw [List.intercalate_singleton]
      exact neat_of_notMem hmark
    | cons next others =>
      rw [List.intercalate_cons_cons, List.append_assoc, List.singleton_append]
      have hjoined : ['_'].intercalate (next :: others) ≠ [] :=
        intercalate_ne_nil (hrest next List.mem_cons_self).1 others
      exact (ih hrest).join hpart hmark hjoined

/-! ## Words -/

variable {name word : List Char} {c : Char}

/-- Words are made of letters and numerals. -/
theorem isAlphanumeric_of_mem_words (hword : word ∈ words name) (hc : c ∈ word) :
    c ∈ name.filter isAlphanumeric :=
  flatten_words name ▸ List.mem_flatten.mpr ⟨word, hword, hc⟩

/-- A word in small letters is neither empty nor broken by an underscore. -/
theorem small_of_mem_words (hword : word ∈ words name) :
    word.flatMap small ≠ [] ∧ '_' ∉ word.flatMap small := by
  constructor
  · obtain ⟨c, cs, rfl⟩ := List.exists_cons_of_ne_nil (ne_nil_of_mem_words hword)
    simp [small_ne_nil c]
  · intro hmark
    obtain ⟨c, hc, hmark⟩ := List.mem_flatMap.mp hmark
    have hletter := (List.mem_filter.mp (isAlphanumeric_of_mem_words hword hc)).2
    exact underscore_notMem_small hletter hmark

/-- Underscores stand between words only. -/
theorem neat_snakeChars (name : List Char) : Neat (snakeChars name) := by
  refine neat_intercalate fun part hpart => ?_
  obtain ⟨word, hword, rfl⟩ := List.mem_map.mp hpart
  exact small_of_mem_words hword

/-- Nothing is left exactly of a name without letters and numerals. -/
theorem snakeChars_eq_nil_iff : snakeChars name = [] ↔ ∀ c ∈ name, isAlphanumeric c = false := by
  have hkept := filter_snakeChars name
  constructor
  · intro hnil c hc
    rw [hnil, List.filter_nil, eq_comm, List.flatMap_eq_nil_iff] at hkept
    refine Bool.eq_false_iff.mpr fun hletter => ?_
    exact small_ne_nil c (hkept c (List.mem_filter.mpr ⟨hc, hletter⟩))
  · intro hnone
    have hletters : name.filter isAlphanumeric = [] :=
      List.filter_eq_nil_iff.mpr fun c hc => Bool.eq_false_iff.mp (hnone c hc)
    rw [hletters, List.flatMap_nil, List.filter_eq_nil_iff] at hkept
    -- nothing but underscores could be left, and they do not come first
    rcases hchars : snakeChars name with _ | ⟨first, rest⟩
    · rfl
    · have hneat := (neat_snakeChars name).first
      rw [hchars] at hneat hkept
      exact absurd (bne_iff_ne.mpr (hneat ∘ congrArg some)) (hkept first List.mem_cons_self)

/-! ## Small forms of small forms -/

/-- Where no capital is, no word starts. -/
theorem pieces_of_settled {before : Option Char} (h : ∀ c ∈ word, Settled c) :
    pieces before word = (word, []) := by
  induction word generalizing before with
  | nil => rfl
  | cons c cs ih =>
    obtain ⟨hc, hcs⟩ := List.forall_mem_cons.mp h
    have hstart : startsWord before c cs.head? = false := by
      cases before <;> simp [startsWord, hc.notCapital]
    simp [pieces, ih hcs, hc.alphanumeric, hstart]

/-- An underscore ends the word under way. -/
theorem pieces_append_mark {before : Option Char} (h : ∀ c ∈ word, Settled c)
    (rest : List Char) : pieces before (word ++ '_' :: rest) =
      (word, (pieces (some '_') rest).1 :: (pieces (some '_') rest).2) := by
  induction word generalizing before with
  | nil =>
    have hmark : isAlphanumeric '_' = false := by decide
    simp [pieces, hmark]
  | cons c cs ih =>
    obtain ⟨hc, hcs⟩ := List.forall_mem_cons.mp h
    have hstart (after : Option Char) : startsWord before c after = false := by
      cases before <;> simp [startsWord, hc.notCapital]
    simp [pieces, ih hcs, hc.alphanumeric, hstart]

/-- The pieces of a joined text are what it was joined from. -/
theorem pieces_intercalate {first : List Char} {others : List (List Char)}
    (h : ∀ part ∈ first :: others, ∀ c ∈ part, Settled c) (before : Option Char) :
    pieces before (['_'].intercalate (first :: others)) = (first, others) := by
  induction others generalizing first before with
  | nil =>
    rw [List.intercalate_singleton]
    exact pieces_of_settled (h first List.mem_cons_self)
  | cons second others ih =>
    obtain ⟨hfirst, hothers⟩ := List.forall_mem_cons.mp h
    rw [List.intercalate_cons_cons, List.append_assoc, List.singleton_append,
      pieces_append_mark hfirst, ih hothers]

/-- So are its words. -/
theorem words_intercalate {parts : List (List Char)}
    (h : ∀ part ∈ parts, part ≠ [] ∧ ∀ c ∈ part, Settled c) :
    words (['_'].intercalate parts) = parts := by
  cases parts with
  | nil => rfl
  | cons first others =>
    rw [words, pieces_intercalate fun part hpart => (h part hpart).2]
    refine List.filter_eq_self.mpr fun part hpart => ?_
    simpa using (h part hpart).1

/-- Where all letters and numerals settle, the small form is final. -/
theorem snakeChars_snakeChars
    (h : ∀ c ∈ name.filter isAlphanumeric, ∀ d ∈ small c, Settled d) :
    snakeChars (snakeChars name) = snakeChars name := by
  have hsettled (word) (hword : word ∈ words name) : ∀ d ∈ word.flatMap small, Settled d := by
    intro d hd
    obtain ⟨c, hc, hd⟩ := List.mem_flatMap.mp hd
    exact h c (isAlphanumeric_of_mem_words hword hc) d hd
  have hwords : words (snakeChars name) = (words name).map (·.flatMap small) := by
    refine words_intercalate fun part hpart => ?_
    obtain ⟨word, hword, rfl⟩ := List.mem_map.mp hpart
    exact ⟨(small_of_mem_words hword).1, hsettled word hword⟩
  rw [snakeChars, hwords, List.map_map, snakeChars]
  refine congrArg _ (List.map_congr_left fun word hword => ?_)
  rw [Function.comp_apply, List.flatMap_congr fun d hd => (hsettled word hword d hd).small,
    List.flatMap_singleton']

/-- **Small forms are tidy**: in the small form of a name, no underscore comes first, last or
next to another one, and without the underscores it is the letters and numerals of the name in
order, each in its small form. The small form of a name in ASCII is its own small form. -/
theorem snake_tidy (name : String) :
    Neat (snake name).toList ∧
      (snake name).toList.filter (· != '_') = (name.toList.filter isAlphanumeric).flatMap small ∧
      (Ascii name → snake (snake name) = snake name) := by
  simp only [← String.toList_inj, toList_snake]
  refine ⟨neat_snakeChars name.toList, filter_snakeChars name.toList, fun hascii => ?_⟩
  refine snakeChars_snakeChars fun c hc d hd => ?_
  obtain ⟨hmem, hletter⟩ := List.mem_filter.mp hc
  exact settled_of_ascii (hascii c hmem) hletter hd

/-- The small form of a heading, with separators of all kinds, is tidy and final. -/
theorem heading_tidy : Ascii "--HTTPMethod  v2.Beta_" ∧
    snake "--HTTPMethod  v2.Beta_" = "http_method_v2_beta" ∧
    Neat (snake "--HTTPMethod  v2.Beta_").toList ∧
    snake (snake "--HTTPMethod  v2.Beta_") = snake "--HTTPMethod  v2.Beta_" := by
  have hascii : Ascii "--HTTPMethod  v2.Beta_" := by decide +kernel
  obtain ⟨hneat, -, hfinal⟩ := snake_tidy "--HTTPMethod  v2.Beta_"
  exact ⟨hascii, by decide +kernel, hneat, hfinal hascii⟩

end Identifier

end ApiClasses
