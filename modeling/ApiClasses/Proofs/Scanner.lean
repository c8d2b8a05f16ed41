import ApiClasses.Identifier
import Mathlib.Data.List.DropRight

/-!
# Small forms are made of words

A name falls into words: its letters and numerals, cut at everything else and at changes of
case. The scanner that writes the small form knows no words. It looks at what it has written so
far, and puts an underscore there at two places. Between any two characters of the name, though,
what is written is some words, each with an underscore after it, and the part of one more word
(`laidOut`); an underscore ends that part, if there is any (`mark_laidOut`). So what is written
in the end are all words with an underscore between any two (`toList_snake`).

The words are the whole content of a name: nothing but separators is lost on the way
(`flatten_words`).
-/

namespace ApiClasses

/-! ## Characters in small form -/

/-- The small form of a letter or numeral is made of digits and of what comes after the
capitals and the signs of the basic alphabet. -/
theorem notMem_small {c d : Char} (hpos : 0 < d.toNat) (hlow : d.toNat < 0x61)
    (hdigit : d.isDigit = false) (hc : isAlphanumeric c = true) : d ∉ small c := by
  by_cases hascii : c.toNat < 0x80
  · have hsmall : isAlphanumeric c = true → c.toLower.isDigit = true ∨ 0x61 ≤ c.toLower.toNat :=
      forall_ascii (P := fun c => isAlphanumeric c = true →
        c.toLower.isDigit = true ∨ 0x61 ≤ c.toLower.toNat) (by decide +kernel) hascii
    rw [small_of_ascii hascii, List.mem_singleton]
    rintro rfl
    rcases hsmall hc with his | hhigh
    · cases hdigit.symm.trans his
    · omega
  · have hsequences : ∀ entry ∈ smallSequences, ∀ code ∈ entry.2, 0x61 ≤ code := by
      decide +kernel
    have himages : ∀ entry ∈ smallImages, 0x61 ≤ entry.2 := by
      decide +kernel
    rw [small, if_neg hascii]
    refine notMem_changeCase hpos ?_ ?_ ?_
    · intro entry hentry code hcode
      exact Nat.lt_of_lt_of_le hlow (hsequences entry hentry code hcode)
    · exact fun entry hentry => Nat.lt_of_lt_of_le hlow (himages entry hentry)
    · rintro rfl
      omega

theorem underscore_notMem_small {c : Char} (hc : isAlphanumeric c = true) : '_' ∉ small c :=
  notMem_small (by decide) (by decide) (by decide) hc

namespace Identifier

/-! ## Words -/

/-- The rest of the word under way, and the pieces after it. Separators leave
empty pieces behind. -/
def pieces (before : Option Char) : List Char → List Char × List (List Char)
  | [] => ([], [])
  | c :: cs =>
    let (word, later) := pieces (some c) cs
    if !isAlphanumeric c then ([], word :: later)
    else if startsWord before c cs.head? then ([], (c :: word) :: later)
    else (c :: word, later)

/-- The words of a name: its letters and numerals, cut at everything else and at
changes of case. -/
def words (name : List Char) : List (List Char) :=
  let (word, later) := pieces none name
  (word :: later).filter (!·.isEmpty)

/-- No word is empty. -/
theorem ne_nil_of_mem_words {name word : List Char} (h : word ∈ words name) : word ≠ [] := by
  have h := (List.mem_filter.1 h).2
  simpa using h

theorem flatten_pieces (before : Option Char) (name : List Char) :
    (pieces before name).1 ++ (pieces before name).2.flatten = name.filter isAlphanumeric := by
  induction name generalizing before with
  | nil => rfl
  | cons c cs ih =>
    have ih := ih (some c)
    rw [pieces]
    by_cases hc : isAlphanumeric c
    · by_cases hs : startsWord before c cs.head?
      · simpa [hc, hs] using ih
      · simpa [hc, hs] using ih
    · simpa [hc] using ih

/-- The words are the letters and numerals of the name, in order. -/
theorem flatten_words (name : List Char) : (words name).flatten = name.filter isAlphanumeric := by
  have nonempty : ∀ pieces : List (List Char),
      (pieces.filter (!·.isEmpty)).flatten = pieces.flatten := by
    intro pieces
    induction pieces with
    | nil => rfl
    | cons piece rest ih => cases piece <;> simp [ih]
  rw [words, nonempty, List.flatten_cons, flatten_pieces]

/-- The words in small letters, an underscore between any two. -/
def snakeChars (name : List Char) : List Char :=
  ['_'].intercalate ((words name).map (·.flatMap small))

/-! ## The text under way -/

variable {full : List (List Char)} {part : List Char}

/-- Full words in small letters, each with an underscore after it, and after these the part of
one more word. -/
def laidOut (full : List (List Char)) (part : List Char) : List Char :=
  full.flatMap (fun word => word.flatMap small ++ ['_']) ++ part.flatMap small

/-- Something is left of a part, and it does not end in an underscore. -/
theorem getLast?_part (hpart : part ≠ []) (h : ∀ c ∈ part, isAlphanumeric c = true) :
    ∃ d, (part.flatMap small).getLast? = some d ∧ d ≠ '_' := by
  obtain ⟨c, cs, rfl⟩ := List.exists_cons_of_ne_nil hpart
  have hsome : (c :: cs).flatMap small ≠ [] := by simp [small_ne_nil c]
  refine ⟨_, List.getLast?_eq_some_getLast hsome, ?_⟩
  obtain ⟨b, hb, hlast⟩ := List.mem_flatMap.mp (List.getLast_mem hsome)
  intro hmark
  exact underscore_notMem_small (h b hb) (hmark ▸ hlast)

/-- The same holds of the text, if it ends in a part. -/
theorem getLast?_laidOut (full : List (List Char)) (hpart : part ≠ [])
    (h : ∀ c ∈ part, isAlphanumeric c = true) :
    ∃ d, (laidOut full part).getLast? = some d ∧ d ≠ '_' := by
  obtain ⟨d, hlast, hd⟩ := getLast?_part hpart h
  exact ⟨d, by rw [laidOut, List.getLast?_append, hlast, Option.some_or], hd⟩

/-- A mark ends the part, if there is any. -/
theorem mark_laidOut (h : ∀ c ∈ part, isAlphanumeric c = true) :
    mark (laidOut full part) = laidOut (full ++ [part].filter (!·.isEmpty)) [] := by
  rcases hpart : part with _ | ⟨c, cs⟩
  · -- nothing is written yet, or an underscore comes last
    have hguard : (laidOut full []).isEmpty || (laidOut full []).getLast? == some '_' := by
      rcases List.eq_nil_or_concat' full with rfl | ⟨front, word, rfl⟩
      · rfl
      · simp [laidOut]
    rw [mark, if_pos hguard]
    simp
  · obtain ⟨d, hlast, hd⟩ := getLast?_laidOut full (hpart ▸ List.cons_ne_nil c cs) h
    rw [hpart] at hlast
    have hguard : ¬ ((laidOut full (c :: cs)).isEmpty ||
        (laidOut full (c :: cs)).getLast? == some '_') := by
      have hsome : laidOut full (c :: cs) ≠ [] := by
        intro hnil
        rw [hnil] at hlast
        cases hlast
      simp [hlast, hd, hsome]
    rw [mark, if_neg hguard]
    simp [laidOut]

/-- Up to its part, the text is words with an underscore between any two. -/
theorem laidOut_eq_intercalate : laidOut full part =
    ['_'].intercalate ((full ++ [part]).map (·.flatMap small)) := by
  induction full with
  | nil => simp [laidOut]
  | cons word rest ih =>
    rcases hrest : rest ++ [part] with _ | ⟨next, others⟩
    · simp at hrest
    · rw [hrest] at ih
      rw [List.cons_append, hrest, List.map_cons, List.map_cons, List.intercalate_cons_cons,
        ← List.map_cons, ← ih]
      simp [laidOut]

/-- A list of words. -/
def AreWords (full : List (List Char)) : Prop :=
  ∀ word ∈ full, word ≠ [] ∧ ∀ c ∈ word, isAlphanumeric c = true

theorem dropMarks_eq_rdropWhile (written : List Char) :
    dropMarks written = written.rdropWhile (· == '_') :=
  rfl

/-- A part that ends in no underscore has none to lose. -/
theorem dropMarks_of_part (hpart : part ≠ []) (h : ∀ c ∈ part, isAlphanumeric c = true) :
    dropMarks (laidOut full part) = laidOut full part := by
  obtain ⟨d, hlast, hd⟩ := getLast?_laidOut full hpart h
  rw [dropMarks_eq_rdropWhile]
  refine List.rdropWhile_eq_self_iff.mpr fun hsome hmark => hd ?_
  rw [List.getLast?_eq_some_getLast hsome] at hlast
  rw [← Option.some.inj hlast]
  exact eq_of_beq hmark

/-- Without the underscores at its end, the text is its words with an underscore between any
two. -/
theorem dropMarks_laidOut (hfull : AreWords full) (hpart : ∀ c ∈ part, isAlphanumeric c = true) :
    dropMarks (laidOut full part) =
      ['_'].intercalate ((full ++ [part].filter (!·.isEmpty)).map (·.flatMap small)) := by
  rcases hcase : part with _ | ⟨c, cs⟩
  · rcases List.eq_nil_or_concat' full with rfl | ⟨front, word, rfl⟩
    · rfl
    · -- the last word is full, and one underscore after it is lost
      obtain ⟨hword, hletters⟩ := hfull word (by simp)
      have hlaid : laidOut (front ++ [word]) [] = laidOut front word ++ ['_'] := by
        simp [laidOut]
      rw [hlaid, dropMarks_eq_rdropWhile, List.rdropWhile_concat_pos _ _ _ (by simp),
        ← dropMarks_eq_rdropWhile, dropMarks_of_part hword hletters, laidOut_eq_intercalate]
      simp
  · rw [hcase] at hpart
    rw [dropMarks_of_part (List.cons_ne_nil c cs) hpart, laidOut_eq_intercalate]
    simp

/-! ## The scan -/

/-- A part that is any is one more full word. -/
theorem AreWords.close (h : AreWords full) (hpart : ∀ c ∈ part, isAlphanumeric c = true) :
    AreWords (full ++ [part].filter (!·.isEmpty)) := by
  intro word hword
  rcases List.mem_append.mp hword with hword | hword
  · exact h word hword
  · obtain ⟨hmem, hsome⟩ := List.mem_filter.mp hword
    obtain rfl := List.mem_singleton.mp hmem
    exact ⟨by simpa using hsome, hpart⟩

/-- What is written in the end are the full words, and the words that the part and the rest of
the name make. -/
theorem dropMarks_scan (full : List (List Char)) (part : List Char) (before : Option Char)
    (rest : List Char) (hfull : AreWords full) (hpart : ∀ c ∈ part, isAlphanumeric c = true) :
    dropMarks (scan (laidOut full part) before rest) =
      ['_'].intercalate ((full ++ ((part ++ (pieces before rest).1) ::
        (pieces before rest).2).filter (!·.isEmpty)).map (·.flatMap small)) := by
  induction rest generalizing full part before with
  | nil =>
    rw [scan, pieces, List.append_nil]
    exact dropMarks_laidOut hfull hpart
  | cons c cs ih =>
    rw [scan, pieces]
    by_cases hc : isAlphanumeric c = true
    · by_cases hstart : startsWord before c cs.head? = true
      · -- the part ends before the character, which starts the next one
        have hlaid (full : List (List Char)) : laidOut full [] ++ small c = laidOut full [c] := by
          simp [laidOut]
        have hnext := ih _ [c] (some c) (hfull.close hpart) (by simpa using hc)
        simp only [hc, hstart, Bool.not_true, Bool.false_eq_true, if_false, if_true]
        rw [mark_laidOut hpart, hlaid, hnext, List.append_assoc, ← List.filter_append]
        simp
      · have hlaid : laidOut full part ++ small c = laidOut full (part ++ [c]) := by
          simp [laidOut]
        have hnext := ih full (part ++ [c]) (some c) hfull
          (List.forall_mem_append.mpr ⟨hpart, by simpa using hc⟩)
        simp only [hc, hstart, Bool.not_true, Bool.false_eq_true, if_false]
        rw [hlaid, hnext, List.append_assoc, List.singleton_append]
    · -- the part ends, and the next one has not started
      have hnext := ih _ [] (some c) (hfull.close hpart) (by simp)
      simp only [hc, Bool.not_false, if_true]
      rw [mark_laidOut hpart, hnext, List.append_assoc, ← List.filter_append]
      simp

/-- The small form of a name is its words in small letters, an underscore between any two. -/
theorem toList_snake (name : String) : (snake name).toList = snakeChars name.toList := by
  rw [snake, String.toList_ofList]
  exact dropMarks_scan [] [] none name.toList (by simp [AreWords]) (by simp)

end Identifier

end ApiClasses
