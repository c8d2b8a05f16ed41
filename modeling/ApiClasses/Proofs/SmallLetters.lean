import ApiClasses.Proofs.Meanings
import ApiClasses.Proofs.Scanner

/-!
# Names of modules

A module is called like the class whose inner classes it holds, but in small letters. So its
name holds no capital of the basic alphabet, and it is never that of a class with such a
capital in its name (`forModule_ne`). Capitals, and where they stand, are lost in it; what is
left of a class name is its letters and numerals in small letters (`filter_snakeChars`). For
names that are put together from the standard settings this is enough to tell the numbers of
one trail apart (`eq_of_forModule_nestedName`).
-/

namespace ApiClasses

/-! ## Digits -/

/-- Digits have no other form. -/
theorem small_of_digit {c : Char} (h : c.isDigit = true) :
    isAlphanumeric c = true ∧ small c = [c] := by
  have hascii : c.toNat < 0x80 := by
    have hnine : '9'.toNat = 0x39 := rfl
    have := Char.isDigit_iff_toNat.mp h
    omega
  exact forall_ascii (P := fun c => c.isDigit = true → isAlphanumeric c = true ∧ small c = [c])
    (by decide +kernel) hascii h

namespace Identifier

/-! ## What is left of a name -/

/-- What a separator holds can be left out before or after the parts are joined. -/
theorem filter_intercalate {α : Type} {p : α → Bool} {separator : List α}
    (h : separator.filter p = []) (parts : List (List α)) :
    (separator.intercalate parts).filter p = parts.flatten.filter p := by
  induction parts with
  | nil => rfl
  | cons first rest ih =>
    cases rest with
    | nil => simp
    | cons second others =>
      rw [List.intercalate_cons_cons, List.filter_append, List.filter_append, h, ih,
        List.append_nil, ← List.filter_append, ← List.flatten_cons]

/-- Up to the underscores, the letters and numerals are left, in small letters. -/
theorem filter_snakeChars (name : List Char) :
    (snakeChars name).filter (· != '_') = (name.filter isAlphanumeric).flatMap small := by
  have hflat : ((words name).map (·.flatMap small)).flatten =
      (name.filter isAlphanumeric).flatMap small := by
    rw [← flatten_words, List.flatMap_def, List.map_flatten, List.flatten_flatten, List.map_map]
    rfl
  rw [snakeChars, filter_intercalate (by decide), hflat, List.filter_eq_self]
  intro d hd
  obtain ⟨c, hc, hd⟩ := List.mem_flatMap.mp hd
  refine bne_iff_ne.mpr ?_
  rintro rfl
  exact underscore_notMem_small (List.mem_filter.mp hc).2 hd

/-- What stands before the small letters of the basic alphabet, and is neither a digit nor the
underscore, is lost. -/
theorem notMem_snakeChars {name : List Char} {d : Char} (hpos : 0 < d.toNat)
    (hlow : d.toNat < 0x61) (hdigit : d.isDigit = false) (hmark : d ≠ '_') :
    d ∉ snakeChars name := by
  intro hmem
  have hkept : d ∈ (snakeChars name).filter (· != '_') :=
    List.mem_filter.mpr ⟨hmem, bne_iff_ne.mpr hmark⟩
  rw [filter_snakeChars] at hkept
  obtain ⟨c, hc, hsmall⟩ := List.mem_flatMap.mp hkept
  exact notMem_small hpos hlow hdigit (List.mem_filter.mp hc).2 hsmall

/-! ## What is lost -/

variable {name className : String} {d : Char}

/-- A character that stands in no module name: it comes before the small letters, and is
neither a digit nor one of the marks that make an identifier. -/
structure Lost (d : Char) : Prop where
  /-- it is not the null character -/
  pos : 0 < d.toNat
  /-- it comes before the small letters -/
  low : d.toNat < 0x61
  /-- it is no digit -/
  digit : d.isDigit = false
  /-- it is not the underscore -/
  mark : d ≠ '_'
  /-- it is not the sign of raw names -/
  sign : d ≠ '#'

/-- Capitals of the basic alphabet are such characters. -/
theorem lost_of_isUpper (hd : d.isUpper = true) : Lost d := by
  have hrange : 0x41 ≤ d.toNat ∧ d.toNat ≤ 0x5A := of_decide_eq_true hd
  refine ⟨by omega, by omega, ?_, ?_, ?_⟩
  · refine Bool.eq_false_iff.mpr fun h => ?_
    have hnine : '9'.toNat = 0x39 := rfl
    have := Char.isDigit_iff_toNat.mp h
    omega
  · rintro rfl
    cases hd
  · rintro rfl
    cases hd

theorem toList_rawMarker : rawMarker.toList = ['r', '#'] := by decide

/-- They are lost in the small form, and what is added to make an identifier holds none. -/
theorem notMem_forModule (h : Lost d) : d ∉ (forModule className).toList := by
  have hraw : d ∉ rawMarker.toList := by
    rw [toList_rawMarker]
    intro hmem
    obtain rfl | rfl : d = 'r' ∨ d = '#' := by simpa using hmem
    · exact absurd h.low (by decide)
    · exact h.sign rfl
  have hsnake : d ∉ (snake className).toList := by
    rw [toList_snake]
    exact notMem_snakeChars h.pos h.low h.digit h.mark
  have hform := escaped_forMember className
  rw [forModule]
  generalize forMember className = name at hform
  cases hform with
  | blank => simpa using h.mark
  | digit => simpa using ⟨h.mark, hsnake⟩
  | unmarkable => simpa using ⟨hsnake, h.mark⟩
  | keyword => simpa using ⟨hraw, hsnake⟩
  | plain => exact hsnake

/-- A module is not called like a class with a capital in its name. -/
theorem forModule_ne (hd : d.isUpper = true) (hmem : d ∈ name.toList) :
    forModule className ≠ name := by
  rintro rfl
  exact notMem_forModule (lost_of_isUpper hd) hmem

/-! ## Numbers -/

/-- What is left of the standard stem. -/
def stemChars : List Char := "nestedclass".toList

/-- No name that is used in another way begins with what is left of the stem. -/
theorem forModule_of_stem {rest : List Char}
    (h : (snake className).toList.filter (· != '_') = stemChars ++ rest) :
    forModule className = snake className := by
  have hother : ∀ word ∈ "" :: unmarkable ++ keywords,
      ¬ stemChars <+: word.toList.filter (· != '_') := by
    decide +kernel
  have hne {word : String} (hword : word ∈ "" :: unmarkable ++ keywords) :
      snake className ≠ word := by
    rintro rfl
    exact hother _ hword ⟨rest, h.symm⟩
  have hnodigit : startsWithDigit (snake className) = false := by
    rw [startsWithDigit]
    rcases hchars : (snake className).toList with _ | ⟨first, others⟩
    · rfl
    · rw [hchars] at h
      refine Bool.eq_false_iff.mpr fun hdigit => ?_
      have hkept : first ≠ '_' := by
        rintro rfl
        cases hdigit
      rw [List.filter_cons, if_pos (bne_iff_ne.mpr hkept)] at h
      obtain rfl : first = 'n' := (List.cons.inj h).1
      cases hdigit
  have hform := escaped_forMember className
  rw [forModule]
  generalize forMember className = name at hform
  cases hform with
  | blank hempty => exact absurd hempty (hne List.mem_cons_self)
  | digit _ hdigit => cases hnodigit.symm.trans hdigit
  | unmarkable _ _ hword =>
    exact absurd rfl (hne (List.mem_append_left _ (List.mem_cons_of_mem _ hword)))
  | keyword _ _ _ hword => exact absurd rfl (hne (List.mem_append_right _ hword))
  | plain => rfl

/-- Of a name from the standard settings, the stem, the digits of the trail and those of the
number are left. -/
theorem filter_snake_nestedName (trail : String) (number : Nat) :
    (snake (Settings.nestedName {} trail number)).toList.filter (· != '_') =
      stemChars ++
        ((trail.toList.filter isAlphanumeric).flatMap small ++ (toString number).toList) := by
  have hstem : (String.toList "NestedClass").filter isAlphanumeric = "NestedClass".toList := by
    decide +kernel
  have hsmall : "NestedClass".toList.flatMap small = stemChars := by
    decide +kernel
  have hdigits : ∀ c ∈ (toString number).toList, c.isDigit = true :=
    fun c => isDigit_of_mem_toString
  have hnumber : (toString number).toList.filter isAlphanumeric = (toString number).toList :=
    List.filter_eq_self.mpr fun c hc => (small_of_digit (hdigits c hc)).1
  have hsame : (toString number).toList.flatMap small = (toString number).toList := by
    rw [List.flatMap_congr fun c hc => (small_of_digit (hdigits c hc)).2, List.flatMap_singleton']
  rw [toList_snake, filter_snakeChars, Settings.nestedName, String.toList_append,
    String.toList_append, List.filter_append, List.filter_append, List.flatMap_append,
    List.flatMap_append, hnumber, hsame, hstem, hsmall, List.append_assoc]

/-- Modules of classes with different numbers in one trail are different. -/
theorem eq_of_forModule_nestedName {trail : String} {number other : Nat}
    (h : forModule (Settings.nestedName {} trail number) =
      forModule (Settings.nestedName {} trail other)) : number = other := by
  have hone := filter_snake_nestedName trail number
  have hother := filter_snake_nestedName trail other
  rw [forModule_of_stem hone, forModule_of_stem hother] at h
  rw [h, hother] at hone
  have hdigits := List.append_cancel_left (List.append_cancel_left hone)
  exact eq_of_toString_eq (String.toList_inj.mp hdigits.symm)

end Identifier

end ApiClasses
