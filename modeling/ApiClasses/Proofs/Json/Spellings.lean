import ApiClasses.Json.Pointer
import Mathlib.Data.List.Perm.Subperm

/-!
# How many pointers lead somewhere

A key leads further under each of its spellings as a token, and under nothing else
(`mem_keyTokens`). So the pointers that lead from a value to a place inside it can be
listed, and the list is as long as the bound that counts them promises
(`length_le_spellings`). A list of different pointers that all lead somewhere is
never longer.
-/

namespace ApiClasses.Json.Pointer

/-! ## Tokens of a pointer -/

theorem splitSlashes_of_notMem {cs : List Char} (h : '/' ∉ cs) : splitSlashes cs = (cs, []) := by
  induction cs with
  | nil => rfl
  | cons c cs ih =>
    obtain ⟨hc, hcs⟩ := not_or.mp (mt List.mem_cons.mpr h)
    simp [splitSlashes, ih hcs, Ne.symm hc]

theorem splitSlashes_append_slash (cs ds : List Char) :
    splitSlashes (cs ++ '/' :: ds) =
      ((splitSlashes cs).1, (splitSlashes cs).2 ++ (splitSlashes ds).1 :: (splitSlashes ds).2) := by
  induction cs with
  | nil => rfl
  | cons c cs ih =>
    rw [List.cons_append, splitSlashes, ih, splitSlashes]
    by_cases hc : c == '/'
    · simp [hc]
    · simp [hc]

/-- With a slash before each token but the first, the text is whole again. -/
theorem append_flatMap_splitSlashes (cs : List Char) :
    (splitSlashes cs).1 ++ (splitSlashes cs).2.flatMap ('/' :: ·) = cs := by
  induction cs with
  | nil => rfl
  | cons c cs ih =>
    rw [splitSlashes]
    by_cases hc : c = '/'
    · simp [hc, ih]
    · simp [hc, ih]

theorem slash_notMem_splitSlashes (cs : List Char) :
    '/' ∉ (splitSlashes cs).1 ∧ ∀ token ∈ (splitSlashes cs).2, '/' ∉ token := by
  induction cs with
  | nil => simp [splitSlashes]
  | cons c cs ih =>
    rw [splitSlashes]
    by_cases hc : c = '/'
    · simpa [hc] using ih
    · simpa [hc, Ne.symm hc] using ih

/-- A pointer is its tokens with a slash before each. -/
theorem flatMap_tokens? {pointer : List Char} {tokens : List (List Char)}
    (h : tokens? pointer = some tokens) : tokens.flatMap ('/' :: ·) = pointer := by
  unfold tokens? at h
  split at h
  · obtain rfl := Option.some.inj h
    rfl
  · next cs =>
    obtain rfl := Option.some.inj h
    rw [List.flatMap_cons, List.cons_append, append_flatMap_splitSlashes]
  · cases h

theorem slash_notMem_tokens? {pointer : List Char} {tokens : List (List Char)}
    (h : tokens? pointer = some tokens) : ∀ token ∈ tokens, '/' ∉ token := by
  unfold tokens? at h
  split at h
  · obtain rfl := Option.some.inj h
    simp
  · next cs =>
    obtain rfl := Option.some.inj h
    exact List.forall_mem_cons.mpr (slash_notMem_splitSlashes cs)
  · cases h

/-- One step further is one token more. -/
theorem tokens?_append {pointer token : String} {tokens : List (List Char)}
    (hslash : '/' ∉ token.toList) (h : tokens? pointer.toList = some tokens) :
    tokens? (pointer ++ "/" ++ token).toList = some (tokens ++ [token.toList]) := by
  have hchild : (pointer ++ "/" ++ token).toList = pointer.toList ++ '/' :: token.toList := by
    simp
  have hsplit := splitSlashes_of_notMem hslash
  rw [hchild]
  unfold tokens? at h
  split at h
  · next hnil =>
    obtain rfl := Option.some.inj h
    rw [hnil, List.nil_append, tokens?, hsplit]
    rfl
  · next cs hcons =>
    obtain rfl := Option.some.inj h
    rw [hcons, List.cons_append, tokens?, splitSlashes_append_slash, hsplit]
    rfl
  · cases h

theorem follow?_append (value : Json) (tokens later : List (List Char)) :
    follow? value (tokens ++ later) = (follow? value tokens).bind (follow? · later) := by
  induction tokens generalizing value with
  | nil => rfl
  | cons token tokens ih =>
    rw [List.cons_append, follow?, follow?, Option.bind_assoc]
    exact congrArg _ (funext ih)

/-- One step further from an object is the value under the key that the token spells. -/
theorem resolve?_append {root : Json} {pointer token : String} {members : Members}
    (hslash : '/' ∉ token.toList) (h : resolve? root pointer = some (.object members)) :
    resolve? root (pointer ++ "/" ++ token) = members.get? (unescape token) := by
  obtain ⟨tokens, htokens, hfollow⟩ := Option.bind_eq_some_iff.mp h
  rw [resolve?, tokens?_append hslash htokens, Option.bind_some, follow?_append, hfollow]
  simp [follow?, step?, unescape]

theorem slash_notMem_escape (key : String) : '/' ∉ (escape key).toList := by
  simpa [escape] using slash_notMem_escapeChars key.toList

/-- The value under a key of an object is where one step further leads. -/
theorem resolve?_child {root : Json} {pointer : String} {members : Members} (key : String)
    (h : resolve? root pointer = some (.object members)) :
    resolve? root (child pointer key) = members.get? key := by
  rw [child, resolve?_append (slash_notMem_escape key) h, unescape_escape]

/-! ## Spellings of a key -/

theorem unescapeChars_slash (cs : List Char) :
    unescapeChars ('~' :: '1' :: cs) = '/' :: unescapeChars cs := by
  simp [unescapeChars, unescapeSlashes, unescapeTildes]

theorem unescapeChars_tilde (cs : List Char) :
    unescapeChars ('~' :: '0' :: cs) = '~' :: unescapeChars cs := by
  simp [unescapeChars, unescapeSlashes, unescapeTildes]

/-- A character that starts no escape stands for itself. -/
theorem unescapeChars_cons {c : Char} {cs : List Char} (hslash : ∀ ds, c :: cs ≠ '~' :: '1' :: ds)
    (htilde : ∀ ds, c :: cs ≠ '~' :: '0' :: ds) :
    unescapeChars (c :: cs) = c :: unescapeChars cs := by
  have hslashes : unescapeSlashes (c :: cs) = c :: unescapeSlashes cs := by
    rw [unescapeSlashes]
    rintro ds rfl rfl
    exact hslash ds rfl
  rw [unescapeChars, hslashes, unescapeTildes, unescapeChars]
  -- a slash that was escaped does not bring a `0` behind a tilde
  intro ds hc hds
  rcases cs with _ | ⟨d, cs⟩
  · cases hds
  · by_cases hd : ∃ es, d :: cs = '~' :: '1' :: es
    · obtain ⟨es, hes⟩ := hd
      rw [hes, unescapeSlashes] at hds
      cases hds
    · rw [unescapeSlashes] at hds
      · obtain ⟨rfl, -⟩ := List.cons.inj hds
        exact htilde cs (by rw [hc])
      · rintro es rfl rfl
        exact hd ⟨es, rfl⟩

/-- The tokens that stand for a key. -/
def keyTokens : List Char → List (List Char)
  | [] => [[]]
  | c :: cs =>
    if c = '/' then (keyTokens cs).map (['~', '1'] ++ ·)
    else if c = '~' then (keyTokens cs).map (['~', '0'] ++ ·) ++ (keyTokens cs).map ('~' :: ·)
    else (keyTokens cs).map (c :: ·)

theorem length_keyTokens (key : String) : (keyTokens key.toList).length = keySpellings key := by
  rw [keySpellings]
  generalize key.toList = cs
  induction cs with
  | nil => rfl
  | cons c cs ih =>
    rw [keyTokens]
    split
    · next hc => simp [ih, hc]
    · split
      · next hc => simp [ih, hc, Nat.pow_succ, Nat.mul_two]
      · next hc => simp [ih, hc]

/-- A token without slashes is among the tokens for its key. -/
theorem mem_keyTokens {token : List Char} (h : '/' ∉ token) :
    token ∈ keyTokens (unescapeChars token) := by
  match token with
  | [] => exact List.mem_singleton_self _
  | c :: cs =>
    obtain ⟨hc, hcs⟩ := not_or.mp (mt List.mem_cons.mpr h)
    by_cases hslash : ∃ ds, c :: cs = '~' :: '1' :: ds
    · obtain ⟨ds, hds⟩ := hslash
      obtain ⟨rfl, rfl⟩ := List.cons.inj hds
      rw [unescapeChars_slash, keyTokens, if_pos rfl]
      exact List.mem_map.mpr ⟨ds, mem_keyTokens (mt (List.mem_cons_of_mem _) hcs), rfl⟩
    · by_cases htilde : ∃ ds, c :: cs = '~' :: '0' :: ds
      · obtain ⟨ds, hds⟩ := htilde
        obtain ⟨rfl, rfl⟩ := List.cons.inj hds
        rw [unescapeChars_tilde, keyTokens, if_neg (by decide), if_pos rfl]
        refine List.mem_append_left _ (List.mem_map.mpr ⟨ds, ?_, rfl⟩)
        exact mem_keyTokens (mt (List.mem_cons_of_mem _) hcs)
      · rw [unescapeChars_cons (not_exists.mp hslash) (not_exists.mp htilde), keyTokens,
          if_neg (Ne.symm hc)]
        have hmem : c :: cs ∈ (keyTokens (unescapeChars cs)).map (c :: ·) :=
          List.mem_map.mpr ⟨cs, mem_keyTokens hcs, rfl⟩
        split
        · -- a tilde that starts no escape is one of the two spellings of a tilde
          next hc =>
          rw [hc] at hmem ⊢
          exact List.mem_append_right _ hmem
        · exact hmem
termination_by token.length

/-- A token that stands for digits is those digits. -/
theorem keyTokens_of_digits {cs : List Char} (h : ∀ c ∈ cs, c.isDigit) : keyTokens cs = [cs] := by
  induction cs with
  | nil => rfl
  | cons c cs ih =>
    obtain ⟨hc, hcs⟩ := List.forall_mem_cons.mp h
    have hslash : c ≠ '/' := by
      rintro rfl
      exact absurd hc (by decide)
    have htilde : c ≠ '~' := by
      rintro rfl
      exact absurd hc (by decide)
    rw [keyTokens, if_neg hslash, if_neg htilde, ih hcs]
    rfl

/-! ## Spellings of an index -/

theorem toNat_of_isDigit {c : Char} (h : c.isDigit) :
    c.toNat - '0'.toNat < 10 ∧ '0'.toNat ≤ c.toNat := by
  obtain ⟨hlow, hhigh⟩ := Char.isDigit_iff_toNat.mp h
  have hnine : '9'.toNat = '0'.toNat + 9 := rfl
  omega

theorem digitChar_of_isDigit {c : Char} (h : c.isDigit) :
    Nat.digitChar (c.toNat - '0'.toNat) = c := by
  obtain ⟨hlt, hle⟩ := toNat_of_isDigit h
  have hzero : '0'.toNat = 48 := rfl
  refine Char.toNat_inj.mp ?_
  rw [Nat.toNat_digitChar_of_lt_ten hlt]
  omega

/-- Digits after a number that is not zero continue its decimal text. -/
theorem toDigits_foldl {cs : List Char} (h : ∀ c ∈ cs, c.isDigit) {n : Nat} (hn : 0 < n) :
    Nat.toDigits 10 (cs.foldl (fun n c => 10 * n + (c.toNat - '0'.toNat)) n) =
      Nat.toDigits 10 n ++ cs := by
  induction cs generalizing n with
  | nil => simp
  | cons c cs ih =>
    obtain ⟨hc, hcs⟩ := List.forall_mem_cons.mp h
    obtain ⟨hlt, -⟩ := toNat_of_isDigit hc
    rw [List.foldl_cons, ih hcs (by omega), ← Nat.toDigits_append_toDigits (by decide) hn hlt,
      Nat.toDigits_of_lt_base hlt, digitChar_of_isDigit hc, List.append_assoc]
    rfl

/-- An index has one spelling, its decimal text. -/
theorem eq_toDigits_of_index? {token : List Char} {index : Nat} (h : index? token = some index) :
    token = Nat.toDigits 10 index := by
  unfold index? at h
  split at h
  · cases h
  · obtain rfl := Option.some.inj h
    rfl
  · cases h
  · next hempty hzero hleading =>
    split at h
    · next hall =>
      obtain rfl := Option.some.inj h
      obtain ⟨c, cs, rfl⟩ := List.exists_cons_of_ne_nil hempty
      obtain ⟨hc, hcs⟩ := List.forall_mem_cons.mp (List.all_eq_true.mp hall)
      obtain ⟨hlt, hle⟩ := toNat_of_isDigit hc
      have hpos : 0 < c.toNat - '0'.toNat := by
        rcases Nat.eq_or_lt_of_le hle with heq | hlt
        · obtain rfl := Char.toNat_inj.mp heq
          exact absurd rfl (hleading cs)
        · omega
      rw [List.foldl_cons, Nat.mul_zero, Nat.zero_add, toDigits_foldl hcs hpos,
        Nat.toDigits_of_lt_base hlt, digitChar_of_isDigit hc]
      rfl
    · cases h

theorem isDigit_toDigits (index : Nat) : ∀ c ∈ Nat.toDigits 10 index, c.isDigit :=
  fun _ => Nat.isDigit_of_mem_toDigits (by decide) (by decide)

/-- The digits of a number that is not zero start with another digit. -/
theorem toDigits_ne_zero_cons {n : Nat} (hn : 0 < n) (rest : List Char) :
    Nat.toDigits 10 n ≠ '0' :: rest := by
  induction n using Nat.strongRecOn generalizing rest with
  | ind n ih =>
    intro h
    rcases Nat.lt_or_ge n 10 with hlt | hge
    · rw [Nat.toDigits_of_lt_base hlt] at h
      have hcode := congrArg Char.toNat (List.cons.inj h).1
      rw [Nat.toNat_digitChar_of_lt_ten hlt] at hcode
      have hzero : '0'.toNat = 48 := rfl
      omega
    · rw [Nat.toDigits_of_base_le (by decide) hge] at h
      obtain ⟨first, others, hfirst⟩ :=
        List.exists_cons_of_ne_nil (@Nat.toDigits_ne_nil (n / 10) 10)
      rw [hfirst, List.cons_append] at h
      obtain ⟨rfl, -⟩ := List.cons.inj h
      exact ih (n / 10) (by omega) (by omega) others hfirst

/-- The decimal text of an index is read as the index. -/
theorem index?_toDigits (index : Nat) : index? (Nat.toDigits 10 index) = some index := by
  have hvalue : Nat.ofDigitChars 10 (Nat.toDigits 10 index) 0 = index :=
    Nat.ofDigitChars_toDigits (by decide) (by decide)
  have hdigits : (Nat.toDigits 10 index).all Char.isDigit = true :=
    List.all_eq_true.mpr (isDigit_toDigits index)
  unfold index?
  split
  · next hnil => exact absurd hnil Nat.toDigits_ne_nil
  · next hzero =>
    rw [hzero] at hvalue
    exact congrArg some hvalue
  · next rest hlonger hleading =>
    rcases Nat.eq_zero_or_pos index with rfl | hpos
    · rw [Nat.toDigits_zero] at hleading
      exact absurd (List.cons.inj hleading).2.symm hlonger
    · exact absurd hleading (toDigits_ne_zero_cons hpos rest)
  · rw [if_pos hdigits]
    exact congrArg some hvalue

theorem index?_eq_some_iff {token : List Char} {index : Nat} :
    index? token = some index ↔ token = Nat.toDigits 10 index :=
  ⟨eq_toDigits_of_index?, fun h => h ▸ index?_toDigits index⟩

/-! ## All pointers into a value -/

mutual

/-- The tokens of all pointers that lead from a value to a place in it. -/
def paths : Json → List (List (List Char))
  | .array elements => [] :: elementPaths 0 elements
  | .object members => [] :: memberPaths members
  | _ => [[]]

/-- The same for the elements of an array, from an index on. -/
def elementPaths (index : Nat) : List Json → List (List (List Char))
  | [] => []
  | value :: rest =>
    (paths value).map (Nat.toDigits 10 index :: ·) ++ elementPaths (index + 1) rest

/-- The same for the members of an object. -/
def memberPaths : List (String × Json) → List (List (List Char))
  | [] => []
  | (key, value) :: rest =>
    (keyTokens key.toList).flatMap (fun token => (paths value).map (token :: ·)) ++
      memberPaths rest

end

theorem nil_mem_paths (value : Json) : [] ∈ paths value := by
  cases value with
  | array elements => exact List.mem_cons_self
  | object members => exact List.mem_cons_self
  | null | bool _ | number _ | string _ => exact List.mem_singleton_self _

theorem mem_elementPaths {elements : List Json} {value : Json} {index : Nat}
    {tokens : List (List Char)} (start : Nat) (h : elements[index]? = some value)
    (hmem : tokens ∈ paths value) :
    Nat.toDigits 10 (start + index) :: tokens ∈ elementPaths start elements := by
  induction elements generalizing start index with
  | nil => cases h
  | cons first rest ih =>
    rw [elementPaths]
    cases index with
    | zero =>
      obtain rfl := Option.some.inj h
      exact List.mem_append_left _ (List.mem_map.mpr ⟨tokens, hmem, rfl⟩)
    | succ index =>
      have hrest : Nat.toDigits 10 (start + 1 + index) :: tokens ∈ elementPaths (start + 1) rest :=
        ih (start + 1) h
      rw [Nat.add_assoc, Nat.add_comm 1] at hrest
      exact List.mem_append_right _ hrest

theorem mem_memberPaths {members : Members} {key : String} {value : Json} {token : List Char}
    {tokens : List (List Char)} (h : members.get? key = some value)
    (htoken : token ∈ keyTokens key.toList) (hmem : tokens ∈ paths value) :
    token :: tokens ∈ memberPaths members := by
  induction members with
  | nil => cases h
  | cons entry rest ih =>
    obtain ⟨k, v⟩ := entry
    rw [memberPaths]
    by_cases hk : k = key
    · obtain rfl : v = value := by simpa [Members.get?, hk] using h
      refine List.mem_append_left _ (List.mem_flatMap.mpr ⟨token, hk ▸ htoken, ?_⟩)
      exact List.mem_map.mpr ⟨tokens, hmem, rfl⟩
    · exact List.mem_append_right _ (ih (by simpa [Members.get?, hk] using h))

/-- What leads somewhere is listed. -/
theorem mem_paths {value place : Json} {tokens : List (List Char)}
    (hslash : ∀ token ∈ tokens, '/' ∉ token) (h : follow? value tokens = some place) :
    tokens ∈ paths value := by
  induction tokens generalizing value with
  | nil => exact nil_mem_paths value
  | cons token tokens ih =>
    obtain ⟨htoken, htokens⟩ := List.forall_mem_cons.mp hslash
    obtain ⟨next, hstep, hrest⟩ := Option.bind_eq_some_iff.mp h
    have hnext := ih htokens hrest
    cases value with
    | array elements =>
      obtain ⟨index, hindex, hget⟩ := Option.bind_eq_some_iff.mp hstep
      have hdigits := eq_toDigits_of_index? hindex
      have hown : token ∈ keyTokens (unescapeChars token) := mem_keyTokens htoken
      rw [hdigits, keyTokens_of_digits (isDigit_toDigits index)] at hown
      obtain rfl := List.mem_singleton.mp hown
      have := mem_elementPaths 0 hget hnext
      rw [Nat.zero_add] at this
      exact List.mem_cons_of_mem _ this
    | object members =>
      refine List.mem_cons_of_mem _ (mem_memberPaths hstep ?_ hnext)
      simpa using mem_keyTokens htoken
    | null | bool _ | number _ | string _ => cases hstep

mutual

theorem length_paths : (value : Json) → (paths value).length = spellings value
  | .array elements => by
    simp [paths, spellings, length_elementPaths 0 elements, Nat.add_comm]
  | .object members => by
    simp [paths, spellings, length_memberPaths members, Nat.add_comm]
  | .null | .bool _ | .number _ | .string _ => rfl

theorem length_elementPaths (index : Nat) :
    (elements : List Json) → (elementPaths index elements).length = elementSpellings elements
  | [] => rfl
  | value :: rest => by
    simp [elementPaths, elementSpellings, length_paths value, length_elementPaths _ rest]

theorem length_memberPaths :
    (members : List (String × Json)) → (memberPaths members).length = memberSpellings members
  | [] => rfl
  | (key, value) :: rest => by
    simp [memberPaths, memberSpellings, List.length_flatMap, length_paths value,
      length_keyTokens, length_memberPaths rest]

end

/-- Different pointers that all lead somewhere are at most as many as the bound
says. -/
theorem length_le_spellings {root : Json} {pointers : List String} (hnodup : pointers.Nodup)
    (h : ∀ pointer ∈ pointers, (resolve? root pointer).isSome) :
    pointers.length ≤ spellings root := by
  have hsub : pointers ⊆
      (paths root).map fun tokens => String.ofList (tokens.flatMap ('/' :: ·)) := by
    intro pointer hpointer
    obtain ⟨place, hplace⟩ := Option.isSome_iff_exists.mp (h pointer hpointer)
    obtain ⟨tokens, htokens, hfollow⟩ := Option.bind_eq_some_iff.mp hplace
    refine List.mem_map.mpr ⟨tokens, mem_paths (slash_notMem_tokens? htokens) hfollow, ?_⟩
    rw [flatMap_tokens? htokens, String.ofList_toList]
  have hle := (List.subperm_of_subset hnodup hsub).length_le
  rwa [List.length_map, length_paths] at hle

end ApiClasses.Json.Pointer
