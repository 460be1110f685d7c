import ComponentDocs.Proofs.Token.Extent

/-!
# Literals in front of other text

How long a literal is may depend on characters far behind it: a quote is open only because nothing
closes it.  There are two facts about each literal.

* What stands behind the literal and is not part of it can be left out (`_append_of_le`).
* A text that begins with a line feed or a semicolon and has no slash can be put behind it, unless
  it is left open at the end (`_append_stop`, `_append_of_lt`, `_append_eq_none`).
-/

namespace ComponentDocs.Literal

open Text

variable {cs old tail : List Char}

/-! ## Leaving out what stands behind -/

theorem takeWhile_append_of_le {p : Char → Bool}
    (h : ((cs ++ old).takeWhile p).length ≤ cs.length) :
    (cs ++ old).takeWhile p = cs.takeWhile p := by
  rw [List.takeWhile_append] at h ⊢
  split
  · rename_i hall
    rw [if_pos hall, List.length_append] at h
    have hold : old.takeWhile p = [] := List.length_eq_zero_iff.1 (by omega)
    rw [hold, List.append_nil]
    exact ((List.takeWhile_sublist p).eq_of_length hall).symm
  · rfl

theorem fractionLength_append_of_le (h : fractionLength (cs ++ old) ≤ cs.length) :
    fractionLength (cs ++ old) = fractionLength cs := by
  match cs with
  | [] => exact Nat.eq_zero_of_le_zero h
  | [point] =>
    cases old with
    | nil => rfl
    | cons digit rest =>
      simp only [List.cons_append, List.nil_append, fractionLength, List.length_cons,
        List.length_nil] at h ⊢
      split
      · rename_i hdigit
        rw [if_pos hdigit] at h
        omega
      · rfl
  | point :: digit :: rest =>
    simp only [List.cons_append, fractionLength, List.length_cons] at h ⊢
    split
    · rename_i hdigit
      rw [if_pos hdigit] at h
      rw [takeWhile_append_of_le (by omega)]
    · rfl

theorem exponentDigits_append_of_le {signed : Nat}
    (h : exponentDigits signed (cs ++ old) ≤ signed + cs.length) :
    exponentDigits signed (cs ++ old) = exponentDigits signed cs := by
  have hle : ((cs ++ old).takeWhile isAsciiDigit).length ≤ cs.length := by
    unfold exponentDigits at h
    split at h <;> omega
  rw [exponentDigits, takeWhile_append_of_le hle]
  rfl

theorem exponentDigits_eq_zero {signed : Nat} (h : exponentDigits signed cs ≤ signed) :
    exponentDigits signed cs = 0 := by
  unfold exponentDigits at h ⊢
  split at h
  · rfl
  · omega

/-- An exponent has a digit behind its mark. -/
theorem exponentLength_eq_zero {mark : Char} (h : exponentLength (mark :: cs) ≤ 1) :
    exponentLength (mark :: cs) = 0 := by
  cases cs with
  | nil => rfl
  | cons sign rest =>
    simp only [exponentLength] at h ⊢
    split
    · rename_i hmark
      rw [if_pos hmark] at h
      split
      · rename_i hsign
        rw [if_pos hsign] at h
        exact exponentDigits_eq_zero (by omega)
      · rename_i hsign
        rw [if_neg hsign] at h
        exact exponentDigits_eq_zero h
    · rfl

theorem exponentLength_append_of_le (h : exponentLength (cs ++ old) ≤ cs.length) :
    exponentLength (cs ++ old) = exponentLength cs := by
  match cs with
  | [] => exact Nat.eq_zero_of_le_zero h
  | [mark] => exact exponentLength_eq_zero h
  | mark :: sign :: rest =>
    simp only [List.cons_append, exponentLength, List.length_cons] at h ⊢
    split
    · rename_i hmark
      rw [if_pos hmark] at h
      split
      · rename_i hsign
        rw [if_pos hsign] at h
        exact exponentDigits_append_of_le (by omega)
      · rename_i hsign
        rw [if_neg hsign] at h
        rw [← List.cons_append] at h ⊢
        exact exponentDigits_append_of_le (by rw [List.length_cons]; omega)
    · rfl

theorem decimalLength_append_of_le (h : decimalLength (cs ++ old) ≤ cs.length) :
    decimalLength (cs ++ old) = decimalLength cs := by
  simp only [decimalLength] at h ⊢
  have hwhole : (cs ++ old).takeWhile isDigitPart = cs.takeWhile isDigitPart :=
    takeWhile_append_of_le (by omega)
  have hle := takeWhile_length_le isDigitPart cs
  rw [hwhole, List.drop_append_of_le_length hle] at h ⊢
  generalize hdigits : (cs.takeWhile isDigitPart).length = whole at h hle ⊢
  have hfraction : fractionLength (cs.drop whole ++ old) = fractionLength (cs.drop whole) :=
    fractionLength_append_of_le (by rw [List.length_drop]; omega)
  have hfractionLe := fractionLength_le (cs.drop whole)
  rw [List.length_drop] at hfractionLe
  rw [hfraction] at h ⊢
  rw [List.drop_append_of_le_length (by omega)] at h ⊢
  rw [exponentLength_append_of_le (by rw [List.length_drop]; omega)]

theorem radixLength_append_of_le (h : radixLength (cs ++ old) ≤ cs.length) :
    radixLength (cs ++ old) = radixLength cs := by
  cases cs with
  | nil => exact Nat.eq_zero_of_le_zero h
  | cons mark rest =>
    simp only [List.cons_append, radixLength, List.length_cons] at h ⊢
    split
    · rename_i hmark
      rw [if_pos hmark] at h
      have hle : ((rest ++ old).takeWhile isRadixDigit).length ≤ rest.length := by
        split at h <;> omega
      rw [takeWhile_append_of_le hle]
    · rfl

theorem numberLength_append_of_le {first : Char}
    (h : numberLength first (cs ++ old) ≤ cs.length) :
    numberLength first (cs ++ old) = numberLength first cs := by
  unfold numberLength at h ⊢
  split at h
  · rename_i hradix
    rw [radixLength_append_of_le h] at hradix ⊢
    rw [if_pos hradix, if_pos hradix]
  · rename_i hradix
    have hnone : ¬(first = '0' ∧ radixLength cs ≠ 0) := by
      rintro ⟨hfirst, hne⟩
      have hzero : radixLength (cs ++ old) = 0 :=
        Decidable.not_not.1 fun hsome => hradix ⟨hfirst, hsome⟩
      rw [radixLength_append_of_le (by omega)] at hzero
      exact hne hzero
    rw [if_neg hradix, if_neg hnone, decimalLength_append_of_le h]

theorem quotedLength_cons (quote : Char) (multiline : Bool) (c : Char) (rest : List Char) :
    quotedLength quote multiline (c :: rest) =
      if c = quote then (true, 1)
      else if c = '\\' then
        match rest with
        | [] => (false, 0)
        | escaped :: after =>
          if escaped = '\n' then (false, 0)
          else
            ((quotedLength quote multiline after).1, (quotedLength quote multiline after).2 + 2)
      else if c = '\n' ∧ multiline = false then (false, 0)
      else ((quotedLength quote multiline rest).1, (quotedLength quote multiline rest).2 + 1) :=
  quotedLength.eq_def _ _ _

theorem quotedLength_of_eq_zero {quote : Char} {multiline : Bool}
    (h : (quotedLength quote multiline cs).2 = 0) :
    quotedLength quote multiline cs = (false, 0) := by
  cases cs with
  | nil => rfl
  | cons c rest =>
    rw [quotedLength_cons] at h ⊢
    split at h
    · cases h
    · rename_i hquote
      rw [if_neg hquote]
      split at h
      · rename_i hbackslash
        rw [if_pos hbackslash]
        split at h
        · rfl
        · split at h
          · rename_i hescaped
            exact if_pos hescaped
          · cases h
      · rename_i hbackslash
        rw [if_neg hbackslash]
        split at h
        · rename_i hline
          exact if_pos hline
        · cases h

/-- Without a closing quote the count ends where the literal breaks off, which may be the end. -/
theorem quotedLength_append_of_le {quote : Char} {multiline : Bool}
    (h : (quotedLength quote multiline (cs ++ old)).2 ≤ cs.length) :
    quotedLength quote multiline (cs ++ old) = quotedLength quote multiline cs := by
  fun_induction quotedLength quote multiline cs with
  | case1 => exact quotedLength_of_eq_zero (Nat.eq_zero_of_le_zero h)
  | case2 rest => rw [List.cons_append, quotedLength_cons, if_pos rfl]
  | case3 hquote =>
    -- A backslash at the end stands alone, and so it does before a line feed.
    rw [List.cons_append, List.nil_append, quotedLength_cons, if_neg hquote, if_pos rfl] at h ⊢
    cases old with
    | nil => rfl
    | cons escaped after =>
      dsimp only at h ⊢
      split
      · rfl
      · rename_i hescaped
        rw [if_neg hescaped] at h
        simp at h
  | case4 after hquote =>
    rw [List.cons_append, List.cons_append, quotedLength_cons, if_neg hquote, if_pos rfl]
    exact if_pos rfl
  | case5 escaped after hescaped closed n hrest hquote ih =>
    rw [List.cons_append, List.cons_append, quotedLength_cons, if_neg hquote, if_pos rfl] at h ⊢
    dsimp only at h ⊢
    rw [if_neg hescaped] at h ⊢
    simp only [List.length_cons] at h
    rw [ih (by omega), hrest]
  | case6 c rest hquote hbackslash hline =>
    rw [List.cons_append, quotedLength_cons, if_neg hquote, if_neg hbackslash, if_pos hline]
  | case7 c rest hquote hbackslash hline closed n hrest ih =>
    rw [List.cons_append, quotedLength_cons, if_neg hquote, if_neg hbackslash, if_neg hline] at h ⊢
    simp only [List.length_cons] at h
    rw [ih (by omega), hrest]

theorem two_le_blockCommentLength {n : Nat} (h : blockCommentLength? cs = some n) : 2 ≤ n := by
  fun_induction blockCommentLength? cs generalizing n with
  | case1 => cases h
  | case2 => cases h
  | case3 => cases h; exact Nat.le_refl 2
  | case4 c d rest hclose ih =>
    obtain ⟨m, hm, rfl⟩ := Option.map_eq_some_iff.1 h
    exact Nat.le_succ_of_le (ih hm)

theorem blockCommentLength?_append_of_le {n : Nat}
    (h : blockCommentLength? (cs ++ old) = some n) (hle : n ≤ cs.length) :
    blockCommentLength? cs = some n := by
  have htwo := two_le_blockCommentLength h
  fun_induction blockCommentLength? cs generalizing n with
  | case1 => simp at hle; omega
  | case2 => simp at hle; omega
  | case3 c d rest hclose => simpa [blockCommentLength?, hclose] using h
  | case4 c d rest hclose ih =>
    rw [List.cons_append, List.cons_append, blockCommentLength?, if_neg hclose,
      ← List.cons_append] at h
    obtain ⟨m, hm, rfl⟩ := Option.map_eq_some_iff.1 h
    rw [ih hm (by simpa using hle) (two_le_blockCommentLength hm), Option.map_some]

theorem regexBodyLength?_cons (inClass : Bool) (c : Char) (rest : List Char) :
    regexBodyLength? inClass (c :: rest) =
      if c = '\n' ∨ c = '\r' then none
      else if c = '\\' then
        match rest with
        | [] => none
        | escaped :: after =>
          if escaped = '\n' then none else (regexBodyLength? inClass after).map (· + 2)
      else if c = '[' then (regexBodyLength? true rest).map (· + 1)
      else if c = ']' then (regexBodyLength? false rest).map (· + 1)
      else if c = '/' ∧ inClass = false then some 1
      else (regexBodyLength? inClass rest).map (· + 1) :=
  regexBodyLength?.eq_def _ _

/-- A regular expression ends where it ends, whatever follows. -/
theorem regexBodyLength?_append {inClass : Bool} {n : Nat}
    (h : regexBodyLength? inClass cs = some n) (tail : List Char) :
    regexBodyLength? inClass (cs ++ tail) = some n := by
  fun_induction regexBodyLength? inClass cs generalizing n with
  | case1 => cases h
  | case2 => cases h
  | case3 => cases h
  | case4 => cases h
  | case5 inClass escaped after hescaped hend ih =>
    obtain ⟨m, hm, rfl⟩ := Option.map_eq_some_iff.1 h
    rw [List.cons_append, List.cons_append, regexBodyLength?_cons, if_neg hend, if_pos rfl]
    dsimp only
    rw [if_neg hescaped, ih hm, Option.map_some]
  | case6 inClass rest hend hbackslash ih =>
    obtain ⟨m, hm, rfl⟩ := Option.map_eq_some_iff.1 h
    rw [List.cons_append, regexBodyLength?_cons, if_neg hend, if_neg hbackslash, if_pos rfl, ih hm,
      Option.map_some]
  | case7 inClass rest hend hbackslash hopen ih =>
    obtain ⟨m, hm, rfl⟩ := Option.map_eq_some_iff.1 h
    rw [List.cons_append, regexBodyLength?_cons, if_neg hend, if_neg hbackslash, if_neg hopen,
      if_pos rfl, ih hm, Option.map_some]
  | case8 inClass c rest hend hbackslash hopen hshut hclose =>
    rw [List.cons_append, regexBodyLength?_cons, if_neg hend, if_neg hbackslash, if_neg hopen,
      if_neg hshut, if_pos hclose]
    exact h
  | case9 inClass c rest hend hbackslash hopen hshut hclose ih =>
    obtain ⟨m, hm, rfl⟩ := Option.map_eq_some_iff.1 h
    rw [List.cons_append, regexBodyLength?_cons, if_neg hend, if_neg hbackslash, if_neg hopen,
      if_neg hshut, if_neg hclose, ih hm, Option.map_some]

theorem regexBodyLength?_pos {inClass : Bool} {n : Nat}
    (h : regexBodyLength? inClass cs = some n) : 0 < n := by
  fun_induction regexBodyLength? inClass cs with
  | case1 => cases h
  | case2 => cases h
  | case3 => cases h
  | case4 => cases h
  | case8 => cases h; exact Nat.zero_lt_one
  | case5 | case6 | case7 | case9 =>
    obtain ⟨m, -, rfl⟩ := Option.map_eq_some_iff.1 h
    exact Nat.succ_pos _

theorem regexBodyLength?_append_of_le {inClass : Bool} {n : Nat}
    (h : regexBodyLength? inClass (cs ++ old) = some n) (hle : n ≤ cs.length) :
    regexBodyLength? inClass cs = some n := by
  have hpos := regexBodyLength?_pos h
  fun_induction regexBodyLength? inClass cs generalizing n with
  | case1 => exact absurd hpos (Nat.not_lt.2 hle)
  | case2 inClass c rest hend =>
    rw [List.cons_append, regexBodyLength?_cons, if_pos hend] at h
    cases h
  | case3 inClass hend =>
    rw [List.cons_append, List.nil_append, regexBodyLength?_cons, if_neg hend, if_pos rfl] at h
    cases old with
    | nil => cases h
    | cons escaped after =>
      dsimp only at h
      split at h
      · cases h
      · obtain ⟨m, -, rfl⟩ := Option.map_eq_some_iff.1 h
        simp at hle
  | case4 inClass after hend =>
    rw [List.cons_append, List.cons_append, regexBodyLength?_cons, if_neg hend, if_pos rfl] at h
    cases h
  | case5 inClass escaped after hescaped hend ih =>
    rw [List.cons_append, List.cons_append, regexBodyLength?_cons, if_neg hend, if_pos rfl] at h
    dsimp only at h
    rw [if_neg hescaped] at h
    obtain ⟨m, hm, rfl⟩ := Option.map_eq_some_iff.1 h
    rw [ih hm (by simpa using hle) (regexBodyLength?_pos hm), Option.map_some]
  | case6 inClass rest hend hbackslash ih =>
    rw [List.cons_append, regexBodyLength?_cons, if_neg hend, if_neg hbackslash, if_pos rfl] at h
    obtain ⟨m, hm, rfl⟩ := Option.map_eq_some_iff.1 h
    rw [ih hm (by simpa using hle) (regexBodyLength?_pos hm), Option.map_some]
  | case7 inClass rest hend hbackslash hopen ih =>
    rw [List.cons_append, regexBodyLength?_cons, if_neg hend, if_neg hbackslash, if_neg hopen,
      if_pos rfl] at h
    obtain ⟨m, hm, rfl⟩ := Option.map_eq_some_iff.1 h
    rw [ih hm (by simpa using hle) (regexBodyLength?_pos hm), Option.map_some]
  | case8 inClass c rest hend hbackslash hopen hshut hclose =>
    rw [List.cons_append, regexBodyLength?_cons, if_neg hend, if_neg hbackslash, if_neg hopen,
      if_neg hshut, if_pos hclose] at h
    exact h
  | case9 inClass c rest hend hbackslash hopen hshut hclose ih =>
    rw [List.cons_append, regexBodyLength?_cons, if_neg hend, if_neg hbackslash, if_neg hopen,
      if_neg hshut, if_neg hclose] at h
    obtain ⟨m, hm, rfl⟩ := Option.map_eq_some_iff.1 h
    rw [ih hm (by simpa using hle) (regexBodyLength?_pos hm), Option.map_some]

/-- A regular expression that ends within a text is one of this text, and otherwise there is none
in it. -/
theorem regexLength?_append_of_le
    (h : ∀ n, regexLength? (cs ++ old) = some n → n ≤ cs.length) :
    regexLength? (cs ++ old) = regexLength? cs := by
  cases hbody : regexBodyLength? false (cs ++ old) with
  | none =>
    have hnone : regexBodyLength? false cs = none := by
      cases hcs : regexBodyLength? false cs with
      | none => rfl
      | some n =>
        rw [regexBodyLength?_append hcs] at hbody
        cases hbody
    rw [regexLength?, regexLength?, hbody, hnone]
    rfl
  | some body =>
    have hle := h _ (by rw [regexLength?, hbody, Option.map_some])
    have hcut := regexBodyLength?_append_of_le hbody (by omega)
    have hbodyLe := regexBodyLength?_le hcut
    rw [List.drop_append_of_le_length hbodyLe] at hle
    rw [regexLength?, regexLength?, hbody, hcut, Option.map_some, Option.map_some,
      List.drop_append_of_le_length hbodyLe,
      takeWhile_append_of_le (by rw [List.length_drop]; omega)]
/-! ## Putting other text behind -/

theorem takeWhile_append_of_lt {p : Char → Bool} (h : (cs.takeWhile p).length < cs.length)
    (tail : List Char) : (cs ++ tail).takeWhile p = cs.takeWhile p := by
  rw [List.takeWhile_append, if_neg (Nat.ne_of_lt h)]

/-- A literal that breaks off before the end does so also with more behind. -/
theorem quotedLength_append_of_lt {quote : Char} {multiline : Bool}
    (h : (quotedLength quote multiline cs).2 < cs.length) (hlast : cs.getLast? ≠ some '\\')
    (tail : List Char) :
    quotedLength quote multiline (cs ++ tail) = quotedLength quote multiline cs := by
  fun_induction quotedLength quote multiline cs with
  | case1 => cases h
  | case2 rest => rw [List.cons_append, quotedLength_cons, if_pos rfl]
  | case3 => exact absurd rfl hlast
  | case4 after hquote =>
    rw [List.cons_append, List.cons_append, quotedLength_cons, if_neg hquote, if_pos rfl]
    exact if_pos rfl
  | case5 escaped after hescaped closed n hrest hquote ih =>
    rw [hrest] at ih
    have hlt : n < after.length := by
      simp only [List.length_cons] at h
      omega
    have hne : after ≠ [] := List.ne_nil_of_length_pos (Nat.zero_lt_of_lt hlt)
    rw [List.getLast?_cons_of_ne_nil (List.cons_ne_nil _ _),
      List.getLast?_cons_of_ne_nil hne] at hlast
    rw [List.cons_append, List.cons_append, quotedLength_cons, if_neg hquote, if_pos rfl]
    dsimp only
    rw [if_neg hescaped, ih hlt hlast]
  | case6 c rest hquote hbackslash hline =>
    rw [List.cons_append, quotedLength_cons, if_neg hquote, if_neg hbackslash, if_pos hline]
  | case7 c rest hquote hbackslash hline closed n hrest ih =>
    rw [hrest] at ih
    have hlt : n < rest.length := by
      simp only [List.length_cons] at h
      omega
    have hne : rest ≠ [] := List.ne_nil_of_length_pos (Nat.zero_lt_of_lt hlt)
    rw [List.getLast?_cons_of_ne_nil hne] at hlast
    rw [List.cons_append, quotedLength_cons, if_neg hquote, if_neg hbackslash, if_neg hline,
      ih hlt hlast]

theorem blockCommentLength?_eq_none (h : '/' ∉ cs) : blockCommentLength? cs = none := by
  fun_induction blockCommentLength? cs with
  | case1 => rfl
  | case2 => rfl
  | case3 c d rest hclose =>
    rw [hclose.2] at h
    simp at h
  | case4 c d rest hclose ih => rw [ih (List.not_mem_of_not_mem_cons h), Option.map_none]

/-- A comment that is not closed stays open without a slash. -/
theorem blockCommentLength?_append_eq_none (h : blockCommentLength? cs = none)
    (htail : '/' ∉ tail) : blockCommentLength? (cs ++ tail) = none := by
  fun_induction blockCommentLength? cs with
  | case1 => exact blockCommentLength?_eq_none htail
  | case2 c =>
    cases tail with
    | nil => rfl
    | cons d rest =>
      have hclose : ¬(c = '*' ∧ d = '/') := by
        rintro ⟨-, rfl⟩
        exact htail List.mem_cons_self
      rw [List.singleton_append, blockCommentLength?, if_neg hclose,
        blockCommentLength?_eq_none htail, Option.map_none]
  | case3 => cases h
  | case4 c d rest hclose ih =>
    rw [List.cons_append, List.cons_append, blockCommentLength?, if_neg hclose,
      ← List.cons_append, ih (Option.map_eq_none_iff.1 h), Option.map_none]

theorem regexBodyLength?_eq_none (inClass : Bool) (h : '/' ∉ cs) :
    regexBodyLength? inClass cs = none := by
  fun_induction regexBodyLength? inClass cs with
  | case1 => rfl
  | case2 => rfl
  | case3 => rfl
  | case4 => rfl
  | case5 inClass escaped after hescaped hend ih =>
    rw [ih (List.not_mem_of_not_mem_cons (List.not_mem_of_not_mem_cons h)), Option.map_none]
  | case6 inClass rest hend hbackslash ih =>
    rw [ih (List.not_mem_of_not_mem_cons h), Option.map_none]
  | case7 inClass rest hend hbackslash hopen ih =>
    rw [ih (List.not_mem_of_not_mem_cons h), Option.map_none]
  | case8 inClass c rest hend hbackslash hopen hshut hclose =>
    rw [hclose.1] at h
    simp at h
  | case9 inClass c rest hend hbackslash hopen hshut hclose ih =>
    rw [ih (List.not_mem_of_not_mem_cons h), Option.map_none]

/-- A regular expression that is not closed stays open without a slash. -/
theorem regexBodyLength?_append_eq_none {inClass : Bool} (h : regexBodyLength? inClass cs = none)
    (htail : '/' ∉ tail) : regexBodyLength? inClass (cs ++ tail) = none := by
  fun_induction regexBodyLength? inClass cs with
  | case1 inClass => exact regexBodyLength?_eq_none inClass htail
  | case2 inClass c rest hend => rw [List.cons_append, regexBodyLength?_cons, if_pos hend]
  | case3 inClass hend =>
    rw [List.singleton_append, regexBodyLength?_cons, if_neg hend, if_pos rfl]
    cases tail with
    | nil => rfl
    | cons escaped after =>
      dsimp only
      rw [regexBodyLength?_eq_none inClass (List.not_mem_of_not_mem_cons htail), Option.map_none,
        ite_self]
  | case4 inClass after hend =>
    rw [List.cons_append, List.cons_append, regexBodyLength?_cons, if_neg hend, if_pos rfl]
    exact if_pos rfl
  | case5 inClass escaped after hescaped hend ih =>
    rw [List.cons_append, List.cons_append, regexBodyLength?_cons, if_neg hend, if_pos rfl]
    dsimp only
    rw [if_neg hescaped, ih (Option.map_eq_none_iff.1 h), Option.map_none]
  | case6 inClass rest hend hbackslash ih =>
    rw [List.cons_append, regexBodyLength?_cons, if_neg hend, if_neg hbackslash, if_pos rfl,
      ih (Option.map_eq_none_iff.1 h), Option.map_none]
  | case7 inClass rest hend hbackslash hopen ih =>
    rw [List.cons_append, regexBodyLength?_cons, if_neg hend, if_neg hbackslash, if_neg hopen,
      if_pos rfl, ih (Option.map_eq_none_iff.1 h), Option.map_none]
  | case8 => cases h
  | case9 inClass c rest hend hbackslash hopen hshut hclose ih =>
    rw [List.cons_append, regexBodyLength?_cons, if_neg hend, if_neg hbackslash, if_neg hopen,
      if_neg hshut, if_neg hclose, ih (Option.map_eq_none_iff.1 h), Option.map_none]

/-- The text begins with a character that ends the token before it, and it has no slash, so it
closes neither a comment nor a regular expression. -/
structure EndsToken (tail : List Char) : Prop where
  isStop : ∃ stop rest, IsStop stop ∧ tail = stop :: rest
  no_slash : '/' ∉ tail

theorem regexLength?_append_stop (htail : EndsToken tail) (cs : List Char) :
    regexLength? (cs ++ tail) = regexLength? cs := by
  cases hbody : regexBodyLength? false cs with
  | none =>
    rw [regexLength?, regexLength?, regexBodyLength?_append_eq_none hbody htail.no_slash, hbody]
    rfl
  | some body =>
    obtain ⟨stop, rest, hstop, rfl⟩ := htail.isStop
    have hletter : isAsciiLetter stop = false := by rcases hstop with rfl | rfl <;> rfl
    rw [regexLength?, regexLength?, regexBodyLength?_append hbody, hbody, Option.map_some,
      Option.map_some, List.drop_append_of_le_length (regexBodyLength?_le hbody),
      takeWhile_append_stop hletter]

end ComponentDocs.Literal
