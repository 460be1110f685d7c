import ComponentDocs.Token.Scan

/-!
# Extents of tokens

Two facts about the extent of a token.  It does not go past the end of the text (`extent_le`), and
it does not change when a line feed and any further text are put after the text, unless the token
is an error (`extent_append_newline`).  Error tokens have to be left out: an open quote or comment
may be closed by what comes later.

Each kind of literal has its own pair of lemmas.  The first character of a token decides how it is
read (`Reads`), and by cases on that the two statements above put the lemmas together.
-/

namespace ComponentDocs.Literal

open Text

/-- A run of characters ends where a character stops it. -/
theorem takeWhile_append_stop {p : Char → Bool} {stop : Char} (hstop : p stop = false)
    (cs tail : List Char) : (cs ++ stop :: tail).takeWhile p = cs.takeWhile p := by
  induction cs with
  | nil => simp [hstop]
  | cons c cs ih => by_cases hc : p c <;> simp [hc, ih]

/-- A character behind which neither a word nor a number goes on. -/
def IsStop (c : Char) : Prop :=
  c = '\n' ∨ c = ';'

theorem IsStop.isWordPart {c : Char} (h : IsStop c) : isWordPart c = false := by
  rcases h with rfl | rfl <;> rfl

/-- A character behind which no number goes on. -/
structure EndsNumber (c : Char) : Prop where
  isWordPart : isWordPart c = false
  ne_point : c ≠ '.'
  ne_sign : ¬(c = '+' ∨ c = '-')

theorem IsStop.endsNumber {c : Char} (h : IsStop c) : EndsNumber c := by
  rcases h with rfl | rfl <;> exact ⟨rfl, by decide, by decide⟩

namespace EndsNumber

variable {c : Char}

theorem isAsciiDigit (h : EndsNumber c) : isAsciiDigit c = false :=
  (Bool.or_eq_false_iff.1 h.isWordPart).2

theorem isAsciiLetter (h : EndsNumber c) : isAsciiLetter c = false := by
  have hstart := (Bool.or_eq_false_iff.1 h.isWordPart).1
  exact (Bool.or_eq_false_iff.1 (Bool.or_eq_false_iff.1 hstart).1).1

theorem isDigitPart (h : EndsNumber c) : isDigitPart c = false := by
  have hstart := (Bool.or_eq_false_iff.1 h.isWordPart).1
  rw [Literal.isDigitPart, h.isAsciiDigit,
    (Bool.or_eq_false_iff.1 (Bool.or_eq_false_iff.1 hstart).1).2]
  rfl

/-- The marks of a radix and of an exponent are letters. -/
theorem ne_of_isAsciiLetter (h : EndsNumber c) {mark : Char}
    (hmark : Text.isAsciiLetter mark = true) : c ≠ mark := by
  rintro rfl
  rw [h.isAsciiLetter] at hmark
  cases hmark

theorem isRadixMark (h : EndsNumber c) : isRadixMark c = false := by
  refine Bool.eq_false_iff.2 fun hcontains => ?_
  have hmarks : "xXbBoO".toList.all Text.isAsciiLetter = true := by decide
  have hletter := List.all_eq_true.1 hmarks c (List.contains_iff_mem.1 hcontains)
  exact h.ne_of_isAsciiLetter hletter rfl

theorem isRadixDigit (h : EndsNumber c) : isRadixDigit c = false := by
  refine Bool.eq_false_iff.2 fun hdigit => ?_
  have hletter := h.isAsciiLetter
  simp only [Literal.isRadixDigit, h.isDigitPart, Text.isAsciiLetter, Bool.or_eq_true,
    Bool.or_eq_false_iff, Bool.and_eq_true, decide_eq_true_eq, Bool.and_eq_false_iff,
    decide_eq_false_iff_not, Bool.false_eq_true, false_or] at hdigit hletter
  rcases hdigit with ⟨hlow, hhigh⟩ | ⟨hlow, hhigh⟩
  · exact hletter.1.elim (· hlow) (· (Char.le_trans hhigh (by decide)))
  · exact hletter.2.elim (· hlow) (· (Char.le_trans hhigh (by decide)))

end EndsNumber

theorem takeWhile_length_le (p : Char → Bool) (cs : List Char) :
    (cs.takeWhile p).length ≤ cs.length :=
  (List.takeWhile_sublist p).length_le

/-! ## Numbers -/

theorem fractionLength_le (cs : List Char) : fractionLength cs ≤ cs.length := by
  unfold fractionLength
  split
  · rename_i point digit rest
    have := takeWhile_length_le isDigitPart rest
    split <;> simp only [List.length_cons] <;> omega
  · exact Nat.zero_le _

theorem fractionLength_append_stop {stop : Char} (hstop : EndsNumber stop) (cs tail : List Char) :
    fractionLength (cs ++ stop :: tail) = fractionLength cs := by
  match cs with
  | [] =>
    cases tail <;> simp [fractionLength, hstop.ne_point]
  | [point] => simp [fractionLength, hstop.isAsciiDigit]
  | point :: digit :: rest =>
    have hrest := takeWhile_append_stop hstop.isDigitPart rest tail
    simp only [List.cons_append, fractionLength, hrest]

theorem exponentDigits_le (signed : Nat) (cs : List Char) :
    exponentDigits signed cs ≤ signed + cs.length := by
  have := takeWhile_length_le isAsciiDigit cs
  unfold exponentDigits
  split <;> omega

theorem exponentDigits_append_stop {stop : Char} (hstop : EndsNumber stop) (signed : Nat)
    (cs tail : List Char) :
    exponentDigits signed (cs ++ stop :: tail) = exponentDigits signed cs := by
  unfold exponentDigits
  rw [takeWhile_append_stop hstop.isAsciiDigit]

theorem exponentLength_le (cs : List Char) : exponentLength cs ≤ cs.length := by
  unfold exponentLength
  split
  · rename_i mark sign rest
    have hsigned := exponentDigits_le 2 rest
    have hplain := exponentDigits_le 1 (sign :: rest)
    simp only [List.length_cons] at hplain ⊢
    split
    · split <;> omega
    · omega
  · exact Nat.zero_le _

theorem exponentLength_append_stop {stop : Char} (hstop : EndsNumber stop) (cs tail : List Char) :
    exponentLength (cs ++ stop :: tail) = exponentLength cs := by
  match cs with
  | [] =>
    have hmark : ¬(stop = 'e' ∨ stop = 'E') := fun hmark => hmark.elim
      (hstop.ne_of_isAsciiLetter (by decide)) (hstop.ne_of_isAsciiLetter (by decide))
    cases tail <;> simp [exponentLength, hmark]
  | [mark] =>
    have hdigits := exponentDigits_append_stop hstop 1 [] tail
    simp only [List.nil_append] at hdigits
    simp only [List.singleton_append, exponentLength, if_neg hstop.ne_sign, hdigits]
    simp [exponentDigits]
  | mark :: sign :: rest =>
    have hsigned := exponentDigits_append_stop hstop 2 rest tail
    have hplain := exponentDigits_append_stop hstop 1 (sign :: rest) tail
    simp only [List.cons_append] at hplain
    simp only [List.cons_append, exponentLength, hsigned, hplain]

theorem decimalLength_le (cs : List Char) : decimalLength cs ≤ cs.length := by
  have hwhole := takeWhile_length_le isDigitPart cs
  have hfraction := fractionLength_le (cs.drop (cs.takeWhile isDigitPart).length)
  have hexponent := exponentLength_le (cs.drop ((cs.takeWhile isDigitPart).length +
    fractionLength (cs.drop (cs.takeWhile isDigitPart).length)))
  simp only [List.length_drop] at hfraction hexponent
  simp only [decimalLength]
  omega

theorem decimalLength_append_stop {stop : Char} (hstop : EndsNumber stop) (cs tail : List Char) :
    decimalLength (cs ++ stop :: tail) = decimalLength cs := by
  have hwhole := takeWhile_length_le isDigitPart cs
  have hfraction := fractionLength_le (cs.drop (cs.takeWhile isDigitPart).length)
  rw [List.length_drop] at hfraction
  simp only [decimalLength]
  rw [takeWhile_append_stop hstop.isDigitPart, List.drop_append_of_le_length hwhole,
    fractionLength_append_stop hstop, List.drop_append_of_le_length (by omega),
    exponentLength_append_stop hstop]

theorem radixLength_le (cs : List Char) : radixLength cs ≤ cs.length := by
  unfold radixLength
  split
  · rename_i mark rest
    have := takeWhile_length_le isRadixDigit rest
    split
    · split <;> simp only [List.length_cons] <;> omega
    · exact Nat.zero_le _
  · exact Nat.zero_le _

theorem radixLength_append_stop {stop : Char} (hstop : EndsNumber stop) (cs tail : List Char) :
    radixLength (cs ++ stop :: tail) = radixLength cs := by
  cases cs with
  | nil =>
    simp [radixLength, hstop.isRadixMark]
  | cons mark rest =>
    simp only [List.cons_append, radixLength]
    rw [takeWhile_append_stop hstop.isRadixDigit]

theorem numberLength_le (first : Char) (cs : List Char) : numberLength first cs ≤ cs.length := by
  have hradix := radixLength_le cs
  have hdecimal := decimalLength_le cs
  unfold numberLength
  split <;> omega

theorem numberLength_append_stop {stop : Char} (hstop : EndsNumber stop) (first : Char)
    (cs tail : List Char) : numberLength first (cs ++ stop :: tail) = numberLength first cs := by
  simp only [numberLength, radixLength_append_stop hstop, decimalLength_append_stop hstop]

/-! ## Quoted text and comments -/

theorem quotedLength_le (quote : Char) (multiline : Bool) (cs : List Char) :
    (quotedLength quote multiline cs).2 ≤ cs.length := by
  fun_induction quotedLength quote multiline cs with
  | case1 => exact Nat.le_refl _
  | case2 => simp
  | case3 => simp
  | case4 => simp
  | case5 escaped after _ closed n hrest _ ih =>
    simp only [hrest] at ih
    simp only [List.length_cons]
    omega
  | case6 => simp
  | case7 c rest _ _ _ closed n hrest ih =>
    simp only [hrest] at ih
    simp only [List.length_cons]
    omega

/-- A closed literal ends where it ends, whatever follows. -/
theorem quotedLength_append {quote : Char} {multiline : Bool} {cs : List Char} {n : Nat}
    (h : quotedLength quote multiline cs = (true, n)) (tail : List Char) :
    quotedLength quote multiline (cs ++ tail) = (true, n) := by
  fun_induction quotedLength quote multiline cs generalizing n with
  | case1 => cases h
  | case2 rest =>
    rw [List.cons_append, quotedLength.eq_def]
    dsimp only
    rw [if_pos rfl]
    exact h
  | case3 => cases h
  | case4 => cases h
  | case5 escaped after hescaped closed m hrest hquote ih =>
    cases h
    rw [List.cons_append, List.cons_append, quotedLength.eq_def]
    dsimp only
    rw [if_neg hquote, if_pos rfl, if_neg hescaped, ih hrest]
  | case6 => cases h
  | case7 c rest hquote hbackslash hline closed m hrest ih =>
    cases h
    rw [List.cons_append, quotedLength.eq_def]
    dsimp only
    rw [if_neg hquote, if_neg hbackslash, if_neg hline, ih hrest]

theorem lineCommentLength_append_newline (cs tail : List Char) :
    lineCommentLength (cs ++ '\n' :: tail) = lineCommentLength cs := by
  unfold lineCommentLength
  rw [takeWhile_append_stop (by decide)]

theorem blockCommentLength?_le {cs : List Char} {n : Nat} (h : blockCommentLength? cs = some n) :
    n ≤ cs.length := by
  fun_induction blockCommentLength? cs generalizing n with
  | case1 => cases h
  | case2 => cases h
  | case3 => cases h; simp
  | case4 c d rest _ ih =>
    obtain ⟨m, hm, rfl⟩ := Option.map_eq_some_iff.1 h
    exact Nat.succ_le_succ (ih hm)

theorem blockCommentLength?_append {cs : List Char} {n : Nat}
    (h : blockCommentLength? cs = some n) (tail : List Char) :
    blockCommentLength? (cs ++ tail) = some n := by
  fun_induction blockCommentLength? cs generalizing n with
  | case1 => cases h
  | case2 => cases h
  | case3 c d rest hclose => simpa [blockCommentLength?, hclose] using h
  | case4 c d rest hclose ih =>
    obtain ⟨m, hm, rfl⟩ := Option.map_eq_some_iff.1 h
    have hrest := ih hm
    simp only [List.cons_append] at hrest
    simp only [List.cons_append, blockCommentLength?, if_neg hclose, hrest, Option.map_some]

/-! ## Regular expressions -/

theorem regexBodyLength?_le {inClass : Bool} {cs : List Char} {n : Nat}
    (h : regexBodyLength? inClass cs = some n) : n ≤ cs.length := by
  fun_induction regexBodyLength? inClass cs generalizing n with
  | case1 => cases h
  | case2 => cases h
  | case3 => cases h
  | case4 => cases h
  | case5 _ escaped after _ _ ih =>
    obtain ⟨m, hm, rfl⟩ := Option.map_eq_some_iff.1 h
    have := ih hm
    simp only [List.length_cons]
    omega
  | case6 _ rest _ _ ih =>
    obtain ⟨m, hm, rfl⟩ := Option.map_eq_some_iff.1 h
    exact Nat.succ_le_succ (ih hm)
  | case7 _ rest _ _ _ ih =>
    obtain ⟨m, hm, rfl⟩ := Option.map_eq_some_iff.1 h
    exact Nat.succ_le_succ (ih hm)
  | case8 => cases h; simp
  | case9 _ c rest _ _ _ _ _ ih =>
    obtain ⟨m, hm, rfl⟩ := Option.map_eq_some_iff.1 h
    exact Nat.succ_le_succ (ih hm)

/-- A line feed ends the attempt to read a regular expression, and it would not have ended later. -/
theorem regexBodyLength?_append_newline (inClass : Bool) (cs tail : List Char) :
    regexBodyLength? inClass (cs ++ '\n' :: tail) = regexBodyLength? inClass cs := by
  fun_induction regexBodyLength? inClass cs with
  | case1 =>
    rw [List.nil_append, regexBodyLength?.eq_def]
    rfl
  | case2 _ c rest hend =>
    rw [List.cons_append, regexBodyLength?.eq_def]
    dsimp only
    rw [if_pos hend]
  | case3 => rfl
  | case4 => rfl
  | case5 _ escaped after hescaped hend ih =>
    rw [List.cons_append, List.cons_append, regexBodyLength?.eq_def]
    dsimp only
    rw [if_neg hend, if_pos rfl, if_neg hescaped, ih]
  | case6 _ rest hend hbackslash ih =>
    rw [List.cons_append, regexBodyLength?.eq_def]
    dsimp only
    rw [if_neg hend, if_neg hbackslash, if_pos rfl, ih]
  | case7 _ rest hend hbackslash hopen ih =>
    rw [List.cons_append, regexBodyLength?.eq_def]
    dsimp only
    rw [if_neg hend, if_neg hbackslash, if_neg hopen, if_pos rfl, ih]
  | case8 _ c rest hend hbackslash hopen hshut hclose =>
    rw [List.cons_append, regexBodyLength?.eq_def]
    dsimp only
    rw [if_neg hend, if_neg hbackslash, if_neg hopen, if_neg hshut, if_pos hclose]
  | case9 _ c rest hend hbackslash hopen hshut hclose ih =>
    rw [List.cons_append, regexBodyLength?.eq_def]
    dsimp only
    rw [if_neg hend, if_neg hbackslash, if_neg hopen, if_neg hshut, if_neg hclose, ih]

theorem regexLength?_le {cs : List Char} {n : Nat} (h : regexLength? cs = some n) :
    n ≤ cs.length := by
  obtain ⟨body, hbody, rfl⟩ := Option.map_eq_some_iff.1 h
  have hle := regexBodyLength?_le hbody
  have hflags := takeWhile_length_le isAsciiLetter (cs.drop body)
  rw [List.length_drop] at hflags
  omega

theorem regexLength?_append_newline (cs tail : List Char) :
    regexLength? (cs ++ '\n' :: tail) = regexLength? cs := by
  unfold regexLength?
  rw [regexBodyLength?_append_newline]
  cases hbody : regexBodyLength? false cs with
  | none => rfl
  | some body =>
    rw [Option.map_some, Option.map_some, List.drop_append_of_le_length (regexBodyLength?_le hbody),
      takeWhile_append_stop (by decide)]

end ComponentDocs.Literal

namespace ComponentDocs.Token

open Text Literal

/-! ## Tokens -/

theorem quotedExtent_le (quote : Char) (multiline : Bool) (kind : Kind) (rest : List Char) :
    (quotedExtent quote multiline kind rest).2 ≤ rest.length :=
  quotedLength_le quote multiline rest

theorem quotedExtent_append {quote : Char} {multiline : Bool} {kind : Kind} {rest : List Char}
    (herror : (quotedExtent quote multiline kind rest).1 ≠ .error) (tail : List Char) :
    quotedExtent quote multiline kind (rest ++ tail) =
      quotedExtent quote multiline kind rest := by
  unfold quotedExtent at herror ⊢
  cases hquoted : quotedLength quote multiline rest with
  | mk closed n =>
    cases closed with
    | false => simp [hquoted] at herror
    | true => rw [quotedLength_append hquoted]

theorem slashExtent_le (regexAllowed : Bool) (rest : List Char) :
    (slashExtent regexAllowed rest).2 ≤ rest.length := by
  unfold slashExtent
  split
  · rename_i comment
    have := takeWhile_length_le (· != '\n') comment
    simp only [lineCommentLength, List.length_cons]
    omega
  · split
    · rename_i n hn
      have := blockCommentLength?_le hn
      simp only [List.length_cons]
      omega
    · simp
  · split
    · rename_i n hn
      split at hn
      · exact regexLength?_le hn
      · cases hn
    · exact Nat.zero_le _

theorem slashExtent_append_newline {regexAllowed : Bool} {rest : List Char}
    (herror : (slashExtent regexAllowed rest).1 ≠ .error) (tail : List Char) :
    slashExtent regexAllowed (rest ++ '\n' :: tail) = slashExtent regexAllowed rest := by
  have hregex := regexLength?_append_newline rest tail
  unfold slashExtent at herror ⊢
  split at herror
  · rename_i comment
    simp only [List.cons_append, lineCommentLength_append_newline]
  · rename_i comment
    split at herror
    · rename_i n hn
      simp only [List.cons_append, blockCommentLength?_append hn]
    · exact absurd rfl herror
  · rename_i hline hblock
    -- With nothing after the slash, the line feed stands there, which opens no comment either.
    have hline' : ∀ comment, rest ++ '\n' :: tail ≠ '/' :: comment := by
      intro comment hcons
      cases rest with
      | nil => cases hcons
      | cons c rest => cases hcons; exact hline rest rfl
    have hblock' : ∀ comment, rest ++ '\n' :: tail ≠ '*' :: comment := by
      intro comment hcons
      cases rest with
      | nil => cases hcons
      | cons c rest => cases hcons; exact hblock rest rfl
    split
    · rename_i comment hcons
      exact absurd hcons (hline' comment)
    · rename_i comment hcons
      exact absurd hcons (hblock' comment)
    · rw [hregex]

theorem isPrefixOf_append_stop {mark : List Char} {stop : Char} (hmark : stop ∉ mark)
    (rest tail : List Char) :
    mark.isPrefixOf (rest ++ stop :: tail) = mark.isPrefixOf rest := by
  induction mark generalizing rest with
  | nil => simp
  | cons c mark ih =>
    rw [List.mem_cons, not_or] at hmark
    cases rest with
    | nil => simp [List.isPrefixOf, Ne.symm hmark.1]
    | cons d rest => simp [List.isPrefixOf, ih hmark.2]

/-- A sign that is of another kind with `mark` behind it. -/
def markExtent (mark : List Char) (marked plain : Kind) (rest : List Char) : Kind × Nat :=
  if mark.isPrefixOf rest then (marked, mark.length) else (plain, 0)

theorem markExtent_le (mark : List Char) (marked plain : Kind) (rest : List Char) :
    (markExtent mark marked plain rest).2 ≤ rest.length := by
  unfold markExtent
  by_cases hmark : mark.isPrefixOf rest
  · rw [if_pos hmark]
    exact (List.isPrefixOf_iff_prefix.1 hmark).length_le
  · rw [if_neg hmark]
    exact Nat.zero_le _

/-- The characters that open a quoted text, whether it may have several lines, and its kind. -/
def quotes : List (Char × Bool × Kind) :=
  [('"', false, .string), ('\x27', false, .string), ('\x60', true, .template)]

/-- The signs that another mark may follow, with the kinds with and without that mark. -/
def marks : List (Char × List Char × Kind × Kind) :=
  [('.', ['.', '.'], .ellipsis, .dot), ('?', ['.'], .optionalDot, .question),
    ('=', ['>'], .arrow, .equals)]

/-- How a token is read that begins with a character. -/
inductive Reads (regexAllowed : Bool) : Char → (List Char → Kind × Nat) → Prop
  | word {c : Char} (hc : isWordStart c = true) :
      Reads regexAllowed c fun rest => (.word, wordLength rest)
  | number {c : Char} (hc : isAsciiDigit c = true) :
      Reads regexAllowed c fun rest => (.number, numberLength c rest)
  | quoted {quote : Char} {multiline : Bool} {kind : Kind}
      (hquote : (quote, multiline, kind) ∈ quotes) :
      Reads regexAllowed quote (quotedExtent quote multiline kind)
  | slash : Reads regexAllowed '/' (slashExtent regexAllowed)
  | mark {c : Char} {mark : List Char} {marked plain : Kind}
      (hmark : (c, mark, marked, plain) ∈ marks) :
      Reads regexAllowed c (markExtent mark marked plain)
  | symbol {c : Char} : Reads regexAllowed c fun _ => (symbolKind c, 0)

/-- The first character of a token decides how the token is read. -/
theorem reads_extent (regexAllowed : Bool) (c : Char) :
    Reads regexAllowed c (extent regexAllowed c) := by
  have hextent : extent regexAllowed c = fun rest => extent regexAllowed c rest := rfl
  rw [hextent]
  simp only [extent]
  by_cases hword : isWordStart c = true
  · simp only [if_pos hword]
    exact .word hword
  simp only [if_neg hword]
  by_cases hdigit : isAsciiDigit c = true
  · simp only [if_pos hdigit]
    exact .number hdigit
  simp only [if_neg hdigit]
  by_cases hquote : c = '"' ∨ c = '\x27'
  · simp only [if_pos hquote]
    exact .quoted (by rcases hquote with rfl | rfl <;> decide)
  simp only [if_neg hquote]
  by_cases htemplate : c = '\x60'
  · simp only [if_pos htemplate]
    exact .quoted (by rw [htemplate]; decide)
  simp only [if_neg htemplate]
  by_cases hslash : c = '/'
  · simp only [if_pos hslash]
    rw [hslash]
    exact .slash
  simp only [if_neg hslash]
  by_cases hdot : c = '.'
  · simp only [if_pos hdot]
    exact @Reads.mark _ c ['.', '.'] .ellipsis .dot (by rw [hdot]; decide)
  simp only [if_neg hdot]
  by_cases hquestion : c = '?'
  · simp only [if_pos hquestion]
    exact @Reads.mark _ c ['.'] .optionalDot .question (by rw [hquestion]; decide)
  simp only [if_neg hquestion]
  by_cases hequals : c = '='
  · simp only [if_pos hequals]
    exact @Reads.mark _ c ['>'] .arrow .equals (by rw [hequals]; decide)
  simp only [if_neg hequals]
  exact .symbol

theorem extent_le (regexAllowed : Bool) (c : Char) (rest : List Char) :
    (extent regexAllowed c rest).2 ≤ rest.length := by
  have hreads := reads_extent regexAllowed c
  generalize extent regexAllowed c = read at hreads ⊢
  cases hreads with
  | word hc => exact takeWhile_length_le _ _
  | number hc => exact numberLength_le c rest
  | quoted hquote => exact quotedExtent_le _ _ _ _
  | slash => exact slashExtent_le _ _
  | mark hmark => exact markExtent_le _ _ _ _
  | symbol => exact Nat.zero_le _

/-- A token other than an error ends where it ends, also when a line feed and more text follow. -/
theorem extent_append_newline {regexAllowed : Bool} {c : Char} {rest : List Char}
    (herror : (extent regexAllowed c rest).1 ≠ .error) (tail : List Char) :
    extent regexAllowed c (rest ++ '\n' :: tail) = extent regexAllowed c rest := by
  have hreads := reads_extent regexAllowed c
  generalize extent regexAllowed c = read at hreads herror ⊢
  cases hreads with
  | word hc =>
    dsimp only
    rw [wordLength, takeWhile_append_stop (by decide), ← wordLength]
  | number hc =>
    dsimp only
    rw [numberLength_append_stop (IsStop.endsNumber (.inl rfl))]
  | quoted hquote => exact quotedExtent_append herror _
  | slash => exact slashExtent_append_newline herror tail
  | mark hmark =>
    have hmarks : ∀ entry ∈ marks, '\n' ∉ entry.2.1 := by decide
    rw [markExtent, isPrefixOf_append_stop (hmarks _ hmark), ← markExtent]
  | symbol => rfl

theorem mem_symbols_of_symbolKind {c : Char} {kind : Kind} (h : symbolKind c = kind)
    (hkind : kind ≠ .error) : (c, kind) ∈ symbols := by
  unfold symbolKind at h
  cases hlookup : symbols.lookup c with
  | none =>
    rw [hlookup] at h
    exact absurd h.symm hkind
  | some found =>
    rw [hlookup] at h
    obtain rfl : found = kind := h
    obtain ⟨before, after, hsymbols, -⟩ := List.lookup_eq_some_iff.1 hlookup
    rw [hsymbols]
    exact List.mem_append_right before List.mem_cons_self

/-- Most signs are tokens by themselves, whatever follows. -/
theorem extent_symbol {symbol : Char × Kind} (hsymbol : symbol ∈ symbols) (regexAllowed : Bool)
    (rest : List Char) : extent regexAllowed symbol.1 rest = (symbol.2, 0) := by
  simp only [symbols, List.mem_cons, List.not_mem_nil, or_false] at hsymbol
  rcases hsymbol with rfl | rfl | rfl | rfl | rfl | rfl | rfl | rfl | rfl | rfl | rfl | rfl | rfl |
    rfl | rfl | rfl | rfl | rfl | rfl | rfl | rfl | rfl <;> rfl

theorem extent_quote {quote : Char} {multiline : Bool} {kind : Kind}
    (hquote : (quote, multiline, kind) ∈ quotes) (regexAllowed : Bool) (rest : List Char) :
    extent regexAllowed quote rest = quotedExtent quote multiline kind rest := by
  simp only [quotes, List.mem_cons, List.not_mem_nil, or_false, Prod.mk.injEq] at hquote
  rcases hquote with ⟨rfl, rfl, rfl⟩ | ⟨rfl, rfl, rfl⟩ | ⟨rfl, rfl, rfl⟩ <;> rfl

/-- A semicolon is the only token of its kind. -/
theorem extent_semicolon {regexAllowed : Bool} {c : Char} {rest : List Char} {n : Nat}
    (h : extent regexAllowed c rest = (.semicolon, n)) : c = ';' ∧ n = 0 := by
  have hquoted : ∀ quote multiline kind, kind ≠ .semicolon →
      quotedExtent quote multiline kind rest ≠ (.semicolon, n) := by
    intro quote multiline kind hkind hextent
    have hclosed := congrArg Prod.fst hextent
    simp only [quotedExtent] at hclosed
    split at hclosed
    · exact hkind hclosed
    · cases hclosed
  have hreads := reads_extent regexAllowed c
  generalize extent regexAllowed c = read at hreads h
  cases hreads with
  | word hc => cases h
  | number hc => cases h
  | quoted hquote =>
    have hquotes : ∀ entry ∈ quotes, entry.2.2 ≠ .semicolon := by decide
    exact absurd h (hquoted _ _ _ (hquotes _ hquote))
  | slash =>
    unfold slashExtent at h
    split at h
    · cases h
    all_goals split at h <;> cases h
  | mark hmark =>
    have hmarks : ∀ entry ∈ marks, entry.2.2.1 ≠ .semicolon ∧ entry.2.2.2 ≠ .semicolon := by decide
    unfold markExtent at h
    split at h
    · exact absurd (Prod.mk.inj h).1 (hmarks _ hmark).1
    · exact absurd (Prod.mk.inj h).1 (hmarks _ hmark).2
  | symbol =>
    obtain ⟨hsymbol, hn⟩ := Prod.mk.inj h
    have hmem := mem_symbols_of_symbolKind hsymbol (by decide)
    have hsymbols : ∀ symbol ∈ symbols, symbol.2 = .semicolon → symbol.1 = ';' := by decide
    exact ⟨hsymbols _ hmem rfl, hn.symm⟩

end ComponentDocs.Token
