import ComponentDocs.Proofs.Declaration.Cursor
import ComponentDocs.Proofs.Token.Extent

/-!
# First and last characters of tokens

A token that is no error begins with a character that is not blank, and the kind of a token says
whether its first character is a slash.  A word, a number, a quoted literal and a closing bracket
also end with a character that is not blank, and is no backslash (`endsSolid_of_extent`): trimming
a text leaves these tokens whole at its ends, and what follows cannot become part of them.  Only a
word begins like a word, and it has no other characters (`isWordPart_of_mem_scanFrom`).
-/

namespace ComponentDocs

namespace Literal

open Text

/-- A character of a word or a number. -/
def IsPlain (c : Char) : Prop :=
  isWordPart c = true ∨ c = '.' ∨ c = '+' ∨ c = '-'

theorem IsPlain.of_isDigitPart {c : Char} (h : isDigitPart c = true) : IsPlain c := by
  simp only [isDigitPart, Bool.or_eq_true, beq_iff_eq] at h
  refine .inl ?_
  rcases h with h | rfl
  · rw [isWordPart, h, Bool.or_true]
  · rfl

theorem IsPlain.of_isAsciiDigit {c : Char} (h : isAsciiDigit c = true) : IsPlain c :=
  .of_isDigitPart (by rw [isDigitPart, h, Bool.true_or])

theorem IsPlain.of_isAsciiLetter {c : Char} (h : isAsciiLetter c = true) : IsPlain c :=
  .inl (by rw [isWordPart, isWordStart, h, Bool.true_or, Bool.true_or, Bool.true_or])

theorem IsPlain.of_isRadixDigit {c : Char} (h : isRadixDigit c = true) : IsPlain c := by
  simp only [isRadixDigit, Bool.or_eq_true, Bool.and_eq_true, decide_eq_true_eq] at h
  rcases h with (h | ⟨hlow, hhigh⟩) | ⟨hlow, hhigh⟩
  · exact .of_isDigitPart h
  · refine .of_isAsciiLetter ?_
    simp [isAsciiLetter, hlow, Char.le_trans hhigh (by decide : 'f' ≤ 'z')]
  · refine .of_isAsciiLetter ?_
    simp [isAsciiLetter, hlow, Char.le_trans hhigh (by decide : 'F' ≤ 'Z')]

theorem IsPlain.of_isRadixMark {c : Char} (h : isRadixMark c = true) : IsPlain c := by
  have hmarks : "xXbBoO".toList.all isAsciiLetter = true := by decide
  exact .of_isAsciiLetter (List.all_eq_true.1 hmarks c (List.contains_iff_mem.1 h))

theorem IsPlain.isBlank {c : Char} (h : IsPlain c) : isBlank c = false := by
  rcases h with h | rfl | rfl | rfl
  · exact isBlank_of_isWordPart h
  all_goals rfl

theorem IsPlain.ne_backslash {c : Char} (h : IsPlain c) : c ≠ '\\' := by
  rintro rfl
  rcases h with h | h | h | h <;> exact absurd h (by decide)

/-! ## Characters of numbers -/

theorem isPlain_of_mem_takeWhile {p : Char → Bool} (hp : ∀ {c}, p c = true → IsPlain c)
    (cs : List Char) : ∀ c ∈ cs.take (cs.takeWhile p).length, IsPlain c := by
  intro c hc
  rw [← List.prefix_iff_eq_take.1 (List.takeWhile_prefix p)] at hc
  exact hp (List.all_eq_true.1 List.all_takeWhile c hc)

theorem isPlain_fraction (cs : List Char) : ∀ c ∈ cs.take (fractionLength cs), IsPlain c := by
  unfold fractionLength
  split
  · rename_i point digit rest
    split
    · rename_i hfraction
      rw [Nat.add_comm, List.take_succ_cons, List.take_succ_cons]
      simp only [List.forall_mem_cons]
      exact ⟨.inr (.inl hfraction.1), .of_isAsciiDigit hfraction.2,
        isPlain_of_mem_takeWhile .of_isDigitPart rest⟩
    · simp
  · simp

theorem exponentDigits_eq (signed : Nat) (cs : List Char) :
    exponentDigits signed cs = 0 ∨
      exponentDigits signed cs = (cs.takeWhile isAsciiDigit).length + signed := by
  unfold exponentDigits
  split
  · exact .inl rfl
  · rename_i n hn
    rw [hn]
    exact .inr (Nat.add_comm signed (n + 1))

theorem isPlain_exponent (cs : List Char) : ∀ c ∈ cs.take (exponentLength cs), IsPlain c := by
  unfold exponentLength
  split
  · rename_i mark sign rest
    split
    · rename_i hmark
      have hplain : IsPlain mark := by
        rcases hmark with rfl | rfl <;> exact .inl rfl
      split
      · rename_i hsign
        rcases exponentDigits_eq 2 rest with hnone | hdigits
        · simp [hnone]
        · rw [hdigits, List.take_succ_cons, List.take_succ_cons]
          simp only [List.forall_mem_cons]
          exact ⟨hplain, .inr (.inr hsign), isPlain_of_mem_takeWhile .of_isAsciiDigit rest⟩
      · rcases exponentDigits_eq 1 (sign :: rest) with hnone | hdigits
        · simp [hnone]
        · rw [hdigits, List.take_succ_cons]
          simp only [List.forall_mem_cons]
          exact ⟨hplain, isPlain_of_mem_takeWhile .of_isAsciiDigit (sign :: rest)⟩
    · simp
  · simp

theorem isPlain_decimal (cs : List Char) : ∀ c ∈ cs.take (decimalLength cs), IsPlain c := by
  simp only [decimalLength, List.take_add, List.forall_mem_append]
  exact ⟨⟨isPlain_of_mem_takeWhile .of_isDigitPart cs, isPlain_fraction _⟩, isPlain_exponent _⟩

theorem isPlain_radix (cs : List Char) : ∀ c ∈ cs.take (radixLength cs), IsPlain c := by
  unfold radixLength
  split
  · rename_i mark rest
    split
    · rename_i hmark
      split
      · simp
      · rename_i n hn
        rw [← Nat.succ_eq_add_one, ← hn, Nat.add_comm, List.take_succ_cons]
        simp only [List.forall_mem_cons]
        exact ⟨.of_isRadixMark hmark, isPlain_of_mem_takeWhile .of_isRadixDigit rest⟩
    · simp
  · simp

theorem isPlain_number (first : Char) (cs : List Char) :
    ∀ c ∈ cs.take (numberLength first cs), IsPlain c := by
  unfold numberLength
  split
  · exact isPlain_radix cs
  · exact isPlain_decimal cs

/-- A closed literal ends with its quote. -/
theorem getLast?_quoted {quote : Char} {multiline : Bool} {cs : List Char} {n : Nat}
    (h : quotedLength quote multiline cs = (true, n)) :
    (cs.take n).getLast? = some quote := by
  fun_induction quotedLength quote multiline cs generalizing n with
  | case1 => cases h
  | case2 rest =>
    cases h
    rfl
  | case3 => cases h
  | case4 => cases h
  | case5 escaped after hescaped closed m hrest hquote ih =>
    cases h
    have hlast := ih hrest
    rw [List.take_succ_cons, List.take_succ_cons]
    simp [List.getLast?_cons, hlast]
  | case6 => cases h
  | case7 c rest hquote hbackslash hline closed m hrest ih =>
    cases h
    have hlast := ih hrest
    rw [List.take_succ_cons]
    simp [List.getLast?_cons, hlast]

end Literal

namespace Token

open Text Literal

/-! ## Ends of tokens -/

/-- Tokens that end with a character of their own. -/
def Kind.isSolid : Kind → Bool
  | .word | .number | .string | .template | .closing _ | .greater => true
  | _ => false

theorem isBlank_of_mem_symbols {symbol : Char × Kind} (h : symbol ∈ symbols) :
    isBlank symbol.1 = false ∧ symbol.1 ≠ '\\' := by
  have hsymbols : ∀ symbol ∈ symbols, isBlank symbol.1 = false ∧ symbol.1 ≠ '\\' := by decide
  exact hsymbols symbol h

theorem extent_first {regexAllowed : Bool} {c : Char} {cs : List Char} {kind : Kind} {n : Nat}
    (h : extent regexAllowed c cs = (kind, n)) (hkind : kind ≠ .error) : isBlank c = false := by
  have hreads := reads_extent regexAllowed c
  generalize extent regexAllowed c = read at hreads h
  cases hreads with
  | word hc => exact isBlank_of_isWordPart (by rw [isWordPart, hc, Bool.true_or])
  | number hc => exact (IsPlain.of_isAsciiDigit hc).isBlank
  | quoted hquote =>
    have hquotes : ∀ entry ∈ quotes, isBlank entry.1 = false := by decide
    exact hquotes _ hquote
  | slash => rfl
  | mark hmark =>
    have hmarks : ∀ entry ∈ marks, isBlank entry.1 = false := by decide
    exact hmarks _ hmark
  | symbol =>
    exact (isBlank_of_mem_symbols (mem_symbols_of_symbolKind (Prod.mk.inj h).1 hkind)).1

/-- The kinds of a token that begins with a slash. -/
def Kind.isSlashed : Kind → Bool
  | .lineComment | .blockComment | .regex | .slash | .error => true
  | _ => false

theorem isSlashed_slashExtent (regexAllowed : Bool) (cs : List Char) :
    (slashExtent regexAllowed cs).1.isSlashed = true := by
  unfold slashExtent
  split
  · rfl
  · split <;> rfl
  · split <;> rfl

/-- Only what begins with a slash depends on what stands before it. -/
theorem extent_of_not_isSlashed {regexAllowed : Bool} {c : Char} {cs : List Char} {kind : Kind}
    {n : Nat} (h : extent regexAllowed c cs = (kind, n)) (hkind : kind.isSlashed = false)
    (regexAllowed' : Bool) : extent regexAllowed' c cs = (kind, n) := by
  have hslash : c ≠ '/' := by
    rintro rfl
    have hextent : extent regexAllowed '/' cs = slashExtent regexAllowed cs := rfl
    have hslashed := isSlashed_slashExtent regexAllowed cs
    rw [← hextent, h, hkind] at hslashed
    cases hslashed
  rw [← h]
  unfold extent
  simp only [if_neg hslash]

/-- The last character of a text that is neither blank nor a backslash. -/
def EndsSolid (cs : List Char) : Prop :=
  ∃ c, cs.getLast? = some c ∧ isBlank c = false ∧ c ≠ '\\'

theorem EndsSolid.of_isPlain {c : Char} {cs : List Char} (hc : IsPlain c)
    (hcs : ∀ d ∈ cs, IsPlain d) : EndsSolid (c :: cs) := by
  have hlast : IsPlain ((c :: cs).getLast (List.cons_ne_nil c cs)) := by
    rcases List.mem_cons.1 (List.getLast_mem (List.cons_ne_nil c cs)) with heq | hmem
    · rw [heq]
      exact hc
    · exact hcs _ hmem
  exact ⟨_, List.getLast?_eq_getLast_of_ne_nil _, hlast.isBlank, hlast.ne_backslash⟩

theorem EndsSolid.of_quotedExtent {quote : Char} {multiline : Bool} {kind found : Kind}
    {body rest : List Char}
    (h : quotedExtent quote multiline kind (body ++ rest) = (found, body.length))
    (hfound : found ≠ .error) (hquote : isBlank quote = false ∧ quote ≠ '\\') (c : Char) :
    EndsSolid (c :: body) := by
  cases hquoted : quotedLength quote multiline (body ++ rest) with
  | mk closed n =>
    rw [quotedExtent, hquoted] at h
    obtain ⟨hkind, rfl⟩ := Prod.mk.inj h
    cases closed with
    | false => exact absurd hkind.symm hfound
    | true =>
      have hlast := getLast?_quoted hquoted
      rw [List.take_left] at hlast
      exact ⟨quote, by simp [List.getLast?_cons, hlast], hquote⟩

/-- A solid token ends with a character that is neither blank nor a backslash. -/
theorem endsSolid_of_extent {regexAllowed : Bool} {c : Char} {body rest : List Char} {kind : Kind}
    (h : extent regexAllowed c (body ++ rest) = (kind, body.length))
    (hkind : kind.isSolid = true) : EndsSolid (c :: body) := by
  have herror : kind ≠ .error := by
    rintro rfl
    cases hkind
  have hreads := reads_extent regexAllowed c
  generalize extent regexAllowed c = read at hreads h
  cases hreads with
  | word hc =>
    obtain ⟨-, hlength⟩ := Prod.mk.inj h
    have hbody := @isPlain_of_mem_takeWhile isWordPart .inl (body ++ rest)
    rw [← wordLength, hlength, List.take_left] at hbody
    exact .of_isPlain (.inl (by rw [isWordPart, hc, Bool.true_or])) hbody
  | number hc =>
    obtain ⟨-, hlength⟩ := Prod.mk.inj h
    have hbody := isPlain_number c (body ++ rest)
    rw [hlength, List.take_left] at hbody
    exact .of_isPlain (.of_isAsciiDigit hc) hbody
  | quoted hquote =>
    have hquotes : ∀ entry ∈ quotes, isBlank entry.1 = false ∧ entry.1 ≠ '\\' := by decide
    exact .of_quotedExtent h herror (hquotes _ hquote) c
  | slash =>
    have hslashed := isSlashed_slashExtent regexAllowed (body ++ rest)
    rw [h] at hslashed
    cases kind <;> simp [Kind.isSolid, Kind.isSlashed] at hkind hslashed
  | mark hmark =>
    have hmarks : ∀ entry ∈ marks,
        entry.2.2.1.isSolid = false ∧ entry.2.2.2.isSolid = false := by decide
    obtain ⟨hmarked, hplain⟩ := hmarks _ hmark
    unfold markExtent at h
    split at h
    · rw [(Prod.mk.inj h).1, hkind] at hmarked
      cases hmarked
    · rw [(Prod.mk.inj h).1, hkind] at hplain
      cases hplain
  | symbol =>
    obtain ⟨hsymbol, hlength⟩ := Prod.mk.inj h
    obtain rfl := List.length_eq_zero_iff.1 hlength.symm
    exact ⟨c, rfl, isBlank_of_mem_symbols (mem_symbols_of_symbolKind hsymbol herror)⟩

theorem isWordStart_of_extent {regexAllowed : Bool} {c : Char} {cs : List Char} {n : Nat}
    (h : extent regexAllowed c cs = (.word, n)) : isWordStart c = true := by
  have hreads := reads_extent regexAllowed c
  generalize extent regexAllowed c = read at hreads h
  cases hreads with
  | word hc => exact hc
  | number hc => cases (Prod.mk.inj h).1
  | @quoted quote multiline kind hquote =>
    have hquotes : ∀ entry ∈ quotes, entry.2.2 ≠ .word := by decide
    unfold quotedExtent at h
    dsimp only at h
    split at h
    · exact absurd (Prod.mk.inj h).1 (hquotes _ hquote)
    · cases (Prod.mk.inj h).1
  | slash =>
    have hslashed := isSlashed_slashExtent regexAllowed cs
    rw [h] at hslashed
    cases hslashed
  | mark hmark =>
    have hmarks : ∀ entry ∈ marks, entry.2.2.1 ≠ .word ∧ entry.2.2.2 ≠ .word := by decide
    obtain ⟨hmarked, hplain⟩ := hmarks _ hmark
    unfold markExtent at h
    split at h
    · exact absurd (Prod.mk.inj h).1 hmarked
    · exact absurd (Prod.mk.inj h).1 hplain
  | symbol =>
    have hsymbols : ∀ symbol ∈ symbols, symbol.2 ≠ .word := by decide
    exact absurd rfl (hsymbols _ (mem_symbols_of_symbolKind (Prod.mk.inj h).1 (by decide)))

/-- The words of a text consist of letters, digits, underscores and dollar signs. -/
theorem isWordPart_of_mem_scanFrom {context : Context} {cs : List Char} {token : Token}
    (htoken : token ∈ scanFrom context cs) (hword : token.kind = .word) :
    ∀ c ∈ token.text.toList, isWordPart c = true := by
  induction context, cs using scan_induction with
  | blank context space hspace =>
    rw [scanFrom_blank hspace] at htoken
    cases htoken
  | token context space c body tail kind hspace hc hextent ih =>
    rw [scanFrom_token hspace hc hextent] at htoken
    rcases List.mem_cons.1 htoken with rfl | htoken
    · rw [Context.tokenAfter_kind] at hword
      rw [hword] at hextent
      have hstart := isWordStart_of_extent hextent
      rw [extent, if_pos hstart, wordLength] at hextent
      have hbody : (body ++ tail).takeWhile isWordPart = body := by
        rw [List.prefix_iff_eq_take.1 (List.takeWhile_prefix isWordPart), (Prod.mk.inj hextent).2,
          List.take_left]
      rw [Context.tokenAfter_text, String.toList_ofList]
      refine List.forall_mem_cons.2 ⟨by rw [isWordPart, hstart, Bool.true_or], fun d hd => ?_⟩
      rw [← hbody] at hd
      exact List.mem_takeWhile_imp hd
    · exact ih htoken

end Token

end ComponentDocs
