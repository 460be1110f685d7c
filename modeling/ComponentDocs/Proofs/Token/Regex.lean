import ComponentDocs.Proofs.Token.Literal
import ComponentDocs.Text.Lines

/-!
# Regular expression literals

The grammar of a regular expression literal, and that the length which the scanner finds is the
length of the literal in this sense.

A body is made of escapes, character classes and single characters, and a class has a body of its
own (`IsRegexBody`, `IsClassBody`).  The scanner does not follow this nesting.  It goes through the
characters once with a flag that tells whether a class is open, so at any point it has to find the
rest of a body in the state of the flag (`IsRegexRest`).  `regexBodyLength?_eq_some_iff` says that
it finds exactly these, and `regexLength?_eq_some_iff_split` adds the slashes and the flags.
-/

namespace ComponentDocs.Literal

open Text

/-! ## The grammar -/

/-- What may stand in a character class: escapes, and characters other than a backslash, a closing
bracket and the ends of a line. -/
inductive IsClassBody : List Char → Prop
  | nil : IsClassBody []
  | escape {c : Char} {body : List Char} (hc : c ≠ '\n') (hbody : IsClassBody body) :
      IsClassBody ('\\' :: c :: body)
  | single {c : Char} {body : List Char} (hc : c ∉ ['\\', ']', '\n', '\r'])
      (hbody : IsClassBody body) : IsClassBody (c :: body)

/-- What may stand between the slashes of a regular expression: escapes, character classes, and
characters other than a slash, an opening bracket, a backslash and the ends of a line. -/
inductive IsRegexBody : List Char → Prop
  | nil : IsRegexBody []
  | escape {c : Char} {body : List Char} (hc : c ≠ '\n') (hbody : IsRegexBody body) :
      IsRegexBody ('\\' :: c :: body)
  | class {members body : List Char} (hmembers : IsClassBody members) (hbody : IsRegexBody body) :
      IsRegexBody ('[' :: (members ++ ']' :: body))
  | single {c : Char} {body : List Char} (hc : c ∉ ['/', '[', '\\', '\n', '\r'])
      (hbody : IsRegexBody body) : IsRegexBody (c :: body)

/-- A text that starts with a regular expression literal: a slash, a body, a slash and flags, which
are all the letters that stand there. -/
structure RegexSplit (text : List Char) where
  body : List Char
  flags : List Char
  rest : List Char
  text_eq : text = '/' :: (body ++ '/' :: (flags ++ rest))
  isRegexBody : IsRegexBody body
  isAsciiLetter_flags : ∀ c ∈ flags, isAsciiLetter c = true
  isAsciiLetter_rest : ∀ c ∈ rest.head?, isAsciiLetter c = false

/-- The characters of the literal. -/
def RegexSplit.literal {text : List Char} (split : RegexSplit text) : List Char :=
  '/' :: (split.body ++ '/' :: split.flags)

/-! ## Lines -/

theorem IsClassBody.newline_notMem {body : List Char} (h : IsClassBody body) : '\n' ∉ body := by
  induction h with
  | nil => exact List.not_mem_nil
  | escape hc hbody ih =>
    rw [List.mem_cons, List.mem_cons]
    rintro (hbackslash | hescaped | hmem)
    · cases hbackslash
    · exact hc hescaped.symm
    · exact ih hmem
  | single hc hbody ih =>
    rw [List.mem_cons]
    rintro (rfl | hmem)
    · exact hc (by decide)
    · exact ih hmem

theorem IsRegexBody.newline_notMem {body : List Char} (h : IsRegexBody body) : '\n' ∉ body := by
  induction h with
  | nil => exact List.not_mem_nil
  | escape hc hbody ih =>
    rw [List.mem_cons, List.mem_cons]
    rintro (hbackslash | hescaped | hmem)
    · cases hbackslash
    · exact hc hescaped.symm
    · exact ih hmem
  | «class» hmembers hbody ih =>
    rw [List.mem_cons, List.mem_append, List.mem_cons]
    rintro (hopen | hmem | hclose | hmem)
    · cases hopen
    · exact hmembers.newline_notMem hmem
    · cases hclose
    · exact ih hmem
  | single hc hbody ih =>
    rw [List.mem_cons]
    rintro (rfl | hmem)
    · exact hc (by decide)
    · exact ih hmem

/-- A literal stays on its line. -/
theorem RegexSplit.newline_notMem {text : List Char} (split : RegexSplit text) :
    '\n' ∉ split.literal := by
  rw [literal, List.mem_cons, List.mem_append, List.mem_cons]
  rintro (hslash | hmem | hslash | hmem)
  · cases hslash
  · exact split.isRegexBody.newline_notMem hmem
  · cases hslash
  · have hletter := split.isAsciiLetter_flags '\n' hmem
    exact absurd hletter (by decide)

/-! ## Where the body ends -/

/-- The part of a body from a point on at which a class is open, or none is. -/
def IsRegexRest (inClass : Bool) (part : List Char) : Prop :=
  match inClass with
  | false => IsRegexBody part
  | true => ∃ members body, part = members ++ ']' :: body ∧ IsClassBody members ∧ IsRegexBody body

namespace IsRegexRest

variable {inClass : Bool} {part : List Char} {c : Char}

theorem escape (hc : c ≠ '\n') (h : IsRegexRest inClass part) :
    IsRegexRest inClass ('\\' :: c :: part) := by
  cases inClass with
  | false => exact IsRegexBody.escape hc h
  | true =>
    obtain ⟨members, body, rfl, hmembers, hbody⟩ := h
    exact ⟨'\\' :: c :: members, body, rfl, hmembers.escape hc, hbody⟩

/-- An opening bracket opens a class, and inside of a class it is a character like others. -/
theorem opening (h : IsRegexRest true part) : IsRegexRest inClass ('[' :: part) := by
  obtain ⟨members, body, rfl, hmembers, hbody⟩ := h
  cases inClass with
  | false => exact IsRegexBody.class hmembers hbody
  | true => exact ⟨'[' :: members, body, rfl, hmembers.single (by decide), hbody⟩

/-- A closing bracket closes a class, and outside of a class it is a character like others. -/
theorem closing (h : IsRegexRest false part) : IsRegexRest inClass (']' :: part) := by
  cases inClass with
  | false => exact IsRegexBody.single (by decide) h
  | true => exact ⟨[], part, rfl, .nil, h⟩

theorem single (hc : c ∉ ['[', ']', '\\', '\n', '\r']) (hslash : ¬(c = '/' ∧ inClass = false))
    (h : IsRegexRest inClass part) : IsRegexRest inClass (c :: part) := by
  simp only [List.mem_cons, List.not_mem_nil, or_false, not_or] at hc
  obtain ⟨hopen, hclose, hbackslash, hfeed, hreturn⟩ := hc
  cases inClass with
  | false =>
    have hne : c ≠ '/' := fun heq => hslash ⟨heq, rfl⟩
    refine IsRegexBody.single ?_ h
    simp only [List.mem_cons, List.not_mem_nil, or_false, not_or]
    exact ⟨hne, hopen, hbackslash, hfeed, hreturn⟩
  | true =>
    obtain ⟨members, body, rfl, hmembers, hbody⟩ := h
    refine ⟨c :: members, body, rfl, hmembers.single ?_, hbody⟩
    simp only [List.mem_cons, List.not_mem_nil, or_false, not_or]
    exact ⟨hbackslash, hclose, hfeed, hreturn⟩

end IsRegexRest

/-- A class is passed up to its closing bracket. -/
theorem IsClassBody.regexBodyLength?_eq {members : List Char} (h : IsClassBody members)
    (tail : List Char) :
    regexBodyLength? true (members ++ ']' :: tail) =
      (regexBodyLength? false tail).map (· + (members.length + 1)) := by
  induction h with
  | nil =>
    rw [List.nil_append, regexBodyLength?_cons, if_neg (by decide), if_neg (by decide),
      if_neg (by decide), if_pos rfl]
    rfl
  | @escape c body hc hbody ih =>
    rw [List.cons_append, List.cons_append, regexBodyLength?_cons, if_neg (by decide), if_pos rfl]
    dsimp only
    rw [if_neg hc, ih, Option.map_map]
    rfl
  | @single c body hc hbody ih =>
    simp only [List.mem_cons, List.not_mem_nil, or_false, not_or] at hc
    obtain ⟨hbackslash, hclose, hfeed, hreturn⟩ := hc
    have hopened : ¬(c = '/' ∧ true = false) := fun h => Bool.noConfusion h.2
    rw [List.cons_append, regexBodyLength?_cons, if_neg (not_or.2 ⟨hfeed, hreturn⟩),
      if_neg hbackslash, if_neg hclose, if_neg hopened, ite_self, ih, Option.map_map]
    rfl

/-- A body is passed up to the slash that closes it. -/
theorem IsRegexBody.regexBodyLength?_eq {body : List Char} (h : IsRegexBody body)
    (tail : List Char) : regexBodyLength? false (body ++ '/' :: tail) = some (body.length + 1) := by
  induction h with
  | nil =>
    rw [List.nil_append, regexBodyLength?_cons, if_neg (by decide), if_neg (by decide),
      if_neg (by decide), if_neg (by decide), if_pos ⟨rfl, rfl⟩]
    rfl
  | @escape c body hc hbody ih =>
    rw [List.cons_append, List.cons_append, regexBodyLength?_cons, if_neg (by decide), if_pos rfl]
    dsimp only
    rw [if_neg hc, ih]
    rfl
  | @«class» members body hmembers hbody ih =>
    rw [List.cons_append, List.append_assoc, List.cons_append, regexBodyLength?_cons,
      if_neg (by decide), if_neg (by decide), if_pos rfl, hmembers.regexBodyLength?_eq, ih,
      Option.map_some, Option.map_some, List.length_cons, List.length_append, List.length_cons]
    congr 1
    omega
  | @single c body hc hbody ih =>
    simp only [List.mem_cons, List.not_mem_nil, or_false, not_or] at hc
    obtain ⟨hslash, hopen, hbackslash, hfeed, hreturn⟩ := hc
    have hopened : ¬(c = '/' ∧ false = false) := fun h => hslash h.1
    rw [List.cons_append, regexBodyLength?_cons, if_neg (not_or.2 ⟨hfeed, hreturn⟩),
      if_neg hbackslash, if_neg hopen, if_neg hopened, ih, Option.map_some, ite_self]
    rfl

/-- What the scanner passes is the rest of a body and the slash that closes it. -/
theorem exists_isRegexRest {inClass : Bool} {cs : List Char} {n : Nat}
    (h : regexBodyLength? inClass cs = some n) :
    ∃ part tail, cs = part ++ '/' :: tail ∧ IsRegexRest inClass part ∧ n = part.length + 1 := by
  fun_induction regexBodyLength? inClass cs generalizing n with
  | case1 => cases h
  | case2 => cases h
  | case3 => cases h
  | case4 => cases h
  | case5 inClass escaped after hescaped hend ih =>
    obtain ⟨m, hm, rfl⟩ := Option.map_eq_some_iff.1 h
    obtain ⟨part, tail, rfl, hpart, rfl⟩ := ih hm
    exact ⟨'\\' :: escaped :: part, tail, rfl, hpart.escape hescaped, rfl⟩
  | case6 inClass rest hend hbackslash ih =>
    obtain ⟨m, hm, rfl⟩ := Option.map_eq_some_iff.1 h
    obtain ⟨part, tail, rfl, hpart, rfl⟩ := ih hm
    exact ⟨'[' :: part, tail, rfl, hpart.opening, rfl⟩
  | case7 inClass rest hend hbackslash hopen ih =>
    obtain ⟨m, hm, rfl⟩ := Option.map_eq_some_iff.1 h
    obtain ⟨part, tail, rfl, hpart, rfl⟩ := ih hm
    exact ⟨']' :: part, tail, rfl, hpart.closing, rfl⟩
  | case8 inClass c rest hend hbackslash hopen hshut hclose =>
    obtain ⟨rfl, rfl⟩ := hclose
    cases h
    exact ⟨[], rest, rfl, IsRegexBody.nil, rfl⟩
  | case9 inClass c rest hend hbackslash hopen hshut hclose ih =>
    obtain ⟨m, hm, rfl⟩ := Option.map_eq_some_iff.1 h
    obtain ⟨part, tail, rfl, hpart, rfl⟩ := ih hm
    obtain ⟨hfeed, hreturn⟩ := not_or.1 hend
    refine ⟨c :: part, tail, rfl, hpart.single ?_ hclose, rfl⟩
    simp only [List.mem_cons, List.not_mem_nil, or_false, not_or]
    exact ⟨hopen, hshut, hbackslash, hfeed, hreturn⟩

/-- The scanner finds a body and the slash that closes it, wherever there are such. -/
theorem regexBodyLength?_eq_some_iff {cs : List Char} {n : Nat} :
    regexBodyLength? false cs = some n ↔
      ∃ body tail, cs = body ++ '/' :: tail ∧ IsRegexBody body ∧ n = body.length + 1 := by
  constructor
  · intro h
    exact exists_isRegexRest h
  · rintro ⟨body, tail, rfl, hbody, rfl⟩
    exact hbody.regexBodyLength?_eq tail

/-! ## The literal -/

/-- Letters in front of a text that does not begin with a letter. -/
theorem takeWhile_letters {flags rest : List Char} (hflags : ∀ c ∈ flags, isAsciiLetter c = true)
    (hrest : ∀ c ∈ rest.head?, isAsciiLetter c = false) :
    (flags ++ rest).takeWhile isAsciiLetter = flags := by
  rw [List.takeWhile_append_of_pos hflags]
  cases rest with
  | nil => exact List.append_nil flags
  | cons c rest =>
    have hc : isAsciiLetter c = false := hrest c rfl
    rw [List.takeWhile_cons_of_neg (by simp [hc]), List.append_nil]

/-- The length that is found behind the opening slash is that of the body, the slash and the
flags. -/
theorem regexLength?_append {body flags rest : List Char} (hbody : IsRegexBody body)
    (hflags : ∀ c ∈ flags, isAsciiLetter c = true)
    (hrest : ∀ c ∈ rest.head?, isAsciiLetter c = false) :
    regexLength? (body ++ '/' :: (flags ++ rest)) = some (body ++ '/' :: flags).length := by
  have hdrop : (body ++ '/' :: (flags ++ rest)).drop (body.length + 1) = flags ++ rest := by
    rw [← List.drop_drop, List.drop_left, List.drop_one, List.tail_cons]
  rw [regexLength?, hbody.regexBodyLength?_eq, Option.map_some, hdrop,
    takeWhile_letters hflags hrest, List.length_append, List.length_cons]
  congr 1
  omega

namespace RegexSplit

variable {cs : List Char}

/-- What is found behind the opening slash is the rest of the literal. -/
theorem regexLength?_eq (split : RegexSplit ('/' :: cs)) :
    ∃ n, regexLength? cs = some n ∧ '/' :: cs.take n = split.literal := by
  obtain ⟨body, flags, rest, htext, hbody, hflags, hrest⟩ := split
  obtain rfl := (List.cons.inj htext).2
  refine ⟨_, regexLength?_append hbody hflags hrest, ?_⟩
  have htake : (body ++ '/' :: (flags ++ rest)).take (body ++ '/' :: flags).length =
      body ++ '/' :: flags := by
    rw [← List.cons_append, ← List.append_assoc, List.take_left]
  exact congrArg ('/' :: ·) htake

/-- A literal is found only where there is one. -/
theorem nonempty_of_regexLength? {n : Nat} (h : regexLength? cs = some n) :
    Nonempty (RegexSplit ('/' :: cs)) := by
  obtain ⟨m, hm, -⟩ := Option.map_eq_some_iff.1 h
  obtain ⟨body, tail, rfl, hbody, rfl⟩ := regexBodyLength?_eq_some_iff.1 hm
  refine ⟨⟨body, tail.takeWhile isAsciiLetter, tail.dropWhile isAsciiLetter, ?_, hbody, ?_, ?_⟩⟩
  · rw [List.takeWhile_append_dropWhile]
  · intro c hc
    exact List.all_eq_true.1 List.all_takeWhile c hc
  · intro c hc
    have hhead := List.head?_dropWhile_not isAsciiLetter tail
    rw [Option.mem_def.1 hc] at hhead
    simpa using hhead

/-- A text starts with a regular expression literal in at most one way. -/
theorem subsingleton (cs : List Char) : Subsingleton (RegexSplit ('/' :: cs)) := by
  refine ⟨fun split other => ?_⟩
  obtain ⟨body, flags, rest, htext, hbody, hflags, hrest⟩ := split
  obtain ⟨body', flags', rest', htext', hbody', hflags', hrest'⟩ := other
  cases htext
  have hsame := (List.cons.inj htext').2
  -- The scanner ends both bodies at the same slash, and the flags are the letters behind it.
  have hlength : body.length = body'.length := by
    have hfound := hbody.regexBodyLength?_eq (flags ++ rest)
    rw [hsame, hbody'.regexBodyLength?_eq, Option.some.injEq] at hfound
    omega
  obtain ⟨rfl, hbehind⟩ := List.append_inj hsame hlength
  have hletters : flags ++ rest = flags' ++ rest' := (List.cons.inj hbehind).2
  have hflagsEq : flags = flags' := by
    have htake := takeWhile_letters hflags hrest
    rw [hletters, takeWhile_letters hflags' hrest'] at htake
    exact htake.symm
  subst hflagsEq
  obtain rfl := List.append_cancel_left hletters
  rfl

end RegexSplit

/-- Behind a slash the scanner finds exactly the regular expression literals.  The number of bytes
that it finds is that of the literal at the start of the text, there is at most one, and it finds
none exactly where there is none.  A literal has no line feed. -/
theorem regexLength?_eq_some_iff_split (cs : List Char) :
    (∀ bytes, (regexLength? cs).map (fun n => byteSize ('/' :: cs.take n)) = some bytes ↔
        ∃ split : RegexSplit ('/' :: cs), bytes = byteSize split.literal) ∧
      (regexLength? cs = none ↔ ¬ Nonempty (RegexSplit ('/' :: cs))) ∧
      Subsingleton (RegexSplit ('/' :: cs)) ∧
      ∀ split : RegexSplit ('/' :: cs), '\n' ∉ split.literal := by
  refine ⟨?_, ?_, RegexSplit.subsingleton cs, RegexSplit.newline_notMem⟩
  · intro bytes
    constructor
    · intro h
      obtain ⟨n, hn, hbytes⟩ := Option.map_eq_some_iff.1 h
      obtain ⟨split⟩ := RegexSplit.nonempty_of_regexLength? hn
      obtain ⟨m, hm, hliteral⟩ := split.regexLength?_eq
      obtain rfl : n = m := Option.some.inj (hn.symm.trans hm)
      exact ⟨split, by rw [← hbytes, hliteral]⟩
    · rintro ⟨split, rfl⟩
      obtain ⟨n, hn, hliteral⟩ := split.regexLength?_eq
      rw [hn, Option.map_some, hliteral]
  · constructor
    · rintro h ⟨split⟩
      obtain ⟨n, hn, -⟩ := split.regexLength?_eq
      rw [h] at hn
      cases hn
    · intro h
      cases hfound : regexLength? cs with
      | none => rfl
      | some n => exact absurd (RegexSplit.nonempty_of_regexLength? hfound) h

-- The slash in the class and the escaped one do not close the literal, and the last bracket is no
-- part of a class.
example : regexLength? "[/\\]]\\/]/gé".toList = some 10 := by decide +kernel

end ComponentDocs.Literal
