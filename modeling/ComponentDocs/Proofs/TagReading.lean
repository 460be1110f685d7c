import Mathlib.Data.List.Induction
import Mathlib.Data.List.TakeWhile
import ComponentDocs.DocBlock
import ComponentDocs.Proofs.Text.Trim

/-!
# What a doc block in front of a class says

A doc block is read line by line with an open description on the side, which lines of several kinds
begin, extend, end or replace.  The outcome needs no account of this.  `IsTagLine` is the pattern of
a tag line, and a line is recognized when its tag is one of three.  The last recognized line of a
name gives its value, and the last recognized description begins the text, which runs up to the next
recognized line.

`Reads` says this about the lines read so far.  `Reads.readLine` is its step, `reads_foldl` the run,
and `tags_eq_lastTag` the outcome for a whole block.
-/

namespace ComponentDocs

namespace Text

/-- Runs that do not overlap have no character in common. -/
theorem inRuns_eq_false {runs others : List CodeRun}
    (h : runs.all (fun run => others.all fun other =>
      run.last < other.first || other.last < run.first) = true)
    {c : Char} (hc : inRuns runs c = true) : inRuns others c = false := by
  obtain ⟨run, hrun, hin⟩ := List.any_eq_true.1 hc
  refine List.any_eq_false.2 fun other hother hin' => ?_
  have hapart := List.all_eq_true.1 (List.all_eq_true.1 h run hrun) other hother
  simp only [Bool.or_eq_true, decide_eq_true_eq] at hapart
  simp only [CodeRun.contains, Bool.and_eq_true, decide_eq_true_eq] at hin hin'
  omega

/-- No blank character may stand inside a word. -/
theorem isWordChar_of_isBlank {c : Char} (hc : isBlank c = true) : isWordChar c = false := by
  unfold isBlank at hc
  unfold isWordChar
  split at hc
  · rename_i hascii
    have hlow : c.toNat ≤ 0x20 := by
      simp only [Bool.or_eq_true, beq_iff_eq, Bool.and_eq_true, decide_eq_true_eq] at hc
      rcases hc with rfl | hc
      · decide
      · omega
    rw [if_pos hascii]
    refine Bool.eq_false_iff.2 fun hword => ?_
    simp only [isAsciiLetter, isAsciiDigit, Bool.or_eq_true, Bool.and_eq_true, decide_eq_true_eq,
      beq_iff_eq, Char.le_def, UInt32.le_iff_toNat_le] at hword
    rcases hword with ((⟨h, -⟩ | ⟨h, -⟩) | ⟨h, -⟩) | rfl
    · exact absurd (Nat.le_trans h hlow) (by decide)
    · exact absurd (Nat.le_trans h hlow) (by decide)
    · exact absurd (Nat.le_trans h hlow) (by decide)
    · exact absurd hlow (by decide)
  · rename_i hascii
    have hapart : ∀ runs ∈ [alphabeticRuns, wordExtraRuns], blankRuns.all (fun run =>
        runs.all fun other => run.last < other.first || other.last < run.first) = true := by
      decide +kernel
    rw [if_neg hascii, inRuns_eq_false (hapart alphabeticRuns (by simp)) hc,
      inRuns_eq_false (hapart wordExtraRuns (by simp)) hc]
    rfl

end Text

namespace DocBlock

open Text

/-! ## Tag lines -/

/-- A line of an at sign, a name that starts with an ASCII letter, and either nothing more or a gap
of blank characters and the value behind it, which is the rest of the line. -/
inductive IsTagLine : List Char → String → List Char → Prop
  | bare {first : Char} {others : List Char} (hfirst : isAsciiLetter first = true)
      (hothers : ∀ c ∈ others, isTagNameChar c = true) :
      IsTagLine ('@' :: first :: others) (String.ofList (first :: others)) []
  | valued {first : Char} {others gap value : List Char} (hfirst : isAsciiLetter first = true)
      (hothers : ∀ c ∈ others, isTagNameChar c = true) (hgap : gap ≠ [])
      (hblank : ∀ c ∈ gap, isBlank c = true) (hvalue : ∀ c ∈ value.head?, isBlank c = false) :
      IsTagLine ('@' :: first :: (others ++ (gap ++ value))) (String.ofList (first :: others)) value

theorem isTagNameChar_of_isBlank {c : Char} (hc : isBlank c = true) : isTagNameChar c = false := by
  rw [isTagNameChar, isWordChar_of_isBlank hc, Bool.false_or]
  refine beq_eq_false_iff_ne.2 ?_
  rintro rfl
  exact absurd hc (by decide)

theorem isTagLine_of_tagLine? {line value : List Char} {name : String}
    (h : tagLine? line = some (name, value)) : IsTagLine line name value := by
  unfold tagLine? at h
  split at h
  · rename_i first rest
    split at h
    · rename_i hfirst
      have hothers : ∀ c ∈ rest.takeWhile isTagNameChar, isTagNameChar c = true := fun c hc =>
        List.all_eq_true.1 List.all_takeWhile c hc
      have hsplit := List.takeWhile_append_dropWhile (p := isTagNameChar) (l := rest)
      dsimp only at h
      split at h
      · rename_i hend
        rw [hend, List.append_nil] at hsplit
        cases h
        rw [hsplit] at hothers ⊢
        exact .bare hfirst hothers
      · rename_i c after hrest
        split at h
        · rename_i hc
          cases h
          have hblank : ∀ d ∈ c :: after.takeWhile isBlank, isBlank d = true := by
            rw [List.forall_mem_cons]
            exact ⟨hc, fun d hd => List.all_eq_true.1 List.all_takeWhile d hd⟩
          have hvalue : ∀ d ∈ (trimStart after).head?, isBlank d = false := by
            intro d hd
            have hhead := List.head?_dropWhile_not isBlank after
            rw [← trimStart, Option.mem_def.1 hd] at hhead
            simpa using hhead
          have hrest : rest = rest.takeWhile isTagNameChar ++
              ((c :: after.takeWhile isBlank) ++ trimStart after) := by
            rw [List.cons_append, trimStart, List.takeWhile_append_dropWhile, ← hrest, hsplit]
          have hline := IsTagLine.valued hfirst hothers (List.cons_ne_nil _ _) hblank hvalue
          rwa [← hrest] at hline
        · cases h
    · cases h
  · cases h

theorem IsTagLine.tagLine?_eq {line value : List Char} {name : String}
    (h : IsTagLine line name value) : tagLine? line = some (name, value) := by
  cases h with
  | @bare first others hfirst hothers =>
    have htake : others.takeWhile isTagNameChar = others := List.takeWhile_eq_self_iff.2 hothers
    have hdrop : others.dropWhile isTagNameChar = [] := List.dropWhile_eq_nil_iff.2 hothers
    simp only [tagLine?, hfirst, if_true, htake, hdrop]
  | @valued first others gap value hfirst hothers hgap hblank hvalue =>
    obtain ⟨c, gap, rfl⟩ := List.exists_cons_of_ne_nil hgap
    rw [List.forall_mem_cons] at hblank
    have hname := isTagNameChar_of_isBlank hblank.1
    have htake : (others ++ (c :: gap ++ value)).takeWhile isTagNameChar = others := by
      rw [List.takeWhile_append_of_pos hothers, List.cons_append,
        List.takeWhile_cons_of_neg (by simp [hname]), List.append_nil]
    have hdrop : (others ++ (c :: gap ++ value)).dropWhile isTagNameChar =
        c :: (gap ++ value) := by
      rw [List.dropWhile_append_of_pos hothers, List.cons_append,
        List.dropWhile_cons_of_neg (by simp [hname])]
    have htrim : trimStart (gap ++ value) = value := by
      rw [trimStart, List.dropWhile_append_of_pos hblank.2, dropWhile_isBlank_eq_self hvalue]
    simp only [tagLine?, hfirst, if_true, htake, hdrop, hblank.1, htrim]

def recognizedNames : List String :=
  ["group", "component", "description"]

/-- Name and value of a line whose tag is recognized. -/
def recognized? (line : List Char) : Option (String × List Char) :=
  (tagLine? (trimEnd line)).filter fun tag => recognizedNames.contains tag.1

theorem recognized?_eq_some_iff {line value : List Char} {name : String} :
    recognized? line = some (name, value) ↔
      IsTagLine (trimEnd line) name value ∧ name ∈ recognizedNames := by
  rw [recognized?, Option.filter_eq_some_iff, List.contains_iff_mem]
  exact and_congr_left' ⟨isTagLine_of_tagLine?, IsTagLine.tagLine?_eq⟩

/-- A line that belongs to the text of an open description. -/
def isPlain (line : List Char) : Bool :=
  (recognized? line).isNone

theorem isPlain_of_eq_none {line : List Char} (h : recognized? line = none) :
    isPlain line = true := by
  rw [isPlain, h]
  rfl

theorem isPlain_of_eq_some {line : List Char} {tag : String × List Char}
    (h : recognized? line = some tag) : isPlain line = false := by
  rw [isPlain, h]
  rfl

/-! ## One line -/

namespace Reading

variable {reading : Reading} {line value : List Char} {name : String}

@[simp] theorem close_values (reading : Reading) :
    reading.close.values = reading.tags.values := by
  unfold close
  split <;> rfl

theorem readLine_plain (h : recognized? line = none) :
    reading.readLine line = reading.addText line := by
  unfold readLine
  rw [recognized?] at h
  split
  · rfl
  · rename_i name value htag
    rw [htag, Option.filter_some, ite_eq_right_iff] at h
    have hother : name ∉ recognizedNames := by
      intro hmem
      cases h (List.contains_iff_mem.2 hmem)
    simp only [recognizedNames, List.mem_cons, List.not_mem_nil, or_false, not_or] at hother
    rw [if_neg (not_or.2 ⟨hother.1, hother.2.1⟩), if_neg hother.2.2]

theorem readLine_value (h : recognized? line = some (name, value)) (hname : name ≠ "description") :
    reading.readLine line =
      ⟨{ reading.close with
          values := reading.tags.values.insert name (String.ofList (trim value)) }, none⟩ := by
  rw [recognized?, Option.filter_eq_some_iff] at h
  obtain ⟨htag, hrecognized⟩ := h
  have hvalue : name = "group" ∨ name = "component" := by
    simpa [recognizedNames, hname] using hrecognized
  simp only [readLine, htag, if_pos hvalue, close_values]

theorem readLine_description (h : recognized? line = some ("description", value)) :
    reading.readLine line = ⟨reading.close, some [value]⟩ := by
  rw [recognized?, Option.filter_eq_some_iff] at h
  simp only [readLine, h.1]
  rw [if_neg (by decide), if_pos trivial]

end Reading

/-! ## The last line of a name -/

/-- The last line that is recognized with this name has this value, and `after` stands behind it. -/
def LastTag (lines : List (List Char)) (name : String) (value : List Char)
    (after : List (List Char)) : Prop :=
  ∃ before line, lines = before ++ line :: after ∧ recognized? line = some (name, value) ∧
    ∀ other ∈ after, ∀ found, recognized? other ≠ some (name, found)

variable {lines after : List (List Char)} {line value : List Char} {name : String}

theorem not_lastTag_nil : ¬LastTag [] name value after := by
  rintro ⟨before, line, hsplit, -⟩
  simp at hsplit

/-- A line that is recognized with the name is the last one. -/
theorem lastTag_concat_of_eq {found : List Char} (h : recognized? line = some (name, found)) :
    LastTag (lines ++ [line]) name value after ↔ value = found ∧ after = [] := by
  constructor
  · rintro ⟨before, first, hsplit, hfirst, hafter⟩
    rcases List.eq_nil_or_concat after with rfl | ⟨others, last, rfl⟩
    · obtain ⟨-, hline⟩ := List.append_inj' hsplit rfl
      cases hline
      rw [h] at hfirst
      cases hfirst
      exact ⟨rfl, rfl⟩
    · rw [List.concat_eq_append, ← List.cons_append, ← List.append_assoc] at hsplit
      obtain ⟨-, hline⟩ := List.append_inj' hsplit rfl
      cases hline
      exact absurd h (hafter line (by simp) found)
  · rintro ⟨rfl, rfl⟩
    exact ⟨lines, line, rfl, h, List.forall_mem_nil _⟩

/-- Any other line stands behind the last one. -/
theorem lastTag_concat_of_ne (h : ∀ found, recognized? line ≠ some (name, found)) :
    LastTag (lines ++ [line]) name value after ↔
      ∃ others, after = others ++ [line] ∧ LastTag lines name value others := by
  constructor
  · rintro ⟨before, first, hsplit, hfirst, hafter⟩
    rcases List.eq_nil_or_concat after with rfl | ⟨others, last, rfl⟩
    · obtain ⟨-, hline⟩ := List.append_inj' hsplit rfl
      cases hline
      exact absurd hfirst (h value)
    · rw [List.concat_eq_append, ← List.cons_append, ← List.append_assoc] at hsplit
      obtain ⟨hlines, hline⟩ := List.append_inj' hsplit rfl
      cases hline
      refine ⟨others, List.concat_eq_append, before, first, hlines, hfirst, ?_⟩
      intro other hother
      exact hafter other (by simp [hother])
  · rintro ⟨others, rfl, before, first, rfl, hfirst, hothers⟩
    refine ⟨before, first, by simp, hfirst, ?_⟩
    intro other hother
    rcases List.mem_append.1 hother with hother | hother
    · exact hothers other hother
    · rw [List.mem_singleton.1 hother]
      exact h

/-! ## The lines so far -/

/-- The names of the lines that set a value, in order. -/
def valueNames (lines : List (List Char)) : List String :=
  ((lines.filterMap recognized?).map Prod.fst).filter (· != "description")

theorem valueNames_concat (lines : List (List Char)) (line : List Char) :
    valueNames (lines ++ [line]) = valueNames lines ++ valueNames [line] := by
  simp only [valueNames, List.filterMap_append, List.map_append, List.filter_append]

/-- The last line of this name has this value, blank characters at its ends left out. -/
def HasValue (lines : List (List Char)) (name : String) (text : String) : Prop :=
  ∃ value after, LastTag lines name value after ∧ text = String.ofList (trim value)

theorem hasValue_concat_of_ne (h : ∀ found, recognized? line ≠ some (name, found))
    (text : String) : HasValue (lines ++ [line]) name text ↔ HasValue lines name text := by
  simp only [HasValue, lastTag_concat_of_ne h]
  constructor
  · rintro ⟨value, after, ⟨others, -, hlast⟩, htext⟩
    exact ⟨value, others, hlast, htext⟩
  · rintro ⟨value, others, hlast, htext⟩
    exact ⟨value, _, ⟨others, rfl, hlast⟩, htext⟩

/-- Lines as one text. -/
def joined (lines : List (List Char)) : String :=
  String.ofList (trim (joinLines lines))

/-- The text found so far and the lines of the open description after these lines. -/
inductive Describes (lines : List (List Char)) : String → Option (List (List Char)) → Prop
  | absent (hnone : ∀ value after, ¬LastTag lines "description" value after) :
      Describes lines "" none
  | opened {text : String} {value : List Char} {after : List (List Char)}
      (hlast : LastTag lines "description" value after) (hplain : ∀ line ∈ after, isPlain line) :
      Describes lines text (some (value :: after).reverse)
  | closed {value : List Char} {after : List (List Char)}
      (hlast : LastTag lines "description" value after) (hended : ¬∀ line ∈ after, isPlain line) :
      Describes lines (joined (value :: after.takeWhile isPlain)) none

namespace Describes

variable {text : String} {body : Option (List (List Char))}

/-- A plain line goes on with an open description. -/
theorem plain (h : Describes lines text body) (hline : recognized? line = none) :
    Describes (lines ++ [line]) text (body.map (line :: ·)) := by
  have hother : ∀ found, recognized? line ≠ some ("description", found) := by simp [hline]
  cases h with
  | absent hnone =>
    refine .absent fun value after hlast => ?_
    obtain ⟨others, -, hothers⟩ := (lastTag_concat_of_ne hother).1 hlast
    exact hnone value others hothers
  | @opened text value after hlast hplain =>
    have hmore : ∀ other ∈ after ++ [line], isPlain other := by
      rw [List.forall_mem_append, List.forall_mem_singleton]
      exact ⟨hplain, isPlain_of_eq_none hline⟩
    have hopened : Describes (lines ++ [line]) text (some (value :: (after ++ [line])).reverse) :=
      .opened ((lastTag_concat_of_ne hother).2 ⟨after, rfl, hlast⟩) hmore
    simpa using hopened
  | @closed value after hlast hended =>
    have hmore : ¬∀ other ∈ after ++ [line], isPlain other := by
      rw [List.forall_mem_append]
      exact fun hall => hended hall.1
    have hclosed := closed ((lastTag_concat_of_ne hother).2 ⟨after, rfl, hlast⟩) hmore
    rwa [List.takeWhile_append, if_neg] at hclosed
    intro hlength
    exact hended (List.takeWhile_eq_self_iff.1 ((List.takeWhile_sublist _).eq_of_length hlength))

/-- The description once an open one is ended. -/
theorem description_close {reading : Reading}
    (h : Describes lines reading.tags.description reading.body) :
    (reading.close.description = "" ∧ ∀ value after, ¬LastTag lines "description" value after) ∨
      ∃ value after, LastTag lines "description" value after ∧
        reading.close.description = joined (value :: after.takeWhile isPlain) := by
  obtain ⟨⟨values, text⟩, body⟩ := reading
  cases h with
  | absent hnone => exact .inl ⟨rfl, hnone⟩
  | @opened _ value after hlast hplain =>
    refine .inr ⟨value, after, hlast, ?_⟩
    simp only [Reading.close, List.takeWhile_eq_self_iff.2 hplain, List.reverse_reverse, joined]
  | @closed value after hlast hended => exact .inr ⟨value, after, hlast, rfl⟩

/-- A line that sets a value ends an open description. -/
theorem ended {reading : Reading} (h : Describes lines reading.tags.description reading.body)
    {found : List Char} (hline : recognized? line = some (name, found))
    (hname : name ≠ "description") :
    Describes (lines ++ [line]) reading.close.description none := by
  have hother : ∀ found, recognized? line ≠ some ("description", found) := by
    intro found hfound
    rw [hline, Option.some.injEq, Prod.mk.injEq] at hfound
    exact hname hfound.1
  rcases h.description_close with ⟨htext, hnone⟩ | ⟨value, after, hlast, htext⟩
  · rw [htext]
    refine .absent fun value after hlast => ?_
    obtain ⟨others, -, hothers⟩ := (lastTag_concat_of_ne hother).1 hlast
    exact hnone value others hothers
  · have hstop : isPlain line = false := isPlain_of_eq_some hline
    have hended : ¬∀ other ∈ after ++ [line], isPlain other := fun hall => by
      simpa [hstop] using hall line (by simp)
    have htake : (after ++ [line]).takeWhile isPlain = after.takeWhile isPlain := by
      rw [List.takeWhile_append, List.takeWhile_cons_of_neg (by simp [hstop]), List.append_nil]
      split
      · rename_i hlength
        exact ((List.takeWhile_sublist _).eq_of_length hlength).symm
      · rfl
    rw [htext, ← htake]
    exact .closed ((lastTag_concat_of_ne hother).2 ⟨after, rfl, hlast⟩) hended

/-- A line that begins a description opens one. -/
theorem description {found : List Char} (hline : recognized? line = some ("description", found))
    (text : String) : Describes (lines ++ [line]) text (some [found]) :=
  .opened ((lastTag_concat_of_eq hline).2 ⟨rfl, rfl⟩) (List.forall_mem_nil _)

end Describes

/-- What has been read after these lines. -/
structure Reads (lines : List (List Char)) (reading : Reading) : Prop where
  keys : reading.tags.values.keys = (valueNames lines).eraseDups
  values : ∀ name text, reading.tags.values.get? name = some text ↔
    name ≠ "description" ∧ HasValue lines name text
  description : Describes lines reading.tags.description reading.body

namespace Reads

variable {reading : Reading}

theorem start : Reads [] .start := by
  refine ⟨rfl, ?_, .absent fun value after => not_lastTag_nil⟩
  intro name text
  constructor
  · intro h
    cases h
  · rintro ⟨-, value, after, hlast, -⟩
    exact absurd hlast not_lastTag_nil

/-- A line that sets no value leaves the values as they are. -/
theorem of_values_eq (h : Reads lines reading) {next : Reading}
    (hnext : next.tags.values = reading.tags.values)
    (hline : ∀ name found, recognized? line = some (name, found) → name = "description")
    (hdescription : Describes (lines ++ [line]) next.tags.description next.body) :
    Reads (lines ++ [line]) next := by
  have hnone : valueNames [line] = [] := by
    cases hfound : recognized? line with
    | none => simp [valueNames, hfound]
    | some tag => simp [valueNames, hfound, hline tag.1 tag.2 hfound]
  refine ⟨?_, ?_, hdescription⟩
  · rw [hnext, h.keys, valueNames_concat, hnone, List.append_nil]
  · intro name text
    rw [hnext, h.values]
    refine and_congr_right fun hname => (hasValue_concat_of_ne ?_ text).symm
    intro found hfound
    exact hname (hline name found hfound)

theorem readLine (h : Reads lines reading) (line : List Char) :
    Reads (lines ++ [line]) (reading.readLine line) := by
  cases hline : recognized? line with
  | none =>
    rw [Reading.readLine_plain hline]
    exact h.of_values_eq rfl (by simp [hline]) (h.description.plain hline)
  | some tag =>
    obtain ⟨key, value⟩ := tag
    by_cases hkey : key = "description"
    · subst hkey
      rw [Reading.readLine_description hline]
      refine h.of_values_eq (Reading.close_values reading) ?_ (.description hline _)
      intro name found hfound
      rw [hline] at hfound
      cases hfound
      rfl
    · rw [Reading.readLine_value hline hkey]
      have hnames : valueNames [line] = [key] := by simp [valueNames, hline, hkey]
      refine ⟨?_, ?_, h.description.ended hline hkey⟩
      · rw [OrderedMap.keys_insert, h.keys, valueNames_concat, hnames, List.eraseDups_append]
        by_cases hold : key ∈ valueNames lines <;> simp [List.removeAll, hold, List.eraseDups_cons]
      · intro name text
        rw [OrderedMap.get?_insert]
        split
        · rename_i hsame
          subst hsame
          simp only [HasValue, lastTag_concat_of_eq hline]
          constructor
          · intro htext
            cases htext
            exact ⟨hkey, value, [], ⟨rfl, rfl⟩, rfl⟩
          · rintro ⟨-, _, _, ⟨rfl, -⟩, rfl⟩
            rfl
        · rename_i hother
          rw [h.values, hasValue_concat_of_ne]
          intro found hfound
          rw [hline, Option.some.injEq, Prod.mk.injEq] at hfound
          exact hother hfound.1.symm

end Reads

/-- The lines of a block are read one after the other. -/
theorem reads_foldl (lines : List (List Char)) :
    Reads lines (lines.foldl Reading.readLine .start) := by
  induction lines using List.reverseRecOn with
  | nil => exact .start
  | append_singleton lines line ih =>
    rw [List.foldl_append]
    exact ih.readLine line

/-- A doc block in front of a class is read as its lines say.  A line is recognized when, without
the blank characters at its end, it is a tag line with one of three names.  The values are those of
the last lines of their names, in the order in which the names first occur.  The description is the
text of the last line that begins one and of the lines behind it up to the next recognized line, and
empty when no line begins one. -/
theorem tags_eq_lastTag (comment : String) :
    let lines := contentLines comment
    let found := tags (some comment)
    (∀ line name value, recognized? line = some (name, value) ↔
        IsTagLine (trimEnd line) name value ∧ name ∈ ["group", "component", "description"]) ∧
      found.values.keys = (valueNames lines).eraseDups ∧
      (∀ name text, found.values.get? name = some text ↔ name ≠ "description" ∧
        ∃ value after, LastTag lines name value after ∧ text = String.ofList (trim value)) ∧
      ((found.description = "" ∧ ∀ value after, ¬LastTag lines "description" value after) ∨
        ∃ value after, LastTag lines "description" value after ∧
          found.description = String.ofList (trim (joinLines
            (value :: after.takeWhile fun line => (recognized? line).isNone)))) := by
  intro lines found
  have hreads := reads_foldl lines
  have hvalues : found.values = (lines.foldl Reading.readLine .start).tags.values :=
    Reading.close_values _
  refine ⟨fun line name value => recognized?_eq_some_iff, ?_, ?_, ?_⟩
  · rw [hvalues]
    exact hreads.keys
  · rw [hvalues]
    exact hreads.values
  · exact hreads.description.description_close

end DocBlock

end ComponentDocs
