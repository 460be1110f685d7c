import ComponentDocs.Text.Lines
import Mathlib.Data.List.Basic

/-!
# Pieces and lines

A text is cut at each separator, so what stands before the first one is the first piece
(`splitAt_append_separator`).  A line feed ends a line whether or not a carriage return stands
before it (`lines_append_lineEnd`), and what no line feed ends is a line when it is not empty
(`lines_of_notMem`).
-/

namespace ComponentDocs.Text

/-! ## Ends -/

theorem dropStart?_append (start cs : List Char) : dropStart? start (start ++ cs) = some cs := by
  rw [dropStart?, if_pos (List.isPrefixOf_iff_prefix.2 (List.prefix_append _ _)), List.drop_left]

theorem dropStart?_eq_none {start cs : List Char} (h : ¬ start <+: cs) :
    dropStart? start cs = none :=
  if_neg fun hstart => h (List.isPrefixOf_iff_prefix.1 hstart)

theorem dropEnd?_append (cs ending : List Char) : dropEnd? ending (cs ++ ending) = some cs := by
  rw [dropEnd?, if_pos (List.isSuffixOf_iff_suffix.2 (List.suffix_append _ _)),
    List.length_append, Nat.add_sub_cancel, List.take_left]

/-! ## Pieces -/

theorem splitAt_ne_nil (separator : Char) (cs : List Char) : splitAt separator cs ≠ [] := by
  cases cs with
  | nil => simp [splitAt]
  | cons c rest =>
    rw [splitAt]
    split
    · simp
    · split <;> simp

/-- The last piece is empty only for an empty text and after a separator. -/
theorem getLast?_splitAt_ne {separator : Char} {cs : List Char} (hne : cs ≠ [])
    (hlast : cs.getLast? ≠ some separator) : (splitAt separator cs).getLast? ≠ some [] := by
  induction cs with
  | nil => exact absurd rfl hne
  | cons c rest ih =>
    cases rest with
    | nil =>
      have hc : c ≠ separator := by simpa using hlast
      simp [splitAt, hc]
    | cons d rest =>
      have hrest := ih (by simp) (by simpa using hlast)
      obtain ⟨piece, pieces, hpieces⟩ := List.exists_cons_of_ne_nil
        (splitAt_ne_nil separator (d :: rest))
      rw [splitAt, hpieces]
      rw [hpieces] at hrest
      split
      · simpa using hrest
      · cases pieces with
        | nil => simp
        | cons next pieces => simpa using hrest

theorem splitAt_of_notMem {separator : Char} {piece : List Char} (h : separator ∉ piece) :
    splitAt separator piece = [piece] := by
  induction piece with
  | nil => rfl
  | cons c piece ih =>
    rw [List.mem_cons, not_or] at h
    rw [splitAt, if_neg (Ne.symm h.1), ih h.2]

theorem splitAt_append_separator {separator : Char} {piece : List Char} (h : separator ∉ piece)
    (rest : List Char) :
    splitAt separator (piece ++ separator :: rest) = piece :: splitAt separator rest := by
  induction piece with
  | nil => rw [List.nil_append, splitAt, if_pos rfl]
  | cons c piece ih =>
    rw [List.mem_cons, not_or] at h
    rw [List.cons_append, splitAt, if_neg (Ne.symm h.1), ih h.2]

/-! ## Lines -/

/-- What ends a line. -/
inductive LineEnd where
  | feed
  | returnFeed

def LineEnd.chars : LineEnd → List Char
  | .feed => ['\n']
  | .returnFeed => ['\r', '\n']

theorem dropReturn_of_notMem {line : List Char} (h : '\r' ∉ line) : dropReturn line = line :=
  if_neg fun hlast => h (List.mem_of_getLast? hlast)

theorem lines_append_feed {line : List Char} (h : '\n' ∉ line) (rest : List Char) :
    lines (line ++ '\n' :: rest) = dropReturn line :: lines rest := by
  obtain ⟨piece, pieces, hpieces⟩ := List.exists_cons_of_ne_nil (splitAt_ne_nil '\n' rest)
  rw [lines, splitAt_append_separator h, lines, hpieces, linesOfPieces]
  exact List.cons_ne_nil _ _

theorem lines_append_lineEnd {line : List Char} (hfeed : '\n' ∉ line) (hreturn : '\r' ∉ line)
    (ending : LineEnd) (rest : List Char) :
    lines (line ++ ending.chars ++ rest) = line :: lines rest := by
  rw [List.append_assoc]
  cases ending with
  | feed =>
    have hline := lines_append_feed hfeed rest
    rwa [dropReturn_of_notMem hreturn] at hline
  | returnFeed =>
    have hfeed' : '\n' ∉ line ++ ['\r'] := by simpa using hfeed
    have hline := lines_append_feed hfeed' rest
    rwa [dropReturn, List.getLast?_concat, if_pos rfl, List.dropLast_concat, List.append_assoc]
      at hline

theorem lines_of_notMem {cs : List Char} (h : '\n' ∉ cs) (hne : cs ≠ []) : lines cs = [cs] := by
  rw [lines, splitAt_of_notMem h, linesOfPieces, if_neg (by simpa using hne)]

theorem joinLines_concat {pieces : List (List Char)} (hne : pieces ≠ []) (piece : List Char) :
    joinLines (pieces ++ [piece]) = joinLines pieces ++ '\n' :: piece := by
  induction pieces with
  | nil => exact absurd rfl hne
  | cons first pieces ih =>
    cases pieces with
    | nil => simp [joinLines]
    | cons second pieces =>
      have hrest := ih (List.cons_ne_nil _ _)
      simp only [joinLines, List.cons_append, List.intercalate_cons_cons, List.append_assoc]
        at hrest ⊢
      rw [hrest]

end ComponentDocs.Text
