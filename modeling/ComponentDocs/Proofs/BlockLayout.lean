import ComponentDocs.DocBlock
import ComponentDocs.Proofs.Text.Lines
import ComponentDocs.Proofs.Text.Trim

/-!
# The layout of a doc block

The same lines can be laid out as a doc block in many ways: with any indentation before and behind
the star of each line and before the closing mark, and with either line ending.  `Block` is such a
layout with its lines.  What is left once the decoration is removed does not depend on it
(`contentLines_text`), but for an empty line where the block is closed.

An empty line at the beginning or at the end changes neither the text of a block nor its tags, so
both are those of the lines themselves.  `reading_of_layout` is the result.
-/

namespace ComponentDocs.DocBlock

open Text

/-! ## Blocks -/

/-- An indentation of spaces and tabs. -/
structure Indent where
  chars : List Char
  spaces : ∀ c ∈ chars, c = ' ' ∨ c = '\t'

/-- A line without line ending that does not begin with a blank character. -/
structure Line where
  chars : List Char
  noFeed : '\n' ∉ chars
  noReturn : '\r' ∉ chars
  begins : ∀ c ∈ chars.head?, isBlank c = false

/-- A line as it is laid out in a block. -/
structure Row where
  before : Indent
  behind : Indent
  line : Line
  ending : LineEnd

def Row.chars (row : Row) : List Char :=
  row.before.chars ++ '*' :: row.behind.chars ++ row.line.chars ++ row.ending.chars

/-- A doc block with each of its lines on a row of its own. -/
structure Block where
  opening : LineEnd
  rows : List Row
  closing : Indent

namespace Block

def lines (block : Block) : List (List Char) :=
  block.rows.map fun row => row.line.chars

/-- What stands between the marks of the comment. -/
def inside (block : Block) : List Char :=
  block.opening.chars ++ block.rows.flatMap Row.chars ++ block.closing.chars

def text (block : Block) : String :=
  String.ofList ("/**".toList ++ block.inside ++ "*/".toList)

theorem toList_text (block : Block) :
    block.text.toList = "/**".toList ++ block.inside ++ "*/".toList :=
  String.toList_ofList

end Block

/-! ## Removing the decoration -/

theorem Indent.isBlank_of_mem (indent : Indent) {c : Char} (hc : c ∈ indent.chars) :
    isBlank c = true := by
  rcases indent.spaces c hc with rfl | rfl <;> rfl

theorem Indent.notMem (indent : Indent) {c : Char} (hspace : c ≠ ' ') (htab : c ≠ '\t') :
    c ∉ indent.chars := fun hc =>
  (indent.spaces c hc).elim hspace htab

theorem dropDecoration_indent (indent : Indent) : dropDecoration indent.chars = [] := by
  have hnil : trimStart indent.chars = [] :=
    List.dropWhile_eq_nil_iff.2 fun c hc => indent.isBlank_of_mem hc
  rw [dropDecoration, hnil]
  rfl

/-- One star and the indentation on both sides of it are removed. -/
theorem dropDecoration_row (before behind : Indent) (line : Line) :
    dropDecoration (before.chars ++ '*' :: behind.chars ++ line.chars) = line.chars := by
  have hbefore : trimStart (before.chars ++ '*' :: behind.chars ++ line.chars) =
      '*' :: (behind.chars ++ line.chars) := by
    rw [trimStart, List.append_assoc, List.dropWhile_append_of_pos fun c hc =>
      before.isBlank_of_mem hc]
    rfl
  have hbehind : trimStart (behind.chars ++ line.chars) = line.chars := by
    rw [trimStart, List.dropWhile_append_of_pos fun c hc => behind.isBlank_of_mem hc]
    exact dropWhile_isBlank_eq_self line.begins
  rw [dropDecoration, hbefore]
  exact hbehind

theorem inner_text (block : Block) : inner block.text.toList = block.inside := by
  rw [block.toList_text, inner, List.append_assoc, dropStart?_append]
  simp only [Option.orElse_some, Option.getD_some, dropEnd?_append]

theorem lines_rows (rows : List Row) (rest : List Char) :
    Text.lines (rows.flatMap Row.chars ++ rest) =
      rows.map (fun row => row.before.chars ++ '*' :: row.behind.chars ++ row.line.chars) ++
        Text.lines rest := by
  induction rows with
  | nil => rfl
  | cons row rows ih =>
    have hfeed : '\n' ∉ row.before.chars ++ '*' :: row.behind.chars ++ row.line.chars := by
      simp [row.before.notMem, row.behind.notMem, row.line.noFeed]
    have hreturn : '\r' ∉ row.before.chars ++ '*' :: row.behind.chars ++ row.line.chars := by
      simp [row.before.notMem, row.behind.notMem, row.line.noReturn]
    rw [List.flatMap_cons, List.append_assoc, Row.chars,
      lines_append_lineEnd hfeed hreturn, ih, List.map_cons, List.cons_append]

theorem lines_closing (closing : Indent) :
    (Text.lines closing.chars).map dropDecoration = [] ∨
      (Text.lines closing.chars).map dropDecoration = [[]] := by
  by_cases hempty : closing.chars = []
  · rw [hempty]
    exact .inl rfl
  · rw [lines_of_notMem (closing.notMem (by decide) (by decide)) hempty, List.map_singleton,
      dropDecoration_indent]
    exact .inr rfl

/-- Without decoration a block is its lines, below an empty one and sometimes above one. -/
theorem contentLines_text (block : Block) :
    ∃ last, (last = [] ∨ last = [[]]) ∧
      contentLines block.text = [] :: (block.lines ++ last) := by
  refine ⟨(Text.lines block.closing.chars).map dropDecoration, lines_closing block.closing, ?_⟩
  have hopening : Text.lines (block.opening.chars ++
      (block.rows.flatMap Row.chars ++ block.closing.chars)) =
        [] :: Text.lines (block.rows.flatMap Row.chars ++ block.closing.chars) :=
    lines_append_lineEnd List.not_mem_nil List.not_mem_nil block.opening _
  rw [contentLines, inner_text, Block.inside, List.append_assoc, hopening, lines_rows,
    List.map_cons, List.map_append, List.map_map]
  refine congrArg₂ List.cons rfl (congrArg (· ++ _) (List.map_congr_left fun row hrow => ?_))
  exact dropDecoration_row row.before row.behind row.line

/-! ## Empty lines at the ends -/

theorem isBlank_newline : ∀ c ∈ ['\n'], isBlank c = true :=
  List.forall_mem_singleton.2 rfl

theorem trim_joinLines_cons_nil (pieces : List (List Char)) :
    trim (joinLines ([] :: pieces)) = trim (joinLines pieces) := by
  cases pieces with
  | nil => rfl
  | cons piece pieces =>
    rw [joinLines, List.intercalate_cons_cons]
    exact trim_blank_append isBlank_newline _

theorem trim_joinLines_concat_nil (pieces : List (List Char)) :
    trim (joinLines (pieces ++ [[]])) = trim (joinLines pieces) := by
  by_cases hne : pieces = []
  · rw [hne]
    rfl
  · rw [joinLines_concat hne]
    exact trim_append_blank isBlank_newline _

/-- An empty line is plain text. -/
theorem readLine_nil (reading : Reading) : reading.readLine [] = reading.addText [] :=
  rfl

theorem close_addText_nil (reading : Reading) : (reading.addText []).close = reading.close := by
  obtain ⟨tags, body⟩ := reading
  cases body with
  | none => rfl
  | some body =>
    simp only [Reading.addText, Reading.close, Option.map_some, List.reverse_cons,
      trim_joinLines_concat_nil]

/-! ## What a block says -/

theorem description_text (block : Block) :
    description (some block.text) = String.ofList (trim (joinLines block.lines)) := by
  obtain ⟨last, hlast, hlines⟩ := contentLines_text block
  rw [description, hlines, trim_joinLines_cons_nil]
  rcases hlast with rfl | rfl
  · rw [List.append_nil]
  · rw [trim_joinLines_concat_nil]

theorem tags_text (block : Block) :
    tags (some block.text) = (block.lines.foldl Reading.readLine .start).close := by
  obtain ⟨last, hlast, hlines⟩ := contentLines_text block
  have hstart : Reading.start.readLine [] = .start := readLine_nil .start
  rw [tags, hlines, List.foldl_cons, hstart, List.foldl_append]
  rcases hlast with rfl | rfl
  · rfl
  · rw [List.foldl_cons, List.foldl_nil, readLine_nil, close_addText_nil]

/-- The layout of a doc block does not matter.  In front of a member the block says what its lines
say, one below the other and without the blank characters at the two ends; in front of a class it
has the tags that are read from the lines.  Two blocks with the same lines therefore say the same,
whatever their indentations and line endings are. -/
theorem reading_of_layout (block : Block) :
    description (some block.text) = String.ofList (trim (joinLines block.lines)) ∧
      tags (some block.text) = (block.lines.foldl Reading.readLine .start).close ∧
      ∀ other : Block, other.lines = block.lines →
        tags (some other.text) = tags (some block.text) := by
  refine ⟨description_text block, tags_text block, fun other hlines => ?_⟩
  rw [tags_text, tags_text, hlines]

/-- A tag, an empty line and a line that begins with a star, in two layouts. -/
theorem reading_of_layout_endings :
    let lines : List Line := [⟨"@group  Layout ".toList, by decide, by decide, by rintro _ ⟨⟩; rfl⟩,
      ⟨"@description".toList, by decide, by decide, by rintro _ ⟨⟩; rfl⟩,
      ⟨[], by decide, by decide, by rintro _ ⟨⟩⟩,
      ⟨"* starred".toList, by decide, by decide, by rintro _ ⟨⟩; rfl⟩]
    let block : Block := ⟨.feed, lines.map fun line =>
      ⟨⟨[' '], by simp⟩, ⟨[' '], by simp⟩, line, .feed⟩, ⟨[' '], by simp⟩⟩
    let other : Block := ⟨.returnFeed, lines.map fun line =>
      ⟨⟨['\t', ' '], by simp⟩, ⟨[], by simp⟩, line, .returnFeed⟩, ⟨[], by simp⟩⟩
    block.text = "/**\n * @group  Layout \n * @description\n * \n * * starred\n */" ∧
      other.text = "/**\r\n\t *@group  Layout \r\n\t *@description\r\n\t *\r\n\t ** starred\r\n*/" ∧
      other.lines = block.lines ∧ tags (some other.text) = tags (some block.text) ∧
      (tags (some block.text)).group = some "Layout" ∧
      (tags (some block.text)).description = "* starred" := by
  intro lines block other
  have hlines : other.lines = block.lines := rfl
  obtain ⟨-, -, hother⟩ := reading_of_layout block
  exact ⟨by decide +kernel, by decide +kernel, hlines, hother other hlines, by decide +kernel,
    by decide +kernel⟩

end ComponentDocs.DocBlock
