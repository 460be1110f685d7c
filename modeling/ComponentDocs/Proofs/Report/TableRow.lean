import ComponentDocs.Report.Markdown
import Mathlib.Data.List.Basic

/-!
# The row of a property

A row of a table is read by its pipes: each one that has no backslash directly before it ends a
cell, and a backslash before any other pipe is not shown.  `cells` and `shown` are this reading, and
`barePipes` counts the pipes that end a cell.

Texts whose pipes are all escaped pass into a cell as they are (`IsCellText`), whatever stands
around the cell, so a row can be read cell by cell (`cells_rowOf`).  `Property.tableRow_cells` is
the result for the row of a property.  It has its three cells always, but it is a single line only
if name, type and decorators are: only in the description are line feeds replaced.
-/

namespace ComponentDocs

open Text

/-! ## Reading a row -/

/-- A pipe with no backslash directly before it. -/
def isBarePipe (previous : Option Char) (c : Char) : Bool :=
  c == '|' && previous != some '\\'

/-- The number of bare pipes in a text behind `previous`. -/
def barePipes : (previous : Option Char) → List Char → Nat
  | _, [] => 0
  | previous, c :: rest => (if isBarePipe previous c then 1 else 0) + barePipes (some c) rest

/-- The pieces of a text behind `previous` between its bare pipes. -/
def cells : (previous : Option Char) → List Char → List (List Char)
  | _, [] => [[]]
  | previous, c :: rest =>
    if isBarePipe previous c then [] :: cells (some c) rest
    else (cells (some c) rest).modifyHead (c :: ·)

/-- What a cell shows: a backslash directly before a pipe is not shown. -/
def shown : List Char → List Char
  | [] => []
  | '\\' :: '|' :: rest => '|' :: shown rest
  | c :: rest => c :: shown rest

/-- The cells of a row as they are shown.  The first one stands before the first pipe. -/
def tableCells (row : String) : List String :=
  ((cells none row.toList).map shown).map String.ofList

/-- Every bare pipe begins a cell. -/
theorem length_cells (previous : Option Char) (cs : List Char) :
    (cells previous cs).length = barePipes previous cs + 1 := by
  induction cs generalizing previous with
  | nil => rfl
  | cons c rest ih =>
    rw [cells, barePipes]
    split
    · rw [List.length_cons, ih, Nat.add_comm 1]
    · rw [List.length_modifyHead, ih, Nat.zero_add]

/-! ## Escaped texts -/

/-- A text that has a backslash directly before each of its pipes. -/
inductive IsCellText : List Char → Prop
  | nil : IsCellText []
  | char {c : Char} {rest : List Char} (hc : c ≠ '|') (hrest : IsCellText rest) :
      IsCellText (c :: rest)
  | pipe {rest : List Char} (hrest : IsCellText rest) : IsCellText ('\\' :: '|' :: rest)

/-- A text with its pipes escaped. -/
def escapePipes (cs : List Char) : List Char :=
  cs.flatMap fun c => if c = '|' then ['\\', '|'] else [c]

theorem escapePipes_cons (c : Char) (cs : List Char) :
    escapePipes (c :: cs) = (if c = '|' then ['\\', '|'] else [c]) ++ escapePipes cs :=
  List.flatMap_cons

theorem escapePipes_append (cs ds : List Char) :
    escapePipes (cs ++ ds) = escapePipes cs ++ escapePipes ds :=
  List.flatMap_append

theorem toList_escapeCell (text : String) :
    (escapeCell text).toList = escapePipes text.toList :=
  String.toList_ofList

theorem toList_substitute (c : Char) (replacement text : String) :
    (substitute c replacement text).toList =
      text.toList.flatMap fun x => if x = c then replacement.toList else [x] :=
  String.toList_ofList

theorem toList_lineBreak : "<br/>".toList = ['<', 'b', 'r', '/', '>'] :=
  String.toList_ofList

/-- Line feeds can be replaced before or after pipes are escaped. -/
theorem substitute_escapeCell (text : String) :
    (substitute '\n' "<br/>" (escapeCell text)).toList =
      escapePipes (substitute '\n' "<br/>" text).toList := by
  rw [toList_substitute, toList_substitute, toList_escapeCell, toList_lineBreak]
  induction text.toList with
  | nil => rfl
  | cons c cs ih =>
    rw [escapePipes_cons, List.flatMap_append, List.flatMap_cons, escapePipes_append, ih]
    congr 1
    by_cases hpipe : c = '|'
    · rw [hpipe]
      rfl
    · by_cases hnewline : c = '\n'
      · rw [hnewline]
        rfl
      · simp [hpipe, hnewline, escapePipes]

theorem isCellText_escapePipes (cs : List Char) : IsCellText (escapePipes cs) := by
  induction cs with
  | nil => exact .nil
  | cons c cs ih =>
    rw [escapePipes_cons]
    split
    · exact .pipe ih
    · rename_i hc
      exact .char hc ih

theorem mem_escapePipes_of_ne {d : Char} (hbackslash : d ≠ '\\') {cs : List Char} :
    d ∈ escapePipes cs ↔ d ∈ cs := by
  induction cs with
  | nil => exact Iff.rfl
  | cons c cs ih =>
    rw [escapePipes_cons, List.mem_append, List.mem_cons, ih]
    refine or_congr_left ?_
    split
    · rename_i hc
      simp [hc, hbackslash]
    · exact List.mem_singleton

theorem IsCellText.head?_ne {text : List Char} (h : IsCellText text) :
    text.head? ≠ some '|' := by
  cases h with
  | nil => simp
  | char hc hrest => simpa using hc
  | pipe hrest => simp

/-- A cell shows the text that was escaped. -/
theorem shown_escapePipes (cs : List Char) : shown (escapePipes cs) = cs := by
  induction cs with
  | nil => rfl
  | cons c cs ih =>
    rw [escapePipes_cons]
    split
    · rename_i hc
      rw [hc]
      exact congrArg ('|' :: ·) ih
    · have hhead := (isCellText_escapePipes cs).head?_ne
      rw [List.singleton_append, shown, ih]
      rintro rest rfl hrest
      rw [hrest] at hhead
      exact hhead rfl

/-- A cell is left at the bare pipe behind it. -/
theorem IsCellText.cells_append {text : List Char} (h : IsCellText text) (previous : Option Char)
    (rest : List Char) :
    cells previous (text ++ ' ' :: '|' :: rest) = (text ++ [' ']) :: cells (some '|') rest := by
  induction h generalizing previous with
  | nil => simp [cells, isBarePipe]
  | char hc hrest ih => simp [cells, isBarePipe, hc, ih]
  | pipe hrest ih => simp [cells, isBarePipe, ih]

/-! ## Rows -/

/-- A row of these texts. -/
def rowOf (texts : List (List Char)) : List Char :=
  '|' :: texts.flatMap fun text => ' ' :: escapePipes text ++ [' ', '|']

theorem cells_rowOf (texts : List (List Char)) :
    (cells none (rowOf texts)).map shown =
      [] :: texts.map (fun text => ' ' :: text ++ [' ']) ++ [[]] := by
  have hcells : ∀ previous, (cells previous (texts.flatMap fun text =>
      ' ' :: escapePipes text ++ [' ', '|'])).map shown =
        texts.map (fun text => ' ' :: text ++ [' ']) ++ [[]] := by
    induction texts with
    | nil => exact fun previous => rfl
    | cons text texts ih =>
      intro previous
      have hcell : IsCellText (' ' :: escapePipes text) :=
        .char (by decide) (isCellText_escapePipes text)
      have hshown : shown (' ' :: escapePipes text ++ [' ']) = ' ' :: text ++ [' '] := by
        have hpadded := shown_escapePipes (' ' :: text ++ [' '])
        rwa [escapePipes_append] at hpadded
      have hfirst := hcell.cells_append previous
        (texts.flatMap fun text => ' ' :: escapePipes text ++ [' ', '|'])
      rw [List.flatMap_cons, List.append_assoc]
      exact (congrArg (List.map shown) hfirst).trans (by rw [List.map_cons, hshown, ih]; rfl)
  exact congrArg ([] :: ·) (hcells (some '|'))

theorem mem_rowOf_of_ne {d : Char} (hpipe : d ≠ '|') (hspace : d ≠ ' ') (hbackslash : d ≠ '\\')
    {texts : List (List Char)} : d ∈ rowOf texts ↔ ∃ text ∈ texts, d ∈ text := by
  simp only [rowOf, List.mem_cons, List.mem_flatMap, List.mem_append, List.cons_append,
    mem_escapePipes_of_ne hbackslash, hpipe, hspace, List.not_mem_nil, false_or, or_false]

namespace Property

/-- What stands in the cell of the name: the decorators, each on a line of its own, and the name,
all as code. -/
def nameText (property : Property) : String :=
  String.join (property.decorators.map fun text => codeSpan text ++ "<br/>") ++
    codeSpan property.name

theorem toList_tableRow (property : Property) :
    property.tableRow.toList = rowOf [property.nameText.toList, (codeSpan property.type).toList,
      (substitute '\n' "<br/>" property.description).toList] := by
  have hrow : property.tableRow = "| " ++ escapeCell property.nameText ++ " | `" ++
      escapeCell property.type ++ "` | " ++
        substitute '\n' "<br/>" (escapeCell property.description) ++ " |" := rfl
  -- The fixed parts of the row, as the characters they are.
  have hbegin : "| ".toList = ['|', ' '] := String.toList_ofList
  have hname : " | `".toList = [' ', '|', ' ', '`'] := String.toList_ofList
  have htypeEnd : "` | ".toList = ['`', ' ', '|', ' '] := String.toList_ofList
  have hend : " |".toList = [' ', '|'] := String.toList_ofList
  have htype : escapePipes (codeSpan property.type).toList =
      '`' :: escapePipes property.type.toList ++ ['`'] := by
    rw [codeSpan, String.toList_append, String.toList_append, escapePipes_append,
      escapePipes_append]
    rfl
  simp only [hrow, rowOf, String.toList_append, toList_escapeCell, htype, hbegin, hname, htypeEnd,
    hend, substitute_escapeCell property.description, List.flatMap_cons, List.flatMap_nil,
    List.append_assoc, List.cons_append, List.nil_append, List.append_nil]

theorem newline_mem_codeSpan {text : String} :
    '\n' ∈ (codeSpan text).toList ↔ '\n' ∈ text.toList := by
  have hquote : "`".toList = ['`'] := String.toList_ofList
  simp [codeSpan, hquote]

theorem newline_mem_nameText {property : Property} :
    '\n' ∈ property.nameText.toList ↔
      (∃ text ∈ property.decorators, '\n' ∈ text.toList) ∨ '\n' ∈ property.name.toList := by
  simp [nameText, newline_mem_codeSpan, String.toList_join, toList_lineBreak]

theorem newline_notMem_substitute (text : String) :
    '\n' ∉ (substitute '\n' "<br/>" text).toList := by
  rw [toList_substitute, toList_lineBreak, List.mem_flatMap]
  rintro ⟨c, -, hc⟩
  split at hc
  · exact absurd hc (by decide)
  · rename_i hne
    exact hne (List.mem_singleton.1 hc).symm

/-- A property is a row of three cells.  The row has four bare pipes whatever the texts are, and its
cells show the decorators and the name, the type, and the description, in which line feeds are
replaced.  The row is a single line unless there is a line feed in a decorator, the name or the
type. -/
theorem tableRow_cells (property : Property) :
    barePipes none property.tableRow.toList = 4 ∧
      tableCells property.tableRow =
        ["", " " ++ property.nameText ++ " ", " " ++ codeSpan property.type ++ " ",
          " " ++ substitute '\n' "<br/>" property.description ++ " ", ""] ∧
      ('\n' ∈ property.tableRow.toList ↔
        (∃ text ∈ property.decorators, '\n' ∈ text.toList) ∨ '\n' ∈ property.name.toList ∨
          '\n' ∈ property.type.toList) := by
  have hpadded : ∀ text : String,
      String.ofList (' ' :: text.toList ++ [' ']) = " " ++ text ++ " " := by
    intro text
    rw [← String.toList_inj, String.toList_ofList, String.toList_append, String.toList_append]
    rfl
  have hcells : tableCells property.tableRow =
      ["", " " ++ property.nameText ++ " ", " " ++ codeSpan property.type ++ " ",
        " " ++ substitute '\n' "<br/>" property.description ++ " ", ""] := by
    rw [tableCells, toList_tableRow, cells_rowOf]
    simp only [List.map_cons, List.map_nil, List.map_append, hpadded]
    rfl
  refine ⟨?_, hcells, ?_⟩
  · have hlength := congrArg List.length hcells
    rw [tableCells, List.length_map, List.length_map, length_cells] at hlength
    exact Nat.succ.inj hlength
  · rw [toList_tableRow, mem_rowOf_of_ne (by decide) (by decide) (by decide)]
    simp only [List.mem_cons, List.not_mem_nil, or_false, exists_eq_or_imp, exists_eq_left,
      newline_mem_nameText, newline_mem_codeSpan, newline_notMem_substitute, or_assoc]

/-- A type that is written over several lines puts its line feeds into the row. -/
theorem tableRow_multilineType :
    let text := "class A \x7b\n  size: \x7b\n    width: number\n  \x7d\n\x7d"
    let property : Property := ⟨"size", "\x7b\n    width: number\n  \x7d", [], "", none⟩
    ((SourceFile.parse "a.ts" text).value.map fun file =>
        file.classes.flatMap fun decl => (Api.ofMembers decl.members).properties).toOption =
      some [property] ∧
      '\n' ∈ property.tableRow.toList := by
  decide +kernel

end Property

end ComponentDocs
