import ComponentDocs.Declaration.Class
import ComponentDocs.Declaration.Statement
import ComponentDocs.Token.Scan

/-!
# Source files

A file is read as a sequence of top-level declarations.  Decorators may stand before or after the
words `export`, `default`, `declare` and `abstract`; what is not a class is skipped as a
statement.  Reading stops at the first fault.
-/

namespace ComponentDocs

namespace Declaration

open Terminal

/-- Skips the words that may stand before `class`. -/
def skipExportWords : List Terminal → List Terminal
  | [] => []
  | t :: rest =>
    if t.isWord "export" || t.isWord "default" then skipExportWords rest
    else if (t.isWord "declare" || t.isWord "abstract") && startsWith .word rest then
      skipExportWords rest
    else t :: rest

theorem skipExportWords_suffix (ts : List Terminal) : skipExportWords ts <:+ ts := by
  fun_induction skipExportWords ts with
  | case1 => exact List.suffix_rfl
  | case2 t rest _ ih => exact ih.trans (List.suffix_cons t rest)
  | case3 t rest _ _ ih => exact ih.trans (List.suffix_cons t rest)
  | case4 => exact List.suffix_rfl

/-- The decorators and words before a declaration, and the place after them. -/
def parsePreamble (ts : List Terminal) : Except Fault (List Decorator × List Terminal) := do
  let (before, afterBefore) ← parseDecorators ts
  let (behind, after) ← parseDecorators (skipExportWords afterBefore)
  return (before ++ behind, after)

theorem parsePreamble_suffix {ts after : List Terminal} {decorators : List Decorator}
    (h : parsePreamble ts = .ok (decorators, after)) : after <:+ ts := by
  obtain ⟨⟨before, afterBefore⟩, hbefore, h⟩ := bind_eq_ok_iff.1 h
  obtain ⟨⟨behind, final⟩, hbehind, h⟩ := bind_eq_ok_iff.1 h
  cases h
  exact ((parseDecorators_suffix hbehind).trans (skipExportWords_suffix afterBefore)).trans
    (parseDecorators_suffix hbefore)

/-- A class after its preamble, or a statement that is skipped. -/
def parseClassOrStatement (start : Terminal) (decorators : List Decorator) (ts : List Terminal) :
    Logged Remark (Except Fault (Option ClassDecl × List Terminal)) :=
  match ts with
  | [] => ⟨[], .ok (none, [])⟩
  | t :: rest =>
    if t.isWord "class" then parseClass start.line start.doc decorators rest
    else ⟨[], (skipStatement false (t :: rest)).map fun after => (none, after)⟩

/-- The declaration that starts with `start`; a statement declares no class. -/
def parseDeclaration (start : Terminal) (rest : List Terminal) :
    Logged Remark (Except Fault (Option ClassDecl × List Terminal)) :=
  match parsePreamble (start :: rest) with
  | .error fault => ⟨[], .error fault⟩
  | .ok (decorators, after) => parseClassOrStatement start decorators after

/-- A class or statement takes up the rest of its declaration, which is not empty. -/
theorem parseClassOrStatement_suffix {start : Terminal} {decorators : List Decorator}
    {ts after : List Terminal} {decl : Option ClassDecl}
    (h : (parseClassOrStatement start decorators ts).value = .ok (decl, after)) :
    after <:+ ts.tail := by
  unfold parseClassOrStatement at h
  split at h
  · cases h; exact List.suffix_rfl
  · rename_i t rest
    split at h
    · exact parseClass_suffix h
    · cases hstatement : skipStatement false (t :: rest) with
      | error fault => simp [hstatement, Except.map] at h
      | ok final =>
        rw [hstatement] at h
        cases h
        exact skipStatement_suffix_tail hstatement

theorem parseDeclaration_length_lt {start : Terminal} {rest after : List Terminal}
    {decl : Option ClassDecl} (h : (parseDeclaration start rest).value = .ok (decl, after)) :
    after.length < (start :: rest).length := by
  unfold parseDeclaration at h
  split at h
  · cases h
  · rename_i decorators afterPreamble hpreamble
    have hle := (parsePreamble_suffix hpreamble).length_le
    have htail := (parseClassOrStatement_suffix h).length_le
    simp only [List.length_tail, List.length_cons] at hle htail ⊢
    omega

/-- The classes declared from here to the end of the file. -/
def parseDeclarations (ts : List Terminal) : Logged Remark (Except Fault (List ClassDecl)) :=
  match ts with
  | [] => ⟨[], .ok []⟩
  | start :: rest =>
    match _h : parseDeclaration start rest with
    | ⟨remarks, .error fault⟩ => ⟨remarks, .error fault⟩
    | ⟨remarks, .ok (decl, after)⟩ =>
      let others := parseDeclarations after
      ⟨remarks ++ others.events, others.value.map (decl.toList ++ ·)⟩
termination_by ts.length
decreasing_by exact parseDeclaration_length_lt (congrArg Logged.value _h)

end Declaration

namespace SourceFile

/-- The last line of a text. -/
def lastLine (text : String) : Nat :=
  Text.countNewlines text.toList + 1

/-- The declarations of a source text, with remarks; a fault names the file and its line. -/
def parse (name text : String) : Logged Remark (Except SyntaxError SourceFile) :=
  let declarations := Declaration.parseDeclarations (Terminal.ofTokens (Token.scan text))
  ⟨declarations.events,
    match declarations.value with
    | .ok classes => .ok ⟨name, classes⟩
    | .error fault => .error ⟨name, fault.line.getD (lastLine text), fault.cause⟩⟩

/-- The files with these names and texts, or the fault of the first one that cannot be parsed. -/
def parseAll : List (String × String) → Except SyntaxError (List SourceFile)
  | [] => .ok []
  | (name, text) :: rest => do
    let file ← (parse name text).value
    return file :: (← parseAll rest)

end SourceFile

end ComponentDocs
