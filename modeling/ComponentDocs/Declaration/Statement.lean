import ComponentDocs.Declaration.Group

/-!
# Statements

A top-level statement that is not a class declaration is skipped.  It ends after a semicolon,
after a braced group at the end of a line, or before a line that starts with a decorator or with a
word that begins a declaration.
-/

namespace ComponentDocs

/-- Words that begin a new statement at the start of a line. -/
def Declaration.statementWords : List String :=
  ["export", "import", "class", "abstract", "declare"]

/-- A terminal at the start of a line that begins a new statement. -/
def Terminal.beginsStatement (t : Terminal) : Bool :=
  t.newlineBefore &&
    (t.kind == .atSign || (t.kind == .word && Declaration.statementWords.contains t.text))

namespace Declaration

/-- Nothing more stands on the line. -/
def atLineEnd : List Terminal → Bool
  | [] => true
  | t :: _ => t.newlineBefore

/-- Skips the rest of a statement; `started` tells whether some terminal of it has been passed. -/
def skipStatement (started : Bool) (ts : List Terminal) : Except Fault (List Terminal) :=
  match ts with
  | [] => .ok []
  | t :: rest =>
    if started && t.beginsStatement then .ok (t :: rest)
    else if t.kind = .semicolon then .ok rest
    else if t.kind.isClosing then .error (.atTerminal t (.unexpected t.text))
    else
      match _h : skipItem t rest with
      | .error fault => .error fault
      | .ok after =>
        if t.kind = .opening .brace ∧ atLineEnd after then .ok after
        else skipStatement true after
termination_by ts.length
decreasing_by exact skipItem_length_lt _h

theorem skipStatement_suffix {started : Bool} {ts after : List Terminal}
    (h : skipStatement started ts = .ok after) : after <:+ ts := by
  fun_induction skipStatement started ts with
  | case1 => cases h; exact List.suffix_rfl
  | case2 => cases h; exact List.suffix_rfl
  | case3 _ t => cases h; exact List.suffix_cons t _
  | case4 => cases h
  | case5 => cases h
  | case6 _ t rest _ _ _ next hitem _ =>
    cases h
    exact (skipItem_suffix hitem).trans (List.suffix_cons t rest)
  | case7 _ t rest _ _ _ next hitem _ ih =>
    exact ((ih h).trans (skipItem_suffix hitem)).trans (List.suffix_cons t rest)

/-- A statement has at least one terminal. -/
theorem skipStatement_suffix_tail {t : Terminal} {rest after : List Terminal}
    (h : skipStatement false (t :: rest) = .ok after) : after <:+ rest := by
  unfold skipStatement at h
  simp only [Bool.false_and, Bool.false_eq_true, if_false] at h
  split at h
  · cases h
    exact List.suffix_rfl
  · split at h
    · cases h
    · split at h
      · cases h
      · rename_i next hitem
        split at h
        · cases h
          exact skipItem_suffix hitem
        · exact (skipStatement_suffix h).trans (skipItem_suffix hitem)

end Declaration

end ComponentDocs
