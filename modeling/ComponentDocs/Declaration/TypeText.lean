import ComponentDocs.Declaration.Group

/-!
# Extent of types

Types are not read; only where they end matters.  A type is a chain of parts joined by `|`, `&`
and `=>`.  A part is a bracket group, a literal, a generic function signature or a dotted name
with optional type arguments, and may have index suffixes that start on its line.
-/

namespace ComponentDocs

/-- A terminal that joins two parts of a type. -/
def Terminal.isTypeJoin (t : Terminal) : Bool :=
  t.isOperator "|" || t.isOperator "&" || t.kind == .arrow

namespace Declaration

/-- Words that stand before a type and belong to it. -/
def typeOperators : List String :=
  ["keyof", "typeof", "readonly", "unique", "infer", "new", "asserts"]

/-- Skips `.name` as often as it occurs. -/
def skipQualifiers : List Terminal → Except Fault (List Terminal)
  | [] => .ok []
  | dot :: rest =>
    if dot.kind = .dot then
      match rest with
      | [] => .error (.expectedAt [] .typeName)
      | name :: after =>
        if name.kind = .word then skipQualifiers after
        else .error (.expectedAt (name :: after) .typeName)
    else .ok (dot :: rest)

theorem skipQualifiers_suffix {ts after : List Terminal} (h : skipQualifiers ts = .ok after) :
    after <:+ ts := by
  fun_induction skipQualifiers ts with
  | case1 => cases h; exact List.suffix_rfl
  | case2 => cases h
  | case3 dot _ name rest _ ih =>
    exact ((ih h).trans (List.suffix_cons name rest)).trans (List.suffix_cons dot _)
  | case4 => cases h
  | case5 => cases h; exact List.suffix_rfl

/-- Skips a list in angle brackets if one starts here. -/
def skipOptionalAngles : List Terminal → Except Fault (List Terminal)
  | [] => .ok []
  | t :: rest => if t.kind = .less then skipAngles t rest else .ok (t :: rest)

theorem skipOptionalAngles_suffix {ts after : List Terminal}
    (h : skipOptionalAngles ts = .ok after) : after <:+ ts := by
  fun_cases skipOptionalAngles ts with
  | case1 => cases h; exact List.suffix_rfl
  | case2 t rest hless =>
    rw [skipOptionalAngles, if_pos hless] at h
    exact (skipAngles_suffix h).trans (List.suffix_cons t rest)
  | case3 t rest hless =>
    rw [skipOptionalAngles, if_neg hless] at h
    cases h
    exact List.suffix_rfl

/-- Skips a group of this form if one starts here. -/
def skipOptionalGroup (bracket : Bracket) : List Terminal → Except Fault (List Terminal)
  | [] => .ok []
  | t :: rest => if t.kind = .opening bracket then skipGroup t bracket rest else .ok (t :: rest)

theorem skipOptionalGroup_suffix {bracket : Bracket} {ts after : List Terminal}
    (h : skipOptionalGroup bracket ts = .ok after) : after <:+ ts := by
  fun_cases skipOptionalGroup bracket ts with
  | case1 => cases h; exact List.suffix_rfl
  | case2 t rest hopen =>
    rw [skipOptionalGroup, if_pos hopen] at h
    exact (skipGroup_suffix h).trans (List.suffix_cons t rest)
  | case3 t rest hopen =>
    rw [skipOptionalGroup, if_neg hopen] at h
    cases h
    exact List.suffix_rfl

/-- Skips the qualifiers and type arguments after the first name of a type. -/
def skipTypeName (ts : List Terminal) : Except Fault (List Terminal) := do
  skipOptionalAngles (← skipQualifiers ts)

theorem skipTypeName_suffix {ts after : List Terminal} (h : skipTypeName ts = .ok after) :
    after <:+ ts := by
  unfold skipTypeName at h
  cases hnames : skipQualifiers ts with
  | error fault => rw [hnames] at h; cases h
  | ok middle =>
    rw [hnames] at h
    exact (skipOptionalAngles_suffix h).trans (skipQualifiers_suffix hnames)

/-- Skips one part of a type, without index suffixes. -/
def skipTypePart (ts : List Terminal) : Except Fault (List Terminal) :=
  match ts with
  | [] => .error (.atPlace [] (.typeExpected none))
  | t :: rest =>
    match t.kind with
    | .opening bracket => skipGroup t bracket rest
    | .less => do skipOptionalGroup .paren (← skipAngles t rest)
    | .word =>
      if typeOperators.contains t.text then skipTypePart rest
      else
        match _h : skipTypeName rest with
        | .error fault => .error fault
        | .ok [] => .ok []
        | .ok (word :: after) =>
          if word.isWord "is" then skipTypePart after else .ok (word :: after)
    | .string | .number | .template => .ok rest
    | .operator =>
      if t.text = "-" then skipTypePart rest
      else .error (.atTerminal t (.typeExpected (some t.text)))
    | _ => .error (.atTerminal t (.typeExpected (some t.text)))
termination_by ts.length
decreasing_by
  · simp
  · have hle := (skipTypeName_suffix _h).length_le
    simp only [List.length_cons] at hle ⊢
    omega
  · simp

theorem skipTypePart_suffix {ts after : List Terminal} (h : skipTypePart ts = .ok after) :
    after <:+ ts := by
  fun_induction skipTypePart ts with
  | case1 => cases h
  | case2 t rest => exact (skipGroup_suffix h).trans (List.suffix_cons t rest)
  | case3 t rest =>
    cases hangles : skipAngles t rest with
    | error fault => rw [hangles] at h; cases h
    | ok middle =>
      rw [hangles] at h
      exact ((skipOptionalGroup_suffix h).trans (skipAngles_suffix hangles)).trans
        (List.suffix_cons t rest)
  | case4 t rest _ _ ih => exact (ih h).trans (List.suffix_cons t rest)
  | case5 => cases h
  | case6 => cases h; exact List.nil_suffix
  | case7 t rest _ _ word middle hname _ ih =>
    exact (((ih h).trans (List.suffix_cons word middle)).trans (skipTypeName_suffix hname)).trans
      (List.suffix_cons t rest)
  | case8 t rest _ _ word middle hname =>
    cases h
    exact (skipTypeName_suffix hname).trans (List.suffix_cons t rest)
  | case9 t => cases h; exact List.suffix_cons t _
  | case10 t => cases h; exact List.suffix_cons t _
  | case11 t => cases h; exact List.suffix_cons t _
  | case12 t rest _ _ ih => exact (ih h).trans (List.suffix_cons t rest)
  | case13 => cases h
  | case14 => cases h

/-- Skips the index suffixes that start on the line of the type. -/
def skipIndexes (ts : List Terminal) : Except Fault (List Terminal) :=
  match ts with
  | [] => .ok []
  | t :: rest =>
    if t.kind = .opening .square ∧ t.newlineBefore = false then
      match _h : skipGroup t .square rest with
      | .error fault => .error fault
      | .ok after => skipIndexes after
    else .ok (t :: rest)
termination_by ts.length
decreasing_by exact Nat.lt_succ_of_le (skipGroup_suffix _h).length_le

theorem skipIndexes_suffix {ts after : List Terminal} (h : skipIndexes ts = .ok after) :
    after <:+ ts := by
  fun_induction skipIndexes ts with
  | case1 => cases h; exact List.suffix_rfl
  | case2 => cases h
  | case3 t rest _ next hgroup ih =>
    exact ((ih h).trans (skipGroup_suffix hgroup)).trans (List.suffix_cons t rest)
  | case4 => cases h; exact List.suffix_rfl

/-- Skips parts of a type and what joins them. -/
def skipTypeParts (ts : List Terminal) : Except Fault (List Terminal) :=
  match _hpart : skipTypePart ts with
  | .error fault => .error fault
  | .ok part =>
    match _hindexes : skipIndexes part with
    | .error fault => .error fault
    | .ok [] => .ok []
    | .ok (t :: rest) => if t.isTypeJoin then skipTypeParts rest else .ok (t :: rest)
termination_by ts.length
decreasing_by
  have hpart := (skipTypePart_suffix _hpart).length_le
  have hindexes := (skipIndexes_suffix _hindexes).length_le
  simp only [List.length_cons] at hindexes
  omega

theorem skipTypeParts_suffix {ts after : List Terminal} (h : skipTypeParts ts = .ok after) :
    after <:+ ts := by
  fun_induction skipTypeParts ts with
  | case1 => cases h
  | case2 => cases h
  | case3 => cases h; exact List.nil_suffix
  | case4 ts part hpart t rest hindexes _ ih =>
    exact (((ih h).trans (List.suffix_cons t rest)).trans (skipIndexes_suffix hindexes)).trans
      (skipTypePart_suffix hpart)
  | case5 ts part hpart t rest hindexes =>
    cases h
    exact (skipIndexes_suffix hindexes).trans (skipTypePart_suffix hpart)

/-- Skips a type, which may begin with `|` or `&`. -/
def skipType (ts : List Terminal) : Except Fault (List Terminal) :=
  match ts with
  | [] => skipTypeParts []
  | t :: rest =>
    if t.isOperator "|" || t.isOperator "&" then skipTypeParts rest else skipTypeParts (t :: rest)

theorem skipType_suffix {ts after : List Terminal} (h : skipType ts = .ok after) :
    after <:+ ts := by
  unfold skipType at h
  split at h
  · exact skipTypeParts_suffix h
  · rename_i t rest
    split at h
    · exact (skipTypeParts_suffix h).trans (List.suffix_cons t rest)
    · exact skipTypeParts_suffix h

end Declaration

end ComponentDocs
