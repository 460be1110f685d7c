import ComponentDocs.Declaration.Terminal

/-!
# Bracket groups

Statement bodies, parameter lists and initializers are not read but skipped as bracket groups.  A
group runs from an opening bracket to the closing bracket that fits it, and the brackets inside it
have to be properly nested.  A list in angle brackets is skipped in the same way, except that
angle brackets do not count inside other brackets and that a semicolon or a closing bracket ends
it too early.

Every function takes the place after the opening bracket and yields the place after the closing
one.
-/

namespace ComponentDocs.Declaration

/-- The place where all of the `awaited` brackets, innermost first, are closed. -/
def closeBrackets (opener : Terminal) :
    List Bracket → List Terminal → Except Fault (List Terminal)
  | [], ts => .ok ts
  | _ :: _, [] => .error (.atTerminal opener (.unclosed opener.text))
  | awaited :: outer, t :: rest =>
    match t.kind with
    | .opening bracket => closeBrackets opener (bracket :: awaited :: outer) rest
    | .closing bracket =>
      if bracket = awaited then closeBrackets opener outer rest
      else .error (.atTerminal t (.mismatched t.text))
    | _ => closeBrackets opener (awaited :: outer) rest

theorem closeBrackets_suffix {opener : Terminal} {awaited : List Bracket}
    {ts after : List Terminal} (h : closeBrackets opener awaited ts = .ok after) :
    after <:+ ts := by
  fun_induction closeBrackets opener awaited ts with
  | case1 ts => cases h; exact List.suffix_rfl
  | case2 => cases h
  | case3 awaited outer t rest bracket _ ih => exact (ih h).trans (List.suffix_cons t rest)
  | case4 outer t rest bracket _ ih => exact (ih h).trans (List.suffix_cons t rest)
  | case5 => cases h
  | case6 awaited outer t rest _ _ ih => exact (ih h).trans (List.suffix_cons t rest)

/-- Skips the rest of the group that `opener` opened with `bracket`. -/
def skipGroup (opener : Terminal) (bracket : Bracket) (ts : List Terminal) :
    Except Fault (List Terminal) :=
  closeBrackets opener [bracket] ts

theorem skipGroup_suffix {opener : Terminal} {bracket : Bracket} {ts after : List Terminal}
    (h : skipGroup opener bracket ts = .ok after) : after <:+ ts :=
  closeBrackets_suffix h

/-- The place after one item: a bracket group, or a terminal that opens none. -/
def skipItem (t : Terminal) (rest : List Terminal) : Except Fault (List Terminal) :=
  match t.kind with
  | .opening bracket => skipGroup t bracket rest
  | _ => .ok rest

theorem skipItem_suffix {t : Terminal} {rest after : List Terminal}
    (h : skipItem t rest = .ok after) : after <:+ rest := by
  unfold skipItem at h
  split at h
  · exact skipGroup_suffix h
  · cases h
    exact List.suffix_rfl

theorem skipItem_length_lt {t : Terminal} {rest after : List Terminal}
    (h : skipItem t rest = .ok after) : after.length < (t :: rest).length :=
  Nat.lt_succ_of_le (skipItem_suffix h).length_le

/-- The place where `depth` angle brackets are closed. -/
def closeAngles (opener : Terminal) (depth : Nat) (ts : List Terminal) :
    Except Fault (List Terminal) :=
  match depth, ts with
  | 0, ts => .ok ts
  | _ + 1, [] => .error (.atTerminal opener (.unclosed opener.text))
  | depth + 1, t :: rest =>
    if t.kind = .less then closeAngles opener (depth + 2) rest
    else if t.kind = .greater then closeAngles opener depth rest
    else if t.kind.isClosing ∨ t.kind = .semicolon then
      .error (.atTerminal opener (.unclosed opener.text))
    else
      match _h : skipItem t rest with
      | .error fault => .error fault
      | .ok after => closeAngles opener (depth + 1) after
termination_by ts.length
decreasing_by
  · simp
  · simp
  · exact skipItem_length_lt _h

theorem closeAngles_suffix {opener : Terminal} {depth : Nat} {ts after : List Terminal}
    (h : closeAngles opener depth ts = .ok after) : after <:+ ts := by
  fun_induction closeAngles opener depth ts with
  | case1 => cases h; exact List.suffix_rfl
  | case2 => cases h
  | case3 depth t rest _ ih => exact (ih h).trans (List.suffix_cons t rest)
  | case4 depth t rest _ _ ih => exact (ih h).trans (List.suffix_cons t rest)
  | case5 => cases h
  | case6 => cases h
  | case7 depth t rest _ _ _ next hitem ih =>
    exact ((ih h).trans (skipItem_suffix hitem)).trans (List.suffix_cons t rest)

/-- Skips the rest of the list that the angle bracket `opener` opened. -/
def skipAngles (opener : Terminal) (ts : List Terminal) : Except Fault (List Terminal) :=
  closeAngles opener 1 ts

theorem skipAngles_suffix {opener : Terminal} {ts after : List Terminal}
    (h : skipAngles opener ts = .ok after) : after <:+ ts :=
  closeAngles_suffix h

end ComponentDocs.Declaration
