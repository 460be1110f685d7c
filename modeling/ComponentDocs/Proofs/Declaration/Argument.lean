import ComponentDocs.Declaration.Argument

/-!
# Readers of arguments without their evidence

The readers of expressions return a place together with the fact that it follows the place where
they started.  Here each of them is seen as a plain parser, which returns a value and a place.  The
equations below say what these parsers do, one for each reader, and are all that other proofs use.
-/

namespace ComponentDocs.Declaration

open Terminal

/-- What a reader found and the place after it. -/
def outcome {ts : List Terminal} {α : Type} (read : Except Fault (Parsed ts α)) :
    Except Fault (α × List Terminal) :=
  read.map fun parsed => (parsed.value, parsed.rest)

def parseExpr (ts : List Terminal) : Except Fault (Expr × List Terminal) :=
  outcome (readExpr ts)

def parseItem (bracket : Bracket) (ts : List Terminal) :
    Except Fault (Option Expr × List Terminal) :=
  outcome (readItem bracket ts)

def parseItems (bracket : Bracket) (opener : Terminal) (ts : List Terminal) :
    Except Fault (List Expr × List Terminal) :=
  outcome (readItems bracket opener ts)

def parseEntry (ts : List Terminal) : Except Fault (Option (String × Expr) × List Terminal) :=
  outcome (readEntry ts)

def parseEntries (opener : Terminal) (ts : List Terminal) :
    Except Fault (List (String × Expr) × List Terminal) :=
  outcome (readEntries opener ts)

theorem outcome_suffix {ts after : List Terminal} {α : Type} {read : Except Fault (Parsed ts α)}
    {value : α} (h : outcome read = .ok (value, after)) : after <:+ ts := by
  cases read with
  | error fault => cases h
  | ok parsed =>
    cases h
    exact parsed.suffix

/-! ## Ends of expressions -/

/-- The expression from `ts` on, kept as its text, when it has been read up to `after`. -/
def parseOther (ts after : List Terminal) : Except Fault (Expr × List Terminal) := do
  let rest ← skipExpression after
  return (.other (capture ts rest), rest)

/-- The expression `expr`, read from `ts` to `after`, or its text if it goes on there. -/
def parseRest (ts : List Terminal) (expr : Expr) (after : List Terminal) :
    Except Fault (Expr × List Terminal) :=
  if atItemEnd after then .ok (expr, after) else parseOther ts after

/-- What follows an item of a list in these brackets: a comma and the other items, or the end of the
list. -/
def parseMore {α : Type} (bracket : Bracket)
    (others : List Terminal → Except Fault (List α × List Terminal)) (item : Option α) :
    List Terminal → Except Fault (List α × List Terminal)
  | [] => .error (.atPlace [] (.separator bracket))
  | u :: more =>
    if u.kind = .comma then others more >>= fun (items, final) => .ok (item.toList ++ items, final)
    else if u.kind = .closing bracket then .ok (item.toList, more)
    else .error (.atTerminal u (.separator bracket))

theorem outcome_dropItem {α : Type} (ts after : List Terminal) (hafter : after <:+ ts) :
    outcome (dropItem α ts after hafter) =
      (skipExpression after).map fun rest => (none, rest) := by
  unfold dropItem
  split
  · rename_i hskip
    simp only [hskip]
    rfl
  · rename_i hskip
    simp only [hskip]
    rfl

theorem outcome_otherExpr (ts after : List Terminal) (hafter : after <:+ ts) :
    outcome (otherExpr ts after hafter) = parseOther ts after := by
  unfold otherExpr parseOther
  split
  · rename_i hskip
    simp only [hskip]
    rfl
  · rename_i hskip
    simp only [hskip]
    rfl

theorem outcome_exprIfEnded (ts : List Terminal) (expr : Expr) (after : List Terminal)
    (hafter : after <:+ ts) :
    outcome (exprIfEnded ts expr after hafter) = parseRest ts expr after := by
  unfold exprIfEnded parseRest
  split
  · rfl
  · exact outcome_otherExpr ts after hafter

/-! ## Equations -/

theorem parseExpr_nil : parseExpr [] = .ok (.other "", []) := by
  rw [parseExpr, readExpr]
  rfl

theorem parseExpr_cons (t : Terminal) (rest : List Terminal) :
    parseExpr (t :: rest) =
      match t.kind with
      | .opening .brace => do
        let (entries, after) ← parseEntries t rest
        parseRest (t :: rest) (.object entries) after
      | .opening .square => do
        let (items, after) ← parseItems .square t rest
        parseRest (t :: rest) (.array items) after
      | .string => parseRest (t :: rest) (.string (unquote t.text)) rest
      | .template =>
        if hasSubstitution t.text.toList then parseOther (t :: rest) (t :: rest)
        else parseRest (t :: rest) (.string (unquote t.text)) rest
      | .word => parseRest (t :: rest) (.name t.text) rest
      | _ => parseOther (t :: rest) (t :: rest) := by
  rw [parseExpr, readExpr]
  generalize t.kind = kind
  cases kind with
  | opening bracket =>
    cases bracket with
    | brace =>
      rw [parseEntries]
      cases readEntries t rest with
      | error fault => rfl
      | ok entries => exact outcome_exprIfEnded _ _ _ _
    | square =>
      rw [parseItems]
      cases readItems .square t rest with
      | error fault => rfl
      | ok items => exact outcome_exprIfEnded _ _ _ _
    | paren => exact outcome_otherExpr _ _ _
  | string => exact outcome_exprIfEnded _ _ _ _
  | template =>
    dsimp only
    split
    · exact outcome_otherExpr _ _ _
    · exact outcome_exprIfEnded _ _ _ _
  | word => exact outcome_exprIfEnded _ _ _ _
  | _ => exact outcome_otherExpr _ _ _

theorem parseItem_eq (bracket : Bracket) (ts : List Terminal) :
    parseItem bracket ts =
      if bracket = .square ∧ startsWith .ellipsis ts then
        (skipExpression ts).map fun rest => (none, rest)
      else (parseExpr ts).map fun (expr, rest) => (some expr, rest) := by
  rw [parseItem, readItem]
  split
  · exact outcome_dropItem ts ts _
  · rw [parseExpr]
    cases readExpr ts <;> rfl

theorem parseItems_nil (bracket : Bracket) (opener : Terminal) :
    parseItems bracket opener [] = .error (.atTerminal opener (.unclosed opener.text)) := by
  rw [parseItems, readItems]
  rfl

theorem parseItems_cons (bracket : Bracket) (opener t : Terminal) (rest : List Terminal) :
    parseItems bracket opener (t :: rest) =
      if t.kind = .closing bracket then .ok ([], rest)
      else parseItem bracket (t :: rest) >>= fun (item, after) =>
        parseMore bracket (parseItems bracket opener) item after := by
  rw [parseItems, readItems]
  split
  · rfl
  · rw [parseItem]
    cases readItem bracket (t :: rest) with
    | error fault => rfl
    | ok parsed =>
      obtain ⟨item, after, hsuffix⟩ := parsed
      cases after with
      | nil => rfl
      | cons u more =>
        simp only [outcome, Except.map, bind, Except.bind, parseMore]
        by_cases hcomma : u.kind = .comma
        · simp only [if_pos hcomma, parseItems]
          cases readItems bracket opener more <;> rfl
        · by_cases hclosing : u.kind = .closing bracket
          · simp only [if_neg hcomma, if_pos hclosing]
          · simp only [if_neg hcomma, if_neg hclosing]

theorem parseEntry_nil : parseEntry [] = .ok (none, []) := by
  rw [parseEntry, readEntry]
  rfl

theorem parseEntry_cons (t : Terminal) (rest : List Terminal) :
    parseEntry (t :: rest) =
      match entryKey? t with
      | none => (skipExpression (t :: rest)).map fun after => (none, after)
      | some key =>
        match rest with
        | [] => .ok (none, [])
        | u :: more =>
          if u.kind = .colon then
            (parseExpr more).map fun (expr, after) => (some (key, expr), after)
          else if u.kind = .comma ∨ u.kind = .closing .brace then
            .ok (some (key, .name key), u :: more)
          else (skipExpression (u :: more)).map fun after => (none, after) := by
  rw [parseEntry, readEntry]
  cases hkey : entryKey? t with
  | none => exact outcome_dropItem _ _ _
  | some key =>
    cases rest with
    | nil => rfl
    | cons u more =>
      simp only
      split
      · rw [parseExpr]
        cases readExpr more <;> rfl
      · split
        · rfl
        · exact outcome_dropItem _ _ _

theorem parseEntries_nil (opener : Terminal) :
    parseEntries opener [] = .error (.atTerminal opener (.unclosed opener.text)) := by
  rw [parseEntries, readEntries]
  rfl

theorem parseEntries_cons (opener t : Terminal) (rest : List Terminal) :
    parseEntries opener (t :: rest) =
      if t.kind = .closing .brace then .ok ([], rest)
      else parseEntry (t :: rest) >>= fun (entry, after) =>
        parseMore .brace (parseEntries opener) entry after := by
  rw [parseEntries, readEntries]
  split
  · rfl
  · rw [parseEntry]
    cases readEntry (t :: rest) with
    | error fault => rfl
    | ok parsed =>
      obtain ⟨entry, after, hsuffix⟩ := parsed
      cases after with
      | nil => rfl
      | cons u more =>
        simp only [outcome, Except.map, bind, Except.bind, parseMore]
        by_cases hcomma : u.kind = .comma
        · simp only [if_pos hcomma, parseEntries]
          cases readEntries opener more <;> rfl
        · by_cases hclosing : u.kind = .closing .brace
          · simp only [if_neg hcomma, if_pos hclosing]
          · simp only [if_neg hcomma, if_neg hclosing]

theorem parseArguments_eq (opener : Terminal) (ts : List Terminal) :
    parseArguments opener ts = parseItems .paren opener ts :=
  rfl

end ComponentDocs.Declaration
