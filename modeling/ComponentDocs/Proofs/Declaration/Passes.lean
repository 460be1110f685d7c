import ComponentDocs.Proofs.Declaration.Argument
import ComponentDocs.Proofs.Declaration.Loop

/-!
# The passes of the loops

Each loop of the reader below the level of classes as a `Loop`: what it remembers, its pass and the
function that reads.  The lemma behind each of them says that the loop makes progress.

Most passes that go on take up the terminal they start at.  Some could do without.  An item of a
list may be empty, but then the list goes on with the comma behind it or has a fault: it cannot go
on with the closing bracket, because a list that ends where an item would start has ended there.
A part of a type is never empty, since it fails where no type starts.  A statement does not end
before its first terminal, whatever line that stands on.
-/

namespace ComponentDocs

theorem map_bind_eq {ε α β γ : Type} (x : Except ε α) (f : α → β) (g : β → Except ε γ) :
    (x.map f >>= g) = x >>= fun a => g (f a) := by
  cases x <;> rfl

theorem map_id_eq {ε α : Type} (x : Except ε α) : x.map id = x := by
  cases x <;> rfl

namespace Declaration

open Terminal

/-- A loop makes progress if its pass does and the reader repeats it. -/
theorem Loop.Progresses.intro {μ ρ : Type} {pass : μ → List Terminal → Except Fault (Pass μ ρ)}
    {read : μ → List Terminal → Except Fault ρ}
    (past : ∀ memory ts next after finish, pass memory ts = .ok (.next next after finish) →
      Past ts after)
    (repeats : ∀ memory ts, read memory ts = pass memory ts >>= Pass.resume read) :
    Loop.Progresses ⟨μ, ρ, pass, read⟩ :=
  ⟨past _ _ _ _ _, repeats⟩

section

variable {μ : Type}

/-- A pass that skips something behind its first terminal and goes on there. -/
theorem past_of_map_next {t : Terminal} {rest after : List Terminal} {memory next : μ}
    {skipped : Except Fault (List Terminal)} {finish : List Terminal → List Terminal}
    (hskipped : ∀ {place}, skipped = .ok place → place <:+ rest)
    (h : (skipped.map fun place => .next memory place id) =
      .ok (Pass.next next after finish)) :
    Past (t :: rest) after := by
  obtain ⟨place, hplace, hnext⟩ := map_eq_ok_iff.1 h
  cases hnext
  exact past_cons (hskipped hplace)

theorem resume_map_next (read : μ → List Terminal → Except Fault (List Terminal)) (memory : μ)
    (skipped : Except Fault (List Terminal)) :
    ((skipped.map fun place => .next memory place id) >>= Pass.resume read) =
      skipped >>= read memory := by
  rw [map_bind_eq]
  simp only [Pass.resume, map_id_eq]

end

/-! ## Brackets -/

def groupPass (opener : Terminal) :
    List Bracket → List Terminal → Except Fault (Pass (List Bracket) (List Terminal))
  | [], ts => .ok (.done ts)
  | _ :: _, [] => .error (.atTerminal opener (.unclosed opener.text))
  | awaited :: outer, t :: rest =>
    match t.kind with
    | .opening bracket => .ok (.next (bracket :: awaited :: outer) rest id)
    | .closing bracket =>
      if bracket = awaited then .ok (.next outer rest id)
      else .error (.atTerminal t (.mismatched t.text))
    | _ => .ok (.next (awaited :: outer) rest id)

/-- The loop over a bracket group remembers the brackets that have to be closed. -/
def groupLoop (opener : Terminal) : Loop :=
  ⟨_, _, groupPass opener, closeBrackets opener⟩

theorem progresses_groupLoop (opener : Terminal) : (groupLoop opener).Progresses := by
  refine .intro ?_ ?_
  · intro awaited ts next after finish h
    unfold groupPass at h
    split at h
    · cases h
    · cases h
    · split at h
      · cases h
        exact past_cons List.suffix_rfl
      · split at h
        · cases h
          exact past_cons List.suffix_rfl
        · cases h
      · cases h
        exact past_cons List.suffix_rfl
  · intro awaited ts
    unfold groupPass
    split
    · rw [closeBrackets]
      rfl
    · rw [closeBrackets]
      rfl
    · rename_i t rest
      rw [closeBrackets]
      generalize t.kind = kind
      cases kind with
      | closing bracket =>
        dsimp only
        split
        · exact (map_id_eq _).symm
        · rfl
      | _ => exact (map_id_eq _).symm

def anglesPass (opener : Terminal) :
    Nat → List Terminal → Except Fault (Pass Nat (List Terminal))
  | 0, ts => .ok (.done ts)
  | _ + 1, [] => .error (.atTerminal opener (.unclosed opener.text))
  | depth + 1, t :: rest =>
    if t.kind = .less then .ok (.next (depth + 2) rest id)
    else if t.kind = .greater then .ok (.next depth rest id)
    else if t.kind.isClosing ∨ t.kind = .semicolon then
      .error (.atTerminal opener (.unclosed opener.text))
    else (skipItem t rest).map fun after => .next (depth + 1) after id

/-- The loop over a list in angle brackets remembers how many of them are open. -/
def anglesLoop (opener : Terminal) : Loop :=
  ⟨_, _, anglesPass opener, closeAngles opener⟩

theorem progresses_anglesLoop (opener : Terminal) : (anglesLoop opener).Progresses := by
  refine .intro ?_ ?_
  · intro depth ts next after finish h
    unfold anglesPass at h
    split at h
    · cases h
    · cases h
    · split at h
      · cases h
        exact past_cons List.suffix_rfl
      · split at h
        · cases h
          exact past_cons List.suffix_rfl
        · split at h
          · cases h
          · exact past_of_map_next skipItem_suffix h
  · intro depth ts
    unfold anglesPass
    split
    · rw [closeAngles]
      rfl
    · rw [closeAngles]
      rfl
    · rw [closeAngles_cons]
      split
      · exact (map_id_eq _).symm
      · split
        · exact (map_id_eq _).symm
        · split
          · rfl
          · rw [resume_map_next]

/-! ## Lists of expressions -/

/-- A pass over one item of a list in these brackets, or over their end. -/
def listPass {α : Type} (bracket : Bracket)
    (parse : List Terminal → Except Fault (Option α × List Terminal)) (opener : Terminal) :
    Unit → List Terminal → Except Fault (Pass Unit (List α × List Terminal))
  | (), [] => .error (.atTerminal opener (.unclosed opener.text))
  | (), t :: rest =>
    if t.kind = .closing bracket then .ok (.done ([], rest))
    else
      parse (t :: rest) >>= fun (item, after) =>
        match after with
        | [] => .error (.atPlace [] (.separator bracket))
        | u :: more =>
          if u.kind = .comma then
            .ok (.next () more fun (items, final) => (item.toList ++ items, final))
          else if u.kind = .closing bracket then
            .ok (.next () (u :: more) fun (items, final) => (item.toList ++ items, final))
          else .error (.atTerminal u (.separator bracket))

section

variable {α : Type} {bracket : Bracket} {opener : Terminal}
  {parse : List Terminal → Except Fault (Option α × List Terminal)}

/-- A list goes on behind a comma, or behind an item that is not empty. -/
theorem past_of_listPass
    (hparse : ∀ ts item after, parse ts = .ok (item, after) → after <:+ ts)
    {memory next : Unit} {ts after : List Terminal}
    {finish : List α × List Terminal → List α × List Terminal}
    (h : listPass bracket parse opener memory ts = .ok (.next next after finish)) :
    Past ts after := by
  cases ts with
  | nil => cases h
  | cons t rest =>
    rw [listPass] at h
    by_cases hclosing : t.kind = .closing bracket
    · rw [if_pos hclosing] at h
      cases h
    · rw [if_neg hclosing] at h
      obtain ⟨⟨item, place⟩, hitem, h⟩ := bind_eq_ok_iff.1 h
      have hsuffix : place <:+ t :: rest := hparse _ _ _ hitem
      cases place with
      | nil => cases h
      | cons u more =>
        dsimp only at h
        split at h
        · cases h
          exact past_of_cons_suffix hsuffix
        · split at h
          · rename_i hend
            cases h
            -- The closing bracket is not the terminal at which the item started.
            rcases List.suffix_cons_iff.1 hsuffix with hsame | hsuffix
            · cases hsame
              exact absurd hend hclosing
            · exact past_cons hsuffix
          · cases h

/-- A reader of lists repeats the pass. -/
theorem eq_listPass {read : List Terminal → Except Fault (List α × List Terminal)}
    (hnil : read [] = .error (.atTerminal opener (.unclosed opener.text)))
    (hcons : ∀ t rest, read (t :: rest) =
      if t.kind = .closing bracket then .ok ([], rest)
      else parse (t :: rest) >>= fun (item, after) => parseMore bracket read item after)
    (memory : Unit) (ts : List Terminal) :
    read ts = listPass bracket parse opener memory ts >>= Pass.resume fun _ ts => read ts := by
  cases ts with
  | nil => exact hnil
  | cons t rest =>
    rw [hcons, listPass]
    split
    · rfl
    · cases parse (t :: rest) with
      | error fault => rfl
      | ok found =>
        obtain ⟨item, place⟩ := found
        rw [ok_bind, ok_bind]
        cases place with
        | nil => rfl
        | cons u more =>
          dsimp only [parseMore]
          split
          · rw [ok_bind, Pass.resume]
            cases read more <;> rfl
          · split
            · rename_i hend
              rw [ok_bind, Pass.resume, hcons, if_pos hend]
              simp [Except.map]
            · rfl

end

/-- The loop over the arguments of a call, or over the items of an array. -/
def itemsLoop (bracket : Bracket) (opener : Terminal) : Loop :=
  ⟨_, _, listPass bracket (parseItem bracket) opener, fun _ => parseItems bracket opener⟩

theorem progresses_itemsLoop (bracket : Bracket) (opener : Terminal) :
    (itemsLoop bracket opener).Progresses := by
  refine .intro ?_ ?_
  · intro memory ts next after finish h
    exact past_of_listPass (fun _ _ _ hitem => outcome_suffix hitem) h
  · exact eq_listPass (parseItems_nil bracket opener) (parseItems_cons bracket opener)

/-- The loop over the entries of an object. -/
def entriesLoop (opener : Terminal) : Loop :=
  ⟨_, _, listPass .brace parseEntry opener, fun _ => parseEntries opener⟩

theorem progresses_entriesLoop (opener : Terminal) : (entriesLoop opener).Progresses := by
  refine .intro ?_ ?_
  · intro memory ts next after finish h
    exact past_of_listPass (fun _ _ _ hentry => outcome_suffix hentry) h
  · exact eq_listPass (parseEntries_nil opener) (parseEntries_cons opener)

/-! ## Stretches without structure of their own -/

/-- A pass over one item of a stretch that ends before a terminal which `stops` it. -/
def stretchPass (stops : Terminal → Prop) [DecidablePred stops] :
    Unit → List Terminal → Except Fault (Pass Unit (List Terminal))
  | (), [] => .ok (.done [])
  | (), t :: rest =>
    if stops t then .ok (.done (t :: rest))
    else (skipItem t rest).map fun after => .next () after id

theorem progresses_stretch {stops : Terminal → Prop} [DecidablePred stops]
    {read : List Terminal → Except Fault (List Terminal)} (hnil : read [] = .ok [])
    (hcons : ∀ t rest, read (t :: rest) =
      if stops t then .ok (t :: rest) else skipItem t rest >>= read) :
    Loop.Progresses ⟨_, _, stretchPass stops, fun _ => read⟩ := by
  refine .intro ?_ ?_
  · intro memory ts next after finish h
    cases ts with
    | nil => cases h
    | cons t rest =>
      rw [stretchPass] at h
      split at h
      · cases h
      · exact past_of_map_next skipItem_suffix h
  · intro memory ts
    cases ts with
    | nil => exact hnil
    | cons t rest =>
      rw [hcons, stretchPass]
      split
      · rfl
      · rw [resume_map_next]

/-- The loop over the rest of an item of a list. -/
def expressionLoop : Loop :=
  ⟨_, _, stretchPass fun t => t.endsItem = true, fun _ => skipExpression⟩

theorem progresses_expressionLoop : expressionLoop.Progresses :=
  progresses_stretch (by rw [skipExpression]) skipExpression_cons

/-! ## Statements and decorators -/

def statementPass : Bool → List Terminal → Except Fault (Pass Bool (List Terminal))
  | _, [] => .ok (.done [])
  | started, t :: rest =>
    if started && t.beginsStatement then .ok (.done (t :: rest))
    else if t.kind = .semicolon then .ok (.done rest)
    else if t.kind.isClosing then .error (.atTerminal t (.unexpected t.text))
    else
      (skipItem t rest).map fun after =>
        if t.kind = .opening .brace ∧ atLineEnd after then .done after else .next true after id

/-- The loop over a statement remembers whether some terminal of it has been passed. -/
def statementLoop : Loop :=
  ⟨_, _, statementPass, skipStatement⟩

theorem progresses_statementLoop : statementLoop.Progresses := by
  refine .intro ?_ ?_
  · intro started ts next after finish h
    cases ts with
    | nil => cases h
    | cons t rest =>
      rw [statementPass] at h
      split at h
      · cases h
      · split at h
        · cases h
        · split at h
          · cases h
          · obtain ⟨place, hitem, hnext⟩ := map_eq_ok_iff.1 h
            split at hnext
            · cases hnext
            · cases hnext
              exact past_cons (skipItem_suffix hitem)
  · intro started ts
    cases ts with
    | nil =>
      rw [skipStatement]
      rfl
    | cons t rest =>
      rw [skipStatement_cons, statementPass]
      split
      · rfl
      · split
        · rfl
        · split
          · rfl
          · rw [map_bind_eq]
            refine congrArg _ (funext fun after => ?_)
            split
            · rfl
            · exact (map_id_eq _).symm

def decoratorsPass :
    Unit → List Terminal → Except Fault (Pass Unit (List Decorator × List Terminal))
  | (), [] => .ok (.done ([], []))
  | (), t :: rest =>
    if t.kind = .atSign then
      (parseDecorator t rest).map fun (decorator, after) =>
        .next () after fun (decorators, final) => (decorator :: decorators, final)
    else .ok (.done ([], t :: rest))

/-- The loop over decorators in a row. -/
def decoratorsLoop : Loop :=
  ⟨_, _, decoratorsPass, fun _ => parseDecorators⟩

theorem progresses_decoratorsLoop : decoratorsLoop.Progresses := by
  refine .intro ?_ ?_
  · intro memory ts next after finish h
    cases ts with
    | nil => cases h
    | cons t rest =>
      rw [decoratorsPass] at h
      split at h
      · obtain ⟨⟨decorator, place⟩, hdecorator, hnext⟩ := map_eq_ok_iff.1 h
        cases hnext
        exact past_cons (parseDecorator_suffix hdecorator)
      · cases h
  · intro memory ts
    cases ts with
    | nil =>
      rw [parseDecorators]
      rfl
    | cons t rest =>
      rw [parseDecorators_cons, decoratorsPass]
      split
      · rw [map_bind_eq]
        rfl
      · rfl

def decoratorNamePass : Unit → List Terminal → Except Fault (Pass Unit (String × List Terminal))
  | (), [] => .error (.expectedAt [] .decoratorName)
  | (), name :: rest =>
    if name.kind = .word then
      match rest with
      | [] => .ok (.done (name.text, []))
      | dot :: after =>
        if dot.kind = .dot then .ok (.next () after id) else .ok (.done (name.text, dot :: after))
    else .error (.expectedAt (name :: rest) .decoratorName)

/-- The loop over the dotted name of a decorator. -/
def decoratorNameLoop : Loop :=
  ⟨_, _, decoratorNamePass, fun _ => parseDecoratorName⟩

theorem progresses_decoratorNameLoop : decoratorNameLoop.Progresses := by
  refine .intro ?_ ?_
  · intro memory ts next after finish h
    cases ts with
    | nil => cases h
    | cons name rest =>
      unfold decoratorNamePass at h
      dsimp only at h
      split at h
      · split at h
        · cases h
        · split at h
          · cases h
            exact past_cons (List.suffix_cons _ _)
          · cases h
      · cases h
  · intro memory ts
    cases ts with
    | nil => rfl
    | cons name rest =>
      rw [parseDecoratorName_cons, decoratorNamePass.eq_def]
      dsimp only
      split
      · cases rest with
        | nil => rfl
        | cons dot after =>
          dsimp only
          split
          · exact (map_id_eq _).symm
          · rfl
      · rfl

/-! ## Types and initializers -/

def qualifiersPass : Unit → List Terminal → Except Fault (Pass Unit (List Terminal))
  | (), [] => .ok (.done [])
  | (), dot :: rest =>
    if dot.kind = .dot then
      match rest with
      | [] => .error (.expectedAt [] .typeName)
      | name :: after =>
        if name.kind = .word then .ok (.next () after id)
        else .error (.expectedAt (name :: after) .typeName)
    else .ok (.done (dot :: rest))

/-- The loop over the qualifiers of a type name. -/
def qualifiersLoop : Loop :=
  ⟨_, _, qualifiersPass, fun _ => skipQualifiers⟩

theorem progresses_qualifiersLoop : qualifiersLoop.Progresses := by
  refine .intro ?_ ?_
  · intro memory ts next after finish h
    cases ts with
    | nil => cases h
    | cons dot rest =>
      unfold qualifiersPass at h
      dsimp only at h
      split at h
      · split at h
        · cases h
        · split at h
          · cases h
            exact past_cons (List.suffix_cons _ _)
          · cases h
      · cases h
  · intro memory ts
    cases ts with
    | nil => rfl
    | cons dot rest =>
      rw [skipQualifiers_cons, qualifiersPass.eq_def]
      dsimp only
      split
      · cases rest with
        | nil => rfl
        | cons name after =>
          dsimp only
          split
          · exact (map_id_eq _).symm
          · rfl
      · rfl

def typePartPass : Unit → List Terminal → Except Fault (Pass Unit (List Terminal))
  | (), [] => .error (.atPlace [] (.typeExpected none))
  | (), t :: rest =>
    match t.kind with
    | .opening bracket => (skipGroup t bracket rest).map .done
    | .less => (skipAngles t rest >>= skipOptionalGroup .paren).map .done
    | .word =>
      if typeOperators.contains t.text then .ok (.next () rest id)
      else
        (skipTypeName rest).map fun after =>
          match after with
          | [] => .done []
          | word :: more => if word.isWord "is" then .next () more id else .done (word :: more)
    | .string | .number | .template => .ok (.done rest)
    | .operator =>
      if t.text = "-" then .ok (.next () rest id)
      else .error (.atTerminal t (.typeExpected (some t.text)))
    | _ => .error (.atTerminal t (.typeExpected (some t.text)))

/-- The repeated reading of one part of a type, behind each operator before it and behind `is`. -/
def typePartLoop : Loop :=
  ⟨_, _, typePartPass, fun _ => skipTypePart⟩

theorem progresses_typePartLoop : typePartLoop.Progresses := by
  refine .intro ?_ ?_
  · intro memory ts next after finish h
    cases ts with
    | nil => cases h
    | cons t rest =>
      rw [typePartPass] at h
      generalize t.kind = kind at h
      cases kind with
      | opening bracket =>
        obtain ⟨place, -, hnext⟩ := map_eq_ok_iff.1 h
        cases hnext
      | less =>
        obtain ⟨place, -, hnext⟩ := map_eq_ok_iff.1 h
        cases hnext
      | word =>
        dsimp only at h
        split at h
        · cases h
          exact past_cons List.suffix_rfl
        · obtain ⟨place, hname, hnext⟩ := map_eq_ok_iff.1 h
          split at hnext
          · cases hnext
          · split at hnext
            · cases hnext
              exact past_cons ((List.suffix_cons _ _).trans (skipTypeName_suffix hname))
            · cases hnext
      | operator =>
        dsimp only at h
        split at h
        · cases h
          exact past_cons List.suffix_rfl
        · cases h
      | _ => cases h
  · intro memory ts
    cases ts with
    | nil =>
      rw [skipTypePart]
      rfl
    | cons t rest =>
      rw [skipTypePart_cons, typePartPass]
      generalize t.kind = kind
      cases kind with
      | opening bracket =>
        dsimp only
        cases skipGroup t bracket rest <;> rfl
      | less =>
        dsimp only
        cases skipAngles t rest >>= skipOptionalGroup .paren <;> rfl
      | word =>
        dsimp only
        split
        · exact (map_id_eq _).symm
        · rw [map_bind_eq]
          refine congrArg _ (funext fun after => ?_)
          cases after with
          | nil => rfl
          | cons word more =>
            dsimp only
            split
            · exact (map_id_eq _).symm
            · rfl
      | operator =>
        dsimp only
        split
        · exact (map_id_eq _).symm
        · rfl
      | _ => rfl

def indexesPass : Unit → List Terminal → Except Fault (Pass Unit (List Terminal))
  | (), [] => .ok (.done [])
  | (), t :: rest =>
    if t.kind = .opening .square ∧ t.newlineBefore = false then
      (skipGroup t .square rest).map fun after => .next () after id
    else .ok (.done (t :: rest))

/-- The loop over the index suffixes of a type. -/
def indexesLoop : Loop :=
  ⟨_, _, indexesPass, fun _ => skipIndexes⟩

theorem progresses_indexesLoop : indexesLoop.Progresses := by
  refine .intro ?_ ?_
  · intro memory ts next after finish h
    cases ts with
    | nil => cases h
    | cons t rest =>
      rw [indexesPass] at h
      split at h
      · exact past_of_map_next skipGroup_suffix h
      · cases h
  · intro memory ts
    cases ts with
    | nil =>
      rw [skipIndexes]
      rfl
    | cons t rest =>
      rw [skipIndexes_cons, indexesPass]
      split
      · rw [resume_map_next]
      · rfl

def typePartsPass (_memory : Unit) (ts : List Terminal) :
    Except Fault (Pass Unit (List Terminal)) :=
  skipTypePart ts >>= fun part =>
    (skipIndexes part).map fun after =>
      match after with
      | [] => .done []
      | t :: rest => if t.isTypeJoin then .next () rest id else .done (t :: rest)

/-- The loop over the parts of a type. -/
def typePartsLoop : Loop :=
  ⟨_, _, typePartsPass, fun _ => skipTypeParts⟩

theorem progresses_typePartsLoop : typePartsLoop.Progresses := by
  refine .intro ?_ ?_
  · intro memory ts next after finish h
    obtain ⟨part, hpart, h⟩ := bind_eq_ok_iff.1 h
    obtain ⟨place, hindexes, hnext⟩ := map_eq_ok_iff.1 h
    split at hnext
    · cases hnext
    · split at hnext
      · cases hnext
        exact past_of_cons_suffix ((skipIndexes_suffix hindexes).trans (skipTypePart_suffix hpart))
      · cases hnext
  · intro memory ts
    rw [skipTypeParts_eq, typePartsPass]
    cases skipTypePart ts with
    | error fault => rfl
    | ok part =>
      rw [ok_bind, ok_bind, map_bind_eq]
      refine congrArg _ (funext fun after => ?_)
      cases after with
      | nil => rfl
      | cons t rest =>
        dsimp only
        split
        · exact (map_id_eq _).symm
        · rfl

def initializerPass : Bool → List Terminal → Except Fault (Pass Bool (List Terminal))
  | _, [] => .ok (.done [])
  | complete, t :: rest =>
    if t.kind = .semicolon ∨ t.kind = .closing .brace then .ok (.done (t :: rest))
    else if t.newlineBefore && complete && !t.continuesExpression then .ok (.done (t :: rest))
    else if t.kind.isClosing then .error (.atTerminal t (.unexpected t.text))
    else (skipItem t rest).map fun after => .next t.endsExpression after id

/-- The loop over an initializer remembers whether it could end. -/
def initializerLoop : Loop :=
  ⟨_, _, initializerPass, skipInitializer⟩

theorem progresses_initializerLoop : initializerLoop.Progresses := by
  refine .intro ?_ ?_
  · intro complete ts next after finish h
    cases ts with
    | nil => cases h
    | cons t rest =>
      rw [initializerPass] at h
      split at h
      · cases h
      · split at h
        · cases h
        · split at h
          · cases h
          · exact past_of_map_next skipItem_suffix h
  · intro complete ts
    cases ts with
    | nil =>
      rw [skipInitializer]
      rfl
    | cons t rest =>
      rw [skipInitializer_cons, initializerPass]
      split
      · rfl
      · split
        · rfl
        · split
          · rfl
          · rw [resume_map_next]

end Declaration

end ComponentDocs
