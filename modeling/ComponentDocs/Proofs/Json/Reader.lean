import ComponentDocs.Proofs.Json.Grammar

/-!
# Reading JSON documents

A reader by recursive descent, with one function for each judgment of the grammar.  It finds a value
exactly where the grammar does (`read_eq_some_iff`): what it returns is derived by the judgment of
the same name (`sound`), and what the grammar derives is returned when the fuel is more than three
times the length of the text (`complete`).  So a text is a document for at most one value.
-/

namespace ComponentDocs.Json

/-! ## Blanks, signs and escapes -/

/-- What follows the blanks at the start of a text. -/
def skipSpace (cs : List Char) : List Char :=
  cs.dropWhile isSpace

/-- What follows a sign after blanks. -/
def readSign? (sign : Char) (cs : List Char) : Option (List Char) :=
  match skipSpace cs with
  | [] => none
  | c :: rest => if c = sign then some rest else none

/-- The second half of a pair. -/
def readLowHalf? (high : Nat) : List Char → Option (Char × List Char)
  | '\\' :: 'u' :: a :: b :: c :: d :: rest => do
    let low ← codeUnit? a b c d
    if IsLowHalf low then some (pairChar high low, rest) else none
  | _ => none

/-- The character that is escaped by what follows a backslash. -/
def readEscape? : List Char → Option (Char × List Char)
  | 'u' :: a :: b :: c :: d :: rest => do
    let n ← codeUnit? a b c d
    if IsHighHalf n then readLowHalf? n rest
    else if IsLowHalf n then none
    else some (Char.ofNat n, rest)
  | mark :: rest => do
    let c ← shortEscape? mark
    some (c, rest)
  | [] => none

theorem readLowHalf?_eq_some_iff {high : Nat} {cs rest : List Char} {char : Char} :
    readLowHalf? high cs = some (char, rest) ↔
      ∃ a b c d low, cs = '\\' :: 'u' :: a :: b :: c :: d :: rest ∧
        codeUnit? a b c d = some low ∧ IsLowHalf low ∧ char = pairChar high low := by
  constructor
  · intro h
    unfold readLowHalf? at h
    split at h
    · obtain ⟨low, hunit, h⟩ := Option.bind_eq_some_iff.1 h
      split at h
      case isTrue hlow =>
        obtain ⟨rfl, rfl⟩ := Prod.mk.inj (Option.some.inj h)
        exact ⟨_, _, _, _, low, rfl, hunit, hlow, rfl⟩
      case isFalse => cases h
    · cases h
  · rintro ⟨a, b, c, d, low, rfl, hunit, hlow, hchar⟩
    simp only [readLowHalf?, hunit, Option.bind_eq_bind, Option.bind_some, if_pos hlow, hchar]

theorem shortEscape?_u : shortEscape? 'u' = none := by
  decide

theorem readEscape?_eq_some_iff {cs rest : List Char} {char : Char} :
    readEscape? cs = some (char, rest) ↔ Escape cs char rest := by
  constructor
  · intro h
    unfold readEscape? at h
    split at h
    · obtain ⟨n, hunit, h⟩ := Option.bind_eq_some_iff.1 h
      split at h
      case isTrue hhigh =>
        obtain ⟨a, b, c, d, low, rfl, hsecond, hlow, hchar⟩ := readLowHalf?_eq_some_iff.1 h
        rw [hchar]
        exact .pair hunit hhigh hsecond hlow
      case isFalse hhigh =>
        split at h
        case isTrue => cases h
        case isFalse hlow => cases h; exact .unit hunit ⟨hhigh, hlow⟩
    · obtain ⟨c, hmark, h⟩ := Option.bind_eq_some_iff.1 h
      cases h
      exact .short hmark
    · cases h
  · intro h
    cases h with
    | short hmark =>
      rename_i mark
      have hu : mark ≠ 'u' := by
        rintro rfl
        rw [shortEscape?_u] at hmark
        cases hmark
      unfold readEscape?
      split
      · rename_i heq
        cases heq
        exact absurd rfl hu
      · rename_i heq
        cases heq
        simp [hmark]
      · rename_i heq; cases heq
    | unit hunit hwhole =>
      simp only [readEscape?, hunit, Option.bind_eq_bind, Option.bind_some, if_neg hwhole.1,
        if_neg hwhole.2]
    | pair hfirst hhigh hsecond hlow =>
      simp only [readEscape?, hfirst, Option.bind_eq_bind, Option.bind_some, if_pos hhigh]
      exact readLowHalf?_eq_some_iff.2 ⟨_, _, _, _, _, rfl, hsecond, hlow, rfl⟩

theorem Escape.length_lt {cs rest : List Char} {char : Char} (h : Escape cs char rest) :
    rest.length < cs.length := by
  cases h <;> simp only [List.length_cons] <;> omega

theorem space_skipSpace (cs : List Char) : Space cs (skipSpace cs) := by
  refine ⟨cs.takeWhile isSpace, ?_, (List.takeWhile_append_dropWhile).symm⟩
  exact List.all_eq_true.1 List.all_takeWhile

/-- Blanks are skipped up to a character that is none. -/
theorem skipSpace_eq_of_space {cs rest : List Char} {c : Char} (h : Space cs (c :: rest))
    (hc : isSpace c = false) : skipSpace cs = c :: rest := by
  obtain ⟨space, hspace, rfl⟩ := h
  rw [skipSpace, List.dropWhile_append_of_pos hspace, List.dropWhile_cons_of_neg (by simp [hc])]

theorem readSign?_eq_some_iff {sign : Char} (hsign : isSpace sign = false) {cs rest : List Char} :
    readSign? sign cs = some rest ↔ Sign sign cs rest := by
  unfold readSign?
  constructor
  · intro h
    split at h
    · cases h
    · rename_i c tail hskip
      split at h
      case isTrue hc =>
        cases h
        rw [Sign, ← hc, ← hskip]
        exact space_skipSpace cs
      case isFalse => cases h
  · intro h
    rw [skipSpace_eq_of_space h hsign]
    exact if_pos rfl

theorem Space.length_le {cs rest : List Char} (h : Space cs rest) : rest.length ≤ cs.length := by
  obtain ⟨space, -, rfl⟩ := h
  simp

theorem Sign.length_lt {sign : Char} {cs rest : List Char} (h : Sign sign cs rest) :
    rest.length < cs.length :=
  Space.length_le h

/-! ## Strings -/

/-- The characters of a string and what follows its closing quote. -/
def readChars? (cs : List Char) : Option (List Char × List Char) :=
  match cs with
  | [] => none
  | c :: rest =>
    if c = '"' then some ([], rest)
    else if c = '\\' then
      match _h : readEscape? rest with
      | none => none
      | some (char, after) => (readChars? after).map fun (text, rest) => (char :: text, rest)
    else if isPlain c then (readChars? rest).map fun (text, rest) => (c :: text, rest)
    else none
termination_by cs.length
decreasing_by
  · exact Nat.lt_succ_of_lt (readEscape?_eq_some_iff.1 _h).length_lt
  · exact Nat.lt_succ_self _

theorem readChars?_eq_some_iff {cs text rest : List Char} :
    readChars? cs = some (text, rest) ↔ Chars cs text rest := by
  constructor
  · intro h
    fun_induction readChars? cs generalizing text with
    | case1 => cases h
    | case2 => cases h; exact .close
    | case3 => cases h
    | case4 cs char after hescape _ ih =>
      obtain ⟨⟨more, left⟩, hmore, heq⟩ := Option.map_eq_some_iff.1 h
      cases heq
      exact .escape (readEscape?_eq_some_iff.1 hescape) (ih hmore)
    | case5 c cs hquote hbackslash hplain ih =>
      obtain ⟨⟨more, left⟩, hmore, heq⟩ := Option.map_eq_some_iff.1 h
      cases heq
      exact .plain hplain (ih hmore)
    | case6 => cases h
  · intro h
    induction h with
    | close => rw [readChars?, if_pos rfl]
    | plain hplain hrest ih =>
      have hne := hplain
      simp only [isPlain, Bool.and_eq_true, bne_iff_ne] at hne
      rw [readChars?, if_neg hne.1.1, if_neg hne.1.2, if_pos hplain, ih]
      rfl
    | escape hescape hrest ih =>
      rw [readChars?, if_neg (by decide), if_pos rfl]
      split
      · rename_i hnone
        rw [readEscape?_eq_some_iff.2 hescape] at hnone
        cases hnone
      · rename_i hsome
        rw [readEscape?_eq_some_iff.2 hescape] at hsome
        cases hsome
        rw [ih]
        rfl

theorem Chars.length_lt {cs text rest : List Char} (h : Chars cs text rest) :
    rest.length < cs.length := by
  induction h with
  | close => exact Nat.lt_succ_self _
  | plain _ _ ih => exact Nat.lt_succ_of_lt ih
  | escape hescape _ ih =>
    have hmiddle := hescape.length_lt
    simp only [List.length_cons]
    omega

/-! ## Values -/

mutual

/-- The value at the start of a text and what follows it. -/
def readValue? : Nat → List Char → Option (Json × List Char)
  | 0, _ => none
  | _ + 1, 'n' :: 'u' :: 'l' :: 'l' :: rest => some (.null, rest)
  | _ + 1, 't' :: 'r' :: 'u' :: 'e' :: rest => some (.bool true, rest)
  | _ + 1, 'f' :: 'a' :: 'l' :: 's' :: 'e' :: rest => some (.bool false, rest)
  | _ + 1, '"' :: cs => do
    let (text, rest) ← readChars? cs
    some (.string (String.ofList text), rest)
  | fuel + 1, '[' :: cs =>
    match readSign? ']' cs with
    | some rest => some (.array [], rest)
    | none => do
      let (items, rest) ← readItems? fuel cs
      some (.array items, rest)
  | fuel + 1, '\x7b' :: cs =>
    match readSign? '\x7d' cs with
    | some rest => some (.object [], rest)
    | none => do
      let (fields, rest) ← readFields? fuel cs
      some (.object fields, rest)
  | _, _ => none

/-- The items of an array and what follows its closing bracket. -/
def readItems? : Nat → List Char → Option (List Json × List Char)
  | 0, _ => none
  | fuel + 1, cs => do
    let (item, middle) ← readValue? fuel (skipSpace cs)
    match readSign? ']' middle with
    | some rest => some ([item], rest)
    | none => do
      let next ← readSign? ',' middle
      let (items, rest) ← readItems? fuel next
      some (item :: items, rest)

/-- A field of an object and what follows it. -/
def readField? : Nat → List Char → Option ((String × Json) × List Char)
  | 0, _ => none
  | fuel + 1, cs => do
    let key ← readSign? '"' cs
    let (name, colon) ← readChars? key
    let before ← readSign? ':' colon
    let (value, rest) ← readValue? fuel (skipSpace before)
    some ((String.ofList name, value), rest)

/-- The fields of an object and what follows its closing brace. -/
def readFields? : Nat → List Char → Option (List (String × Json) × List Char)
  | 0, _ => none
  | fuel + 1, cs => do
    let (field, middle) ← readField? fuel cs
    match readSign? '\x7d' middle with
    | some rest => some ([field], rest)
    | none => do
      let next ← readSign? ',' middle
      let (fields, rest) ← readFields? fuel next
      some (field :: fields, rest)

end

/-- The value of a document. -/
def read (cs : List Char) : Option Json :=
  match readValue? (3 * cs.length + 1) (skipSpace cs) with
  | none => none
  | some (json, rest) => if (skipSpace rest).isEmpty then some json else none

/-! ## What is read is there -/

/-- With this fuel, what is read is derived by the grammar. -/
structure Sound (fuel : Nat) : Prop where
  value : ∀ {cs rest json}, readValue? fuel cs = some (json, rest) → Value cs json rest
  items : ∀ {cs rest items}, readItems? fuel cs = some (items, rest) → Items cs items rest
  field : ∀ {cs rest name value},
    readField? fuel cs = some ((name, value), rest) → Field cs name value rest
  fields : ∀ {cs rest fields}, readFields? fuel cs = some (fields, rest) → Fields cs fields rest

section Step

variable {fuel : Nat} {cs rest : List Char}

theorem Sound.value_succ (h : Sound fuel) {json : Json}
    (hread : readValue? (fuel + 1) cs = some (json, rest)) : Value cs json rest := by
  unfold readValue? at hread
  split at hread
  · rename_i hfuel; cases hfuel
  · cases hread; exact .null
  · cases hread; exact .true
  · cases hread; exact .false
  · obtain ⟨⟨text, left⟩, htext, heq⟩ := Option.bind_eq_some_iff.1 hread
    cases heq
    exact .string (readChars?_eq_some_iff.1 htext)
  · rename_i hfuel
    cases hfuel
    split at hread
    · rename_i hclose
      cases hread
      exact .emptyArray ((readSign?_eq_some_iff (by decide)).1 hclose)
    · obtain ⟨⟨items, left⟩, hitems, heq⟩ := Option.bind_eq_some_iff.1 hread
      cases heq
      exact .array (h.items hitems)
  · rename_i hfuel
    cases hfuel
    split at hread
    · rename_i hclose
      cases hread
      exact .emptyObject ((readSign?_eq_some_iff (by decide)).1 hclose)
    · obtain ⟨⟨fields, left⟩, hfields, heq⟩ := Option.bind_eq_some_iff.1 hread
      cases heq
      exact .object (h.fields hfields)
  · cases hread

theorem Sound.items_succ (h : Sound fuel) {items : List Json}
    (hread : readItems? (fuel + 1) cs = some (items, rest)) : Items cs items rest := by
  unfold readItems? at hread
  obtain ⟨⟨item, middle⟩, hitem, hread⟩ := Option.bind_eq_some_iff.1 hread
  have hvalue := h.value hitem
  dsimp only at hread
  split at hread
  · rename_i hclose
    cases hread
    exact .last (space_skipSpace cs) hvalue ((readSign?_eq_some_iff (by decide)).1 hclose)
  · obtain ⟨next, hcomma, hread⟩ := Option.bind_eq_some_iff.1 hread
    obtain ⟨⟨items, left⟩, hitems, heq⟩ := Option.bind_eq_some_iff.1 hread
    cases heq
    exact .more (space_skipSpace cs) hvalue ((readSign?_eq_some_iff (by decide)).1 hcomma)
      (h.items hitems)

theorem Sound.field_succ (h : Sound fuel) {name : String} {value : Json}
    (hread : readField? (fuel + 1) cs = some ((name, value), rest)) :
    Field cs name value rest := by
  unfold readField? at hread
  obtain ⟨key, hquote, hread⟩ := Option.bind_eq_some_iff.1 hread
  obtain ⟨⟨chars, colon⟩, hname, hread⟩ := Option.bind_eq_some_iff.1 hread
  obtain ⟨before, hcolon, hread⟩ := Option.bind_eq_some_iff.1 hread
  obtain ⟨⟨json, left⟩, hvalue, heq⟩ := Option.bind_eq_some_iff.1 hread
  cases heq
  exact .field ((readSign?_eq_some_iff (by decide)).1 hquote) (readChars?_eq_some_iff.1 hname)
    ((readSign?_eq_some_iff (by decide)).1 hcolon) (space_skipSpace before) (h.value hvalue)

theorem Sound.fields_succ (h : Sound fuel) {fields : List (String × Json)}
    (hread : readFields? (fuel + 1) cs = some (fields, rest)) : Fields cs fields rest := by
  unfold readFields? at hread
  obtain ⟨⟨⟨name, value⟩, middle⟩, hfirst, hread⟩ := Option.bind_eq_some_iff.1 hread
  have hfield := h.field hfirst
  dsimp only at hread
  split at hread
  · rename_i hclose
    cases hread
    exact .last hfield ((readSign?_eq_some_iff (by decide)).1 hclose)
  · obtain ⟨next, hcomma, hread⟩ := Option.bind_eq_some_iff.1 hread
    obtain ⟨⟨fields, left⟩, hfields, heq⟩ := Option.bind_eq_some_iff.1 hread
    cases heq
    exact .more hfield ((readSign?_eq_some_iff (by decide)).1 hcomma) (h.fields hfields)

theorem sound (fuel : Nat) : Sound fuel := by
  induction fuel with
  | zero =>
    constructor
    · intro cs rest json h; rw [readValue?] at h; cases h
    · intro cs rest items h; rw [readItems?] at h; cases h
    · intro cs rest name value h; rw [readField?] at h; cases h
    · intro cs rest fields h; rw [readFields?] at h; cases h
  | succ fuel ih => exact ⟨ih.value_succ, ih.items_succ, ih.field_succ, ih.fields_succ⟩

end Step

/-! ## What is there is read -/

mutual

theorem Value.length_lt {cs rest : List Char} {json : Json} :
    Value cs json rest → rest.length < cs.length
  | .null => by simp only [List.length_cons]; omega
  | .true => by simp only [List.length_cons]; omega
  | .false => by simp only [List.length_cons]; omega
  | .string htext => Nat.lt_succ_of_lt htext.length_lt
  | .emptyArray hclose => Nat.lt_succ_of_lt hclose.length_lt
  | .array hitems => Nat.lt_succ_of_lt hitems.length_lt
  | .emptyObject hclose => Nat.lt_succ_of_lt hclose.length_lt
  | .object hfields => Nat.lt_succ_of_lt hfields.length_lt

theorem Items.length_lt {cs rest : List Char} {items : List Json} :
    Items cs items rest → rest.length < cs.length
  | .last hspace hitem hclose => by
    have hstart := hspace.length_le
    have hmiddle := hitem.length_lt
    have hrest := hclose.length_lt
    omega
  | .more hspace hitem hcomma hitems => by
    have hstart := hspace.length_le
    have hmiddle := hitem.length_lt
    have hnext := hcomma.length_lt
    have hrest := hitems.length_lt
    omega

theorem Field.length_lt {cs rest : List Char} {name : String} {value : Json} :
    Field cs name value rest → rest.length < cs.length
  | .field hquote hname hcolon hspace hvalue => by
    have hkey := hquote.length_lt
    have hsign := hname.length_lt
    have hbefore := hcolon.length_lt
    have hstart := hspace.length_le
    have hrest := hvalue.length_lt
    omega

theorem Fields.length_lt {cs rest : List Char} {fields : List (String × Json)} :
    Fields cs fields rest → rest.length < cs.length
  | .last hfield hclose => by
    have hmiddle := hfield.length_lt
    have hrest := hclose.length_lt
    omega
  | .more hfield hcomma hfields => by
    have hmiddle := hfield.length_lt
    have hnext := hcomma.length_lt
    have hrest := hfields.length_lt
    omega

end

/-- A value does not start with a blank. -/
theorem Value.skipSpace_eq {cs start rest : List Char} {json : Json} (h : Value start json rest)
    (hspace : Space cs start) : skipSpace cs = start := by
  cases h <;> exact skipSpace_eq_of_space hspace (by decide)

/-- With this fuel, what the grammar derives is read, unless the text is too long. -/
structure Complete (fuel : Nat) : Prop where
  value : ∀ {cs rest json}, Value cs json rest → 3 * cs.length + 1 ≤ fuel →
    readValue? fuel cs = some (json, rest)
  items : ∀ {cs rest items}, Items cs items rest → 3 * cs.length + 2 ≤ fuel →
    readItems? fuel cs = some (items, rest)
  field : ∀ {cs rest name value}, Field cs name value rest → 3 * cs.length + 2 ≤ fuel →
    readField? fuel cs = some ((name, value), rest)
  fields : ∀ {cs rest fields}, Fields cs fields rest → 3 * cs.length + 3 ≤ fuel →
    readFields? fuel cs = some (fields, rest)

section Step

variable {fuel : Nat} {cs rest : List Char}

/-- A sign is not found where a value or another sign stands. -/
theorem readSign?_eq_none {sign c : Char} {tail : List Char} (hspace : Space cs (c :: tail))
    (hc : isSpace c = false) (hne : c ≠ sign) : readSign? sign cs = none := by
  rw [readSign?, skipSpace_eq_of_space hspace hc]
  exact if_neg hne

theorem Items.readSign?_eq_none {items : List Json} (h : Items cs items rest) :
    readSign? ']' cs = none := by
  have hvalue : ∀ {start middle item}, Space cs start → Value start item middle →
      readSign? ']' cs = none := by
    intro start middle item hspace hitem
    cases hitem <;> exact Json.readSign?_eq_none hspace (by decide) (by decide)
  cases h with
  | last hspace hitem _ => exact hvalue hspace hitem
  | more hspace hitem _ _ => exact hvalue hspace hitem

theorem Fields.readSign?_eq_none {fields : List (String × Json)} (h : Fields cs fields rest) :
    readSign? '\x7d' cs = none := by
  have hquoted : ∀ {name value middle}, Field cs name value middle →
      readSign? '\x7d' cs = none := by
    intro name value middle hfield
    cases hfield with
    | field hquote => exact Json.readSign?_eq_none hquote (by decide) (by decide)
  cases h with
  | last hfield _ => exact hquoted hfield
  | more hfield _ _ => exact hquoted hfield

theorem Complete.value_succ (h : Complete fuel) {json : Json} (hvalue : Value cs json rest)
    (hfuel : 3 * cs.length + 1 ≤ fuel + 1) : readValue? (fuel + 1) cs = some (json, rest) := by
  cases hvalue with
  | null => rw [readValue?]
  | true => rw [readValue?]
  | false => rw [readValue?]
  | string htext =>
    rw [readValue?, readChars?_eq_some_iff.2 htext]
    rfl
  | emptyArray hclose => rw [readValue?, (readSign?_eq_some_iff (by decide)).2 hclose]
  | array hitems =>
    rw [readValue?, hitems.readSign?_eq_none]
    rw [List.length_cons] at hfuel
    dsimp only
    rw [h.items hitems (by omega)]
    rfl
  | emptyObject hclose => rw [readValue?, (readSign?_eq_some_iff (by decide)).2 hclose]
  | object hfields =>
    rw [readValue?, hfields.readSign?_eq_none]
    rw [List.length_cons] at hfuel
    dsimp only
    rw [h.fields hfields (by omega)]
    rfl

theorem Complete.items_succ (h : Complete fuel) {items : List Json} (hitems : Items cs items rest)
    (hfuel : 3 * cs.length + 2 ≤ fuel + 1) : readItems? (fuel + 1) cs = some (items, rest) := by
  cases hitems with
  | last hspace hitem hclose =>
    have hstart := hspace.length_le
    rw [readItems?, hitem.skipSpace_eq hspace, h.value hitem (by omega)]
    simp only [Option.bind_eq_bind, Option.bind_some]
    rw [(readSign?_eq_some_iff (by decide)).2 hclose]
  | more hspace hitem hcomma hitems =>
    have hstart := hspace.length_le
    have hmiddle := hitem.length_lt
    have hnext := hcomma.length_lt
    rw [readItems?, hitem.skipSpace_eq hspace, h.value hitem (by omega)]
    simp only [Option.bind_eq_bind, Option.bind_some]
    rw [Json.readSign?_eq_none hcomma (by decide) (by decide)]
    simp only [(readSign?_eq_some_iff (by decide)).2 hcomma, h.items hitems (by omega),
      Option.bind_some]

theorem Complete.field_succ (h : Complete fuel) {name : String} {value : Json}
    (hfield : Field cs name value rest) (hfuel : 3 * cs.length + 2 ≤ fuel + 1) :
    readField? (fuel + 1) cs = some ((name, value), rest) := by
  cases hfield with
  | field hquote hname hcolon hspace hvalue =>
    have hkey := hquote.length_lt
    have hsign := hname.length_lt
    have hbefore := hcolon.length_lt
    have hstart := hspace.length_le
    rw [readField?, (readSign?_eq_some_iff (by decide)).2 hquote]
    simp only [Option.bind_eq_bind, Option.bind_some]
    rw [readChars?_eq_some_iff.2 hname]
    simp only [Option.bind_some]
    rw [(readSign?_eq_some_iff (by decide)).2 hcolon]
    simp only [Option.bind_some]
    rw [hvalue.skipSpace_eq hspace, h.value hvalue (by omega)]
    rfl

theorem Complete.fields_succ (h : Complete fuel) {fields : List (String × Json)}
    (hfields : Fields cs fields rest) (hfuel : 3 * cs.length + 3 ≤ fuel + 1) :
    readFields? (fuel + 1) cs = some (fields, rest) := by
  cases hfields with
  | last hfield hclose =>
    rw [readFields?, h.field hfield (by omega)]
    simp only [Option.bind_eq_bind, Option.bind_some]
    rw [(readSign?_eq_some_iff (by decide)).2 hclose]
  | more hfield hcomma hfields =>
    have hmiddle := hfield.length_lt
    have hnext := hcomma.length_lt
    rw [readFields?, h.field hfield (by omega)]
    simp only [Option.bind_eq_bind, Option.bind_some]
    rw [Json.readSign?_eq_none hcomma (by decide) (by decide)]
    simp only [(readSign?_eq_some_iff (by decide)).2 hcomma, h.fields hfields (by omega),
      Option.bind_some]

theorem complete (fuel : Nat) : Complete fuel := by
  induction fuel with
  | zero =>
    constructor
    · intro cs rest json _ hfuel; omega
    · intro cs rest items _ hfuel; omega
    · intro cs rest name value _ hfuel; omega
    · intro cs rest fields _ hfuel; omega
  | succ fuel ih => exact ⟨ih.value_succ, ih.items_succ, ih.field_succ, ih.fields_succ⟩

end Step

/-- A text is read as a value exactly when it is a document for this value. -/
theorem read_eq_some_iff {cs : List Char} {json : Json} :
    read cs = some json ↔ Document cs json := by
  unfold read
  constructor
  · intro h
    split at h
    · cases h
    · rename_i value rest hvalue
      split at h
      case isFalse => cases h
      case isTrue hend =>
        cases h
        refine ⟨_, rest, space_skipSpace cs, (sound _).value hvalue, ?_⟩
        rw [← List.isEmpty_iff.1 hend]
        exact space_skipSpace rest
  · rintro ⟨start, rest, hspace, hvalue, hend⟩
    have hlength := hspace.length_le
    rw [hvalue.skipSpace_eq hspace, (complete _).value hvalue (by omega)]
    obtain ⟨space, hblank, rfl⟩ := hend
    have hskip : skipSpace (space ++ []) = [] := List.dropWhile_append_of_pos hblank
    dsimp only
    rw [hskip]
    rfl

/-- The document that a value is written as is read as this value. -/
theorem read_pretty (json : Json) :
    read json.pretty = some json ∧ read (json.pretty ++ ['\n']) = some json :=
  ⟨read_eq_some_iff.2 (document_pretty json).1, read_eq_some_iff.2 (document_pretty json).2⟩

end ComponentDocs.Json
