import Mathlib.Data.List.Forall2
import ComponentDocs.Proofs.Declaration.Argument
import ComponentDocs.Proofs.Declaration.Equations

/-!
# Places that look alike

Parsers decide by the kind and the text of a terminal and by whether it starts a line.  Its line,
its doc block and the space before it only pass through, into faults, classes and the texts that
are kept as written.

A `Likeness` pairs terminals that agree in what parsers look at and says how the rest may differ.
Every parser then does the same at two places that are alike: it stops at places that are alike
again, with values that agree up to those differences, or it fails at both with the same cause.
-/

namespace ComponentDocs

namespace Expr

/-! ## Expressions up to the texts kept as written -/

mutual

/-- The expression with the texts that are kept as written replaced. -/
def mapOther (slice : String → String) : Expr → Expr
  | .string value => .string value
  | .name text => .name text
  | .array items => .array (mapOtherItems slice items)
  | .object entries => .object (mapOtherEntries slice entries)
  | .other text => .other (slice text)

def mapOtherItems (slice : String → String) : List Expr → List Expr
  | [] => []
  | item :: items => mapOther slice item :: mapOtherItems slice items

def mapOtherEntries (slice : String → String) : List (String × Expr) → List (String × Expr)
  | [] => []
  | (key, value) :: entries => (key, mapOther slice value) :: mapOtherEntries slice entries

end

mutual

theorem mapOther_id : (expr : Expr) → mapOther id expr = expr
  | .string _ | .name _ | .other _ => by simp only [mapOther, id_eq]
  | .array items => by rw [mapOther, mapOtherItems_id items]
  | .object entries => by rw [mapOther, mapOtherEntries_id entries]

theorem mapOtherItems_id : (items : List Expr) → mapOtherItems id items = items
  | [] => rfl
  | item :: items => by rw [mapOtherItems, mapOther_id item, mapOtherItems_id items]

theorem mapOtherEntries_id :
    (entries : List (String × Expr)) → mapOtherEntries id entries = entries
  | [] => rfl
  | (key, value) :: entries => by
    rw [mapOtherEntries, mapOther_id value, mapOtherEntries_id entries]

end

theorem mapOtherItems_append (slice : String → String) (items others : List Expr) :
    mapOtherItems slice (items ++ others) =
      mapOtherItems slice items ++ mapOtherItems slice others := by
  induction items with
  | nil => rfl
  | cons item items ih => rw [List.cons_append, mapOtherItems, ih, mapOtherItems, List.cons_append]

theorem mapOtherEntries_append (slice : String → String) (entries others : List (String × Expr)) :
    mapOtherEntries slice (entries ++ others) =
      mapOtherEntries slice entries ++ mapOtherEntries slice others := by
  induction entries with
  | nil => rfl
  | cons entry entries ih =>
    rw [List.cons_append, mapOtherEntries, ih, mapOtherEntries, List.cons_append]

end Expr

/-- The decorator with the texts that are kept as written replaced. -/
def Decorator.mapText (slice : String → String) (decorator : Decorator) : Decorator :=
  ⟨decorator.name, slice decorator.text, Expr.mapOtherItems slice decorator.arguments⟩

@[simp] theorem Decorator.mapText_id (decorator : Decorator) : decorator.mapText id = decorator := by
  rw [mapText, Expr.mapOtherItems_id]
  rfl

/-- A pairing of terminals that parsers cannot tell apart, with what it leaves of lines, doc
blocks, and the texts that are kept as written. -/
structure Likeness where
  alike : Terminal → Terminal → Prop
  line : Nat → Nat → Prop
  doc : Option String → Option String → Prop
  /-- What is left of a text that is kept as written. -/
  slice : String → String
  /-- How the names of members may differ, where they are texts kept as written. -/
  name : String → String → Prop
  kind_eq : ∀ {t u}, alike t u → u.kind = t.kind
  text_eq : ∀ {t u}, alike t u → u.text = t.text
  newlineBefore_eq : ∀ {t u}, alike t u → u.newlineBefore = t.newlineBefore
  line_of_alike : ∀ {t u}, alike t u → line t.line u.line
  doc_of_alike : ∀ {t u}, alike t u → doc t.doc u.doc
  slice_capture : ∀ {before before' after after'}, List.Forall₂ alike before before' →
    List.Forall₂ alike after after' →
    slice (Terminal.capture before' after') = slice (Terminal.capture before after)
  name_refl : ∀ text, name text text
  name_capture : ∀ {opener opener' rest rest' after after'},
    opener.kind = .opening .square → List.Forall₂ alike (opener :: rest) (opener' :: rest') →
    List.Forall₂ alike after after' →
    name (Terminal.capture (opener :: rest) after) (Terminal.capture (opener' :: rest') after')

namespace Likeness

variable (L : Likeness)

/-- Two places with terminals that are alike. -/
abbrev Places : List Terminal → List Terminal → Prop :=
  List.Forall₂ L.alike

/-- Two faults with the same cause. -/
structure Faults (fault other : Fault) : Prop where
  line : Option.Rel L.line fault.line other.line
  cause : other.cause = fault.cause

/-- Two results that are both values, related by `R`, or both faults. -/
inductive Agree {α β : Type} (R : α → β → Prop) : Except Fault α → Except Fault β → Prop
  | ok {a : α} {b : β} (h : R a b) : Agree R (.ok a) (.ok b)
  | error {fault other : Fault} (h : L.Faults fault other) : Agree R (.error fault) (.error other)

/-- Two values related by `R`, with places after them. -/
def Reads {α β : Type} (R : α → β → Prop) (x : α × List Terminal) (y : β × List Terminal) : Prop :=
  R x.1 y.1 ∧ L.Places x.2 y.2

/-- Two expressions that agree up to the texts kept as written. -/
def Exprs (expr other : Expr) : Prop :=
  other.mapOther L.slice = expr.mapOther L.slice

def Decorators (decorators others : List Decorator) : Prop :=
  others.map (Decorator.mapText L.slice) = decorators.map (Decorator.mapText L.slice)

variable {L} {α β γ δ : Type} {R : α → β → Prop} {S : γ → δ → Prop}

namespace Agree

theorem bind {x : Except Fault α} {y : Except Fault β} {f : α → Except Fault γ}
    {g : β → Except Fault δ} (h : L.Agree R x y)
    (hstep : ∀ a b, x = .ok a → R a b → L.Agree S (f a) (g b)) :
    L.Agree S (x >>= f) (y >>= g) := by
  cases h with
  | ok hvalues => exact hstep _ _ rfl hvalues
  | error hfaults => exact .error hfaults

theorem map {x : Except Fault α} {y : Except Fault β} {f : α → γ} {g : β → δ}
    (h : L.Agree R x y) (hmap : ∀ a b, R a b → S (f a) (g b)) :
    L.Agree S (x.map f) (y.map g) := by
  cases h with
  | ok hvalues => exact .ok (hmap _ _ hvalues)
  | error hfaults => exact .error hfaults

/-- Both sides take the same branch. -/
theorem ite {c : Prop} [Decidable c] {x x' : Except Fault α} {y y' : Except Fault β}
    (hthen : c → L.Agree R x y) (helse : ¬c → L.Agree R x' y') :
    L.Agree R (if c then x else x') (if c then y else y') := by
  split
  · rename_i hc
    exact hthen hc
  · rename_i hc
    exact helse hc

end Agree

/-! ## Terminals and faults -/

section Terminals

variable {t u : Terminal} {ts us : List Terminal}

theorem isWord_eq (h : L.alike t u) (word : String) : u.isWord word = t.isWord word := by
  simp only [Terminal.isWord, L.kind_eq h, L.text_eq h]

theorem isOperator_eq (h : L.alike t u) (text : String) : u.isOperator text = t.isOperator text := by
  simp only [Terminal.isOperator, L.kind_eq h, L.text_eq h]

theorem startsWith_eq (h : L.Places ts us) (kind : Token.Kind) :
    Terminal.startsWith kind us = Terminal.startsWith kind ts := by
  cases h with
  | nil => rfl
  | cons ht hrest => simp only [Terminal.startsWith, L.kind_eq ht]

theorem startsWithWord_eq (h : L.Places ts us) (word : String) :
    Terminal.startsWithWord word us = Terminal.startsWithWord word ts := by
  cases h with
  | nil => rfl
  | cons ht hrest => exact isWord_eq ht word

theorem skipOptional_places (h : L.Places ts us) (kind : Token.Kind) :
    L.Places (Terminal.skipOptional kind ts) (Terminal.skipOptional kind us) := by
  cases h with
  | nil => exact .nil
  | cons ht hrest =>
    simp only [Terminal.skipOptional, L.kind_eq ht]
    split
    · exact hrest
    · exact .cons ht hrest

theorem faults_atTerminal (h : L.alike t u) {cause other : Fault.Cause} (hcause : other = cause) :
    L.Faults (.atTerminal t cause) (.atTerminal u other) :=
  ⟨.some (L.line_of_alike h), hcause⟩

theorem faults_atPlace (h : L.Places ts us) {cause other : Fault.Cause} (hcause : other = cause) :
    L.Faults (.atPlace ts cause) (.atPlace us other) := by
  refine ⟨?_, hcause⟩
  cases h with
  | nil => exact .none
  | cons ht hrest => exact .some (L.line_of_alike ht)

theorem faults_expectedAt (h : L.Places ts us) (what : Fault.Expected) :
    L.Faults (.expectedAt ts what) (.expectedAt us what) := by
  refine faults_atPlace h ?_
  cases h with
  | nil => rfl
  | cons ht hrest => simp only [List.head?_cons, Option.map_some, L.text_eq ht]

end Terminals

end Likeness

end ComponentDocs
