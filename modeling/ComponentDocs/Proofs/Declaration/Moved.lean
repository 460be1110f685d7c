import ComponentDocs.Proofs.Declaration.AlikeClass
import ComponentDocs.Proofs.Declaration.Terminal
import ComponentDocs.Proofs.Token.Scan

/-!
# Terminals further down

Text that stands further down in a file has the same terminals, with other lines: moved tokens have
moved terminals (`Terminal.forall₂_ofTokens_move`).  `Likeness.movedDown` is the likeness of places
that differ in this way, and the lemmas on it say what it means for members, classes and faults:
members stay the same, and lines grow by the same number everywhere.  `Likeness.relocated` forgets
the lines and the doc blocks too.
-/

namespace ComponentDocs

namespace Terminal

/-- The same terminal in another place or another text. -/
structure Relocated (t u : Terminal) : Prop where
  kind : u.kind = t.kind
  text : u.text = t.text
  newlineBefore : u.newlineBefore = t.newlineBefore
  leading : u.leading = t.leading

theorem Relocated.refl (t : Terminal) : Relocated t t :=
  ⟨rfl, rfl, rfl, rfl⟩

theorem spelling_relocated {ts us : List Terminal} (h : List.Forall₂ Relocated ts us) :
    spelling us = spelling ts := by
  have hflat : ∀ {ts us : List Terminal}, List.Forall₂ Relocated ts us →
      (us.flatMap fun terminal => terminal.leading ++ terminal.text.toList) =
        ts.flatMap fun terminal => terminal.leading ++ terminal.text.toList := by
    intro ts us h
    induction h with
    | nil => rfl
    | cons ht hrest ih =>
      rw [List.flatMap_cons, List.flatMap_cons, ih, ht.leading, ht.text]
  cases h with
  | nil => rfl
  | cons ht hrest => rw [spelling, spelling, hflat hrest, ht.text]

theorem capture_relocated {before before' after after' : List Terminal}
    (hbefore : List.Forall₂ Relocated before before')
    (hafter : List.Forall₂ Relocated after after') :
    capture before' after' = capture before after := by
  rw [capture, capture, ← hbefore.length_eq, ← hafter.length_eq,
    spelling_relocated (List.forall₂_take _ hbefore)]

/-- The same terminal further down in a text. -/
structure MovedDown (lines : Nat) (t u : Terminal) : Prop where
  kind : u.kind = t.kind
  text : u.text = t.text
  newlineBefore : u.newlineBefore = t.newlineBefore
  leading : u.leading = t.leading
  doc : u.doc = t.doc
  line : u.line = t.line + lines

theorem MovedDown.relocated {lines : Nat} {t u : Terminal} (h : MovedDown lines t u) :
    Relocated t u :=
  ⟨h.kind, h.text, h.newlineBefore, h.leading⟩

theorem capture_movedDown {lines : Nat} {before before' after after' : List Terminal}
    (hbefore : List.Forall₂ (MovedDown lines) before before')
    (hafter : List.Forall₂ (MovedDown lines) after after') :
    capture before' after' = capture before after :=
  capture_relocated (hbefore.imp fun _ _ => MovedDown.relocated)
    (hafter.imp fun _ _ => MovedDown.relocated)

end Terminal

/-- The same text in another place.  Lines and doc blocks may differ. -/
def Likeness.relocated : Likeness where
  alike := Terminal.Relocated
  line := fun _ _ => True
  doc := fun _ _ => True
  slice := id
  name := fun name name' => name' = name
  kind_eq := Terminal.Relocated.kind
  text_eq := Terminal.Relocated.text
  newlineBefore_eq := Terminal.Relocated.newlineBefore
  line_of_alike := fun _ => trivial
  doc_of_alike := fun _ => trivial
  slice_capture := Terminal.capture_relocated
  name_refl := fun _ => rfl
  name_capture := fun _ hbefore hafter => Terminal.capture_relocated hbefore hafter

/-- Only the lines differ, by the same number everywhere. -/
def Likeness.movedDown (lines : Nat) : Likeness where
  alike := Terminal.MovedDown lines
  line := fun line line' => line' = line + lines
  doc := fun doc doc' => doc' = doc
  slice := id
  name := fun name name' => name' = name
  kind_eq := Terminal.MovedDown.kind
  text_eq := Terminal.MovedDown.text
  newlineBefore_eq := Terminal.MovedDown.newlineBefore
  line_of_alike := Terminal.MovedDown.line
  doc_of_alike := Terminal.MovedDown.doc
  slice_capture := Terminal.capture_movedDown
  name_refl := fun _ => rfl
  name_capture := fun _ hbefore hafter => Terminal.capture_movedDown hbefore hafter

/-- The class as it stands further down in a file. -/
def ClassDecl.moveDown (lines : Nat) (decl : ClassDecl) : ClassDecl :=
  { decl with line := decl.line + lines }

def Fault.moveDown (lines : Nat) (fault : Fault) : Fault :=
  { fault with line := fault.line.map (· + lines) }

def SyntaxError.moveDown (lines : Nat) (e : SyntaxError) : SyntaxError :=
  { e with line := e.line + lines }

namespace Likeness

variable {lines : Nat}

theorem decorators_movedDown {decorators others : List Decorator}
    (h : (movedDown lines).Decorators decorators others) : others = decorators := by
  have hid : (fun decorator => decorator) = Decorator.mapText (movedDown lines).slice := by
    funext decorator
    exact (Decorator.mapText_id decorator).symm
  rw [Decorators, ← hid, List.map_id', List.map_id'] at h
  exact h

theorem members_movedDown {member other : Member} (h : (movedDown lines).Members member other) :
    other = member := by
  obtain ⟨hkind, hname, hmodifiers, hdecorators, hdoc, htype⟩ := h
  have hdecorators := decorators_movedDown hdecorators
  have htype : other.type = member.type := by simpa [movedDown] using htype
  cases member
  cases other
  simp_all [movedDown]

theorem classes_movedDown {decl other : ClassDecl} (h : (movedDown lines).Classes decl other) :
    other = decl.moveDown lines := by
  obtain ⟨hname, hline, hdoc, hdecorators, hbase, hmembers⟩ := h
  have hdecorators := decorators_movedDown hdecorators
  have hmembers : decl.members = other.members :=
    List.forall₂_eq_eq_eq ▸ hmembers.imp fun _ _ h => (members_movedDown h).symm
  cases decl
  cases other
  simp_all [movedDown, ClassDecl.moveDown]

theorem faults_movedDown {fault other : Fault} (h : (movedDown lines).Faults fault other) :
    other = fault.moveDown lines := by
  obtain ⟨line, cause⟩ := fault
  obtain ⟨line', cause'⟩ := other
  obtain ⟨hline, rfl⟩ := h
  cases hline with
  | none => rfl
  | some hline =>
    cases hline
    rfl

end Likeness

namespace Declaration

open Terminal

/-- Terminals further down declare the same classes further down. -/
theorem value_parseDeclarations_movedDown {lines : Nat} {ts us : List Terminal}
    (h : List.Forall₂ (MovedDown lines) ts us) :
    (parseDeclarations us).value =
      ((parseDeclarations ts).value.map (List.map (ClassDecl.moveDown lines))).mapError
        (Fault.moveDown lines) := by
  have hagree := value_parseDeclarations_agree (L := .movedDown lines) h
  generalize (parseDeclarations ts).value = found at hagree ⊢
  generalize (parseDeclarations us).value = found' at hagree ⊢
  cases hagree with
  | ok hclasses =>
    refine congrArg Except.ok ?_
    induction hclasses with
    | nil => rfl
    | cons hclass _ ih => rw [List.map_cons, Likeness.classes_movedDown hclass, ih]
  | error hfaults => exact congrArg Except.error (Likeness.faults_movedDown hfaults)

end Declaration

/-! ## Moved tokens -/

namespace Terminal

theorem forall₂_ofTokens_move (lines bytes : Nat) (tokens : List Token) :
    List.Forall₂ (MovedDown lines) (ofTokens tokens)
      (ofTokens (tokens.map (Token.move lines bytes))) := by
  induction tokens with
  | nil => exact .nil
  | cons token tokens ih =>
    rw [List.map_cons, ofTokens, ofTokens, show (token.move lines bytes).kind = token.kind from rfl]
    split
    · generalize ofTokens tokens = ts at ih
      generalize ofTokens (tokens.map (Token.move lines bytes)) = us at ih
      cases ih with
      | nil => exact .nil
      | cons ht hrest =>
        refine .cons ⟨ht.kind, ht.text, ht.newlineBefore, ?_, ?_, ht.line⟩ hrest
        · rw [leading_attach, leading_attach, ht.leading]
          rfl
        · rw [doc_attach, doc_attach, ht.doc]
          rfl
    · exact .cons ⟨rfl, rfl, rfl, rfl, rfl, rfl⟩ ih

end Terminal

end ComponentDocs
