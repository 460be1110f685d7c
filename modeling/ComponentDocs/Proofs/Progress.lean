import ComponentDocs.Proofs.Captured
import ComponentDocs.Proofs.Declaration.PassesClass

/-!
# Progress

The reader never stands still.  `Routine` lists its loops, and each pass of each of them returns,
fails or has consumed a terminal (`Routine.progresses`).  So the passes of a loop come to an end, at
whatever place it starts, and what they come to is what the function of the loop yields.

The outermost loop goes through the declarations of a file and returns only at its end, so a file
that is accepted has been consumed as a whole (`eq_nil_of_declarationsPass`).
-/

namespace ComponentDocs

namespace Declaration

open Terminal

/-- The loops of the reader, and the part of a type, which is read again behind a type operator. -/
inductive Routine where
  | declarations
  | exportWords
  | statement
  | decorators
  | decoratorName
  | items (bracket : Bracket) (opener : Terminal)
  | entries (opener : Terminal)
  | expression
  | baseName
  | computedBase
  | interfaces
  | members (opener : Terminal)
  | modifiers
  | group (opener : Terminal)
  | angles (opener : Terminal)
  | typeParts
  | indexes
  | typePart
  | qualifiers
  | initializer

def Routine.loop : Routine → Loop
  | .declarations => declarationsLoop
  | .exportWords => exportWordsLoop
  | .statement => statementLoop
  | .decorators => decoratorsLoop
  | .decoratorName => decoratorNameLoop
  | .items bracket opener => itemsLoop bracket opener
  | .entries opener => entriesLoop opener
  | .expression => expressionLoop
  | .baseName => baseNameLoop
  | .computedBase => computedBaseLoop
  | .interfaces => interfacesLoop
  | .members opener => membersLoop opener
  | .modifiers => modifiersLoop
  | .group opener => groupLoop opener
  | .angles opener => anglesLoop opener
  | .typeParts => typePartsLoop
  | .indexes => indexesLoop
  | .typePart => typePartLoop
  | .qualifiers => qualifiersLoop
  | .initializer => initializerLoop

theorem Routine.progresses (routine : Routine) : routine.loop.Progresses := by
  cases routine with
  | declarations => exact progresses_declarationsLoop
  | exportWords => exact progresses_exportWordsLoop
  | statement => exact progresses_statementLoop
  | decorators => exact progresses_decoratorsLoop
  | decoratorName => exact progresses_decoratorNameLoop
  | items bracket opener => exact progresses_itemsLoop bracket opener
  | entries opener => exact progresses_entriesLoop opener
  | expression => exact progresses_expressionLoop
  | baseName => exact progresses_baseNameLoop
  | computedBase => exact progresses_computedBaseLoop
  | interfaces => exact progresses_interfacesLoop
  | members opener => exact progresses_membersLoop opener
  | modifiers => exact progresses_modifiersLoop
  | group opener => exact progresses_groupLoop opener
  | angles opener => exact progresses_anglesLoop opener
  | typeParts => exact progresses_typePartsLoop
  | indexes => exact progresses_indexesLoop
  | typePart => exact progresses_typePartLoop
  | qualifiers => exact progresses_qualifiersLoop
  | initializer => exact progresses_initializerLoop

/-- The loop over the declarations of a file returns only at the end of the file. -/
theorem eq_nil_of_declarationsPass {memory : Unit} {ts : List Terminal} {classes : List ClassDecl}
    (h : declarationsPass memory ts = .ok (.done classes)) : ts = [] := by
  cases ts with
  | nil => rfl
  | cons start rest =>
    obtain ⟨⟨decl, after⟩, -, hdone⟩ := map_eq_ok_iff.1 h
    cases hdone

end Declaration

namespace SourceFile

open Terminal Declaration

/-- The reader always makes progress.  Wherever a loop stands and whatever it remembers, its pass
returns, fails or goes on at a place past the one where it started.  So its passes come to an end,
with what its function yields, after going on at most as often as there are terminals.  Every text
is thus read to an end by the loop over its declarations, and when it is accepted, that loop has
ended where no terminal is left. -/
theorem parse_progresses :
    (∀ (routine : Routine) (memory : routine.loop.Memory) (ts : List Terminal),
        (∀ next after finish, routine.loop.pass memory ts = .ok (.next next after finish) →
          Past ts after) ∧
        ∃ later, routine.loop.Run memory ts later (routine.loop.read memory ts) ∧
          (ts :: later.map Prod.snd).Pairwise Past ∧ later.length ≤ ts.length) ∧
      ∀ name text, ∃ later : List (Unit × List Terminal),
        declarationsLoop.Run () (ofTokens (Token.scan text)) later
            (parseDeclarations (ofTokens (Token.scan text))).value ∧
          later.length ≤ (Token.scan text).length ∧
          ∀ file, (parse name text).value = .ok file →
            (ofTokens (Token.scan text) :: later.map Prod.snd).getLast? = some [] := by
  constructor
  · intro routine memory ts
    refine ⟨fun next after finish hpass => routine.progresses.past hpass, ?_⟩
    obtain ⟨later, hrun⟩ := routine.progresses.exists_run memory ts
    exact ⟨later, hrun, hrun.pairwise_past routine.progresses, hrun.length_le routine.progresses⟩
  · intro name text
    obtain ⟨later, hrun⟩ :=
      progresses_declarationsLoop.exists_run () (ofTokens (Token.scan text))
    refine ⟨later, hrun, ?_, ?_⟩
    · have hterminals : (ofTokens (Token.scan text)).length ≤ (Token.scan text).length := by
        rw [← List.length_map (f := token), map_token_ofTokens]
        exact List.length_filter_le _ _
      exact Nat.le_trans (hrun.length_le progresses_declarationsLoop) hterminals
    · intro file haccepted
      obtain ⟨classes, hclasses, -⟩ := value_parse_eq_ok_iff.1 haccepted
      exact hrun.getLast?_eq_of_ok (fun _ _ _ hpass => eq_nil_of_declarationsPass hpass) hclasses

end SourceFile

end ComponentDocs
