import Mathlib.Data.List.Forall2
import ComponentDocs.Proofs.Declaration.LevelClass
import ComponentDocs.Proofs.Declaration.Boundary
import ComponentDocs.Proofs.Declaration.Terminal

/-!
# Brackets of accepted files

A file is accepted when every parser in turn finds a place where it can stop.  All of them close
what they open, except in one spot: between the word `class` and the brace that opens the body, a
computed base and a list of interfaces are passed over without matching brackets.  So the brackets
of an accepted file are nested, with every class at the outermost level, exactly when those of each
class header are (`SourceFile.parse_nested_iff_headers`).

`DeclaresAt` follows the reading of a file from declaration to declaration and names the places
where a class begins.
-/

namespace ComponentDocs

namespace Terminal

variable {ts middle after : List Terminal}

/-- What lies on one level can be taken away behind. -/
theorem SameLevel.cancel_right (h : SameLevel ts after) (hbehind : SameLevel middle after)
    (hsuffix : middle <:+ ts) : SameLevel ts middle := by
  obtain ⟨piece, rfl⟩ := hsuffix
  obtain ⟨behind, rfl, hnested⟩ := hbehind
  obtain ⟨whole, hwhole, hlevel⟩ := h
  rw [← List.append_assoc] at hwhole
  obtain rfl := List.append_cancel_right hwhole
  rw [List.map_append] at hlevel
  exact ⟨piece, rfl, (hnested.append_iff_left _).1 hlevel⟩

/-- What lies on one level can be taken away in front. -/
theorem SameLevel.cancel_left (h : SameLevel ts after) (hbefore : SameLevel ts middle)
    (hsuffix : after <:+ middle) : SameLevel middle after := by
  obtain ⟨behind, rfl⟩ := hsuffix
  obtain ⟨before, rfl, hnested⟩ := hbefore
  obtain ⟨whole, hwhole, hlevel⟩ := h
  rw [← List.append_assoc] at hwhole
  obtain rfl := List.append_cancel_right hwhole
  rw [List.map_append] at hlevel
  exact ⟨behind, rfl, (hnested.append_iff_right _).1 hlevel⟩

theorem level_nil_iff : SameLevel ts [] ↔ Nested (ts.map kind) := by
  constructor
  · rintro ⟨piece, hpiece, hnested⟩
    rw [hpiece, List.append_nil]
    exact hnested
  · intro h
    exact ⟨ts, (List.append_nil ts).symm, h⟩

end Terminal

namespace Declaration

open Terminal

/-! ## Where classes begin -/

/-- The place of the brace that opens the body of a class, whose word `class` stands directly before
`ts`. -/
def bodyPlace (ts : List Terminal) : Except Fault (List Terminal) :=
  parseHeader ts >>= fun (_, afterHeader) => skipInterfaces afterHeader

/-- The brackets in the header of a class, whose word `class` stands directly before `ts`, are
nested. -/
def HeaderLevel (ts : List Terminal) : Prop :=
  ∀ body, bodyPlace ts = .ok body → SameLevel ts body

/-- Reading the declarations from `ts` on comes to a class whose word `class` is the first terminal
of `place`. -/
inductive DeclaresAt (place : List Terminal) : List Terminal → Prop
  | here {start : Terminal} {rest : List Terminal} {decorators : List Decorator}
      (hpreamble : parsePreamble (start :: rest) = .ok (decorators, place))
      (hclass : startsWithWord "class" place = true) : DeclaresAt place (start :: rest)
  | later {start : Terminal} {rest after : List Terminal} {decl : Option ClassDecl}
      (hdeclaration : (parseDeclaration start rest).value = .ok (decl, after))
      (hlater : DeclaresAt place after) : DeclaresAt place (start :: rest)

/-- The class `decl` is what is read at `place`, from its word `class` on. -/
def ReadAt (place : List Terminal) (decl : ClassDecl) : Prop :=
  ∃ keyword behind after, place = keyword :: behind ∧ keyword.isWord "class" = true ∧
    (parseClass decl.line decl.doc decl.decorators behind).value = .ok (some decl, after)

variable {ts after place : List Terminal}

theorem DeclaresAt.suffix (h : DeclaresAt place ts) : place <:+ ts := by
  induction h with
  | here hpreamble hclass => exact parsePreamble_suffix hpreamble
  | later hdeclaration hlater ih => exact ih.trans (parseDeclaration_suffix hdeclaration)

/-- The body of a class closes what it opens. -/
theorem value_parseClass_level {line : Nat} {doc : Option String} {decorators : List Decorator}
    {decl : Option ClassDecl} (h : (parseClass line doc decorators ts).value = .ok (decl, after)) :
    ∃ body, bodyPlace ts = .ok body ∧ body <:+ ts ∧ SameLevel body after := by
  rw [value_parseClass] at h
  obtain ⟨⟨⟨name, heritage⟩, afterHeader⟩, hheader, h⟩ := bind_eq_ok_iff.1 h
  obtain ⟨⟨members, final⟩, hbody, h⟩ := bind_eq_ok_iff.1 h
  cases h
  obtain ⟨body, hinterfaces, hbody⟩ := bind_eq_ok_iff.1 hbody
  have hplace : bodyPlace ts = .ok body := by
    rw [bodyPlace, hheader]
    exact hinterfaces
  refine ⟨body, hplace, (skipInterfaces_suffix hinterfaces).trans (parseHeader_suffix hheader), ?_⟩
  split at hbody
  · cases hbody
  · split at hbody
    · rename_i hopening
      exact (parseMembers_closes hbody).level hopening
    · cases hbody

/-- A class is reported with what was found before its word `class`. -/
theorem readAt_of_parseClass {line : Nat} {doc : Option String} {decorators : List Decorator}
    {decl : ClassDecl} {keyword : Terminal} (hclass : keyword.isWord "class" = true)
    (h : (parseClass line doc decorators ts).value = .ok (some decl, after)) :
    ReadAt (keyword :: ts) decl := by
  refine ⟨keyword, ts, after, rfl, hclass, ?_⟩
  have hdecl := h
  rw [value_parseClass] at hdecl
  obtain ⟨⟨⟨name, heritage⟩, afterHeader⟩, hheader, hdecl⟩ := bind_eq_ok_iff.1 hdecl
  obtain ⟨⟨members, final⟩, hbody, hdecl⟩ := bind_eq_ok_iff.1 hdecl
  cases name with
  | none => cases hdecl
  | some name =>
    cases hdecl
    exact h

/-- After its preamble a declaration is a statement on one level or a class. -/
theorem parseDeclaration_cases {start : Terminal} {rest : List Terminal} {decl : Option ClassDecl}
    (h : (parseDeclaration start rest).value = .ok (decl, after)) :
    ∃ decorators place, parsePreamble (start :: rest) = .ok (decorators, place) ∧
      (startsWithWord "class" place = false ∧ decl = none ∧ SameLevel place after ∨
        ∃ keyword behind, place = keyword :: behind ∧ keyword.isWord "class" = true ∧
          (parseClass start.line start.doc decorators behind).value = .ok (decl, after)) := by
  rw [value_parseDeclaration] at h
  obtain ⟨⟨decorators, place⟩, hpreamble, h⟩ := bind_eq_ok_iff.1 h
  refine ⟨decorators, place, hpreamble, ?_⟩
  dsimp only at h
  unfold parseClassOrStatement at h
  split at h
  · cases h
    exact .inl ⟨rfl, rfl, .refl _⟩
  · rename_i keyword behind
    split at h
    · rename_i hclass
      exact .inr ⟨keyword, behind, rfl, hclass, h⟩
    · rename_i hclass
      obtain ⟨final, hstatement, h⟩ := map_eq_ok_iff.1 h
      cases h
      exact .inl ⟨Bool.eq_false_iff.2 hclass, rfl, skipStatement_level hstatement⟩

/-- The next class, or else the end of the file, is on the level of the place where reading
starts. -/
theorem exists_next_class_level {classes : List ClassDecl} {ts : List Terminal}
    (h : (parseDeclarations ts).value = .ok classes) :
    ∃ place, (place = [] ∨ DeclaresAt place ts) ∧ SameLevel ts place := by
  cases ts with
  | nil => exact ⟨[], .inl rfl, .refl _⟩
  | cons start rest =>
    rw [value_parseDeclarations_cons] at h
    obtain ⟨⟨decl, after⟩, hdeclaration, h⟩ := bind_eq_ok_iff.1 h
    obtain ⟨decorators, place, hpreamble, hcases⟩ := parseDeclaration_cases hdeclaration
    have hlevel := parsePreamble_level hpreamble
    rcases hcases with ⟨-, -, hstatement⟩ | ⟨keyword, behind, rfl, hclass, -⟩
    · obtain ⟨others, hothers, -⟩ := map_eq_ok_iff.1 h
      have hshorter := parseDeclaration_length_lt hdeclaration
      obtain ⟨next, hnext, hnextLevel⟩ := exists_next_class_level hothers
      exact ⟨next, hnext.imp_right (.later hdeclaration),
        (hlevel.trans hstatement).trans hnextLevel⟩
    · exact ⟨keyword :: behind, .inr (.here hpreamble hclass), hlevel⟩
termination_by ts.length

/-! ## Headers decide -/

/-- When the brackets of every header are nested, so are those of the file, and classes are on its
outermost level. -/
theorem level_of_headers {classes : List ClassDecl} {ts : List Terminal}
    (h : (parseDeclarations ts).value = .ok classes)
    (hheaders : ∀ keyword behind, DeclaresAt (keyword :: behind) ts → HeaderLevel behind) :
    SameLevel ts [] ∧ ∀ place, DeclaresAt place ts → SameLevel ts place := by
  cases ts with
  | nil =>
    refine ⟨.refl _, ?_⟩
    intro place hplace
    cases hplace
  | cons start rest =>
    rw [value_parseDeclarations_cons] at h
    obtain ⟨⟨decl, after⟩, hdeclaration, h⟩ := bind_eq_ok_iff.1 h
    have hafter : SameLevel (start :: rest) after := by
      obtain ⟨decorators, place, hpreamble, hcases⟩ := parseDeclaration_cases hdeclaration
      have hlevel := parsePreamble_level hpreamble
      rcases hcases with ⟨-, -, hstatement⟩ | ⟨keyword, behind, rfl, hclass, hparsed⟩
      · exact hlevel.trans hstatement
      · obtain ⟨body, hbody, -, hbodyLevel⟩ := value_parseClass_level hparsed
        have hheader := hheaders keyword behind (.here hpreamble hclass) body hbody
        exact hlevel.trans (.cons (isBracket_of_isWord hclass) (hheader.trans hbodyLevel))
    obtain ⟨others, hothers, -⟩ := map_eq_ok_iff.1 h
    have hshorter := parseDeclaration_length_lt hdeclaration
    obtain ⟨hend, hplaces⟩ := level_of_headers hothers fun keyword behind hplace =>
      hheaders keyword behind (.later hdeclaration hplace)
    refine ⟨hafter.trans hend, ?_⟩
    intro place hplace
    cases hplace with
    | here hpreamble hclass => exact parsePreamble_level hpreamble
    | later hdeclaration' hlater =>
      rw [hdeclaration] at hdeclaration'
      cases hdeclaration'
      exact hafter.trans (hplaces place hlater)
termination_by ts.length

/-- When the brackets of a file are nested and its classes are on the outermost level, the brackets
of every header are nested. -/
theorem headers_of_level {classes : List ClassDecl} {ts : List Terminal}
    (h : (parseDeclarations ts).value = .ok classes) (hend : SameLevel ts [])
    (hplaces : ∀ place, DeclaresAt place ts → SameLevel ts place) (keyword : Terminal)
    (behind : List Terminal) (hplace : DeclaresAt (keyword :: behind) ts) :
    HeaderLevel behind := by
  cases ts with
  | nil => cases hplace
  | cons start rest =>
    rw [value_parseDeclarations_cons] at h
    obtain ⟨⟨decl, after⟩, hdeclaration, h⟩ := bind_eq_ok_iff.1 h
    obtain ⟨others, hothers, -⟩ := map_eq_ok_iff.1 h
    have hsuffix := parseDeclaration_suffix hdeclaration
    -- The next class, or the end, is on the outermost level and on that of `after`.
    have hafter : SameLevel (start :: rest) after := by
      obtain ⟨next, hnext, hnextLevel⟩ := exists_next_class_level hothers
      refine SameLevel.cancel_right ?_ hnextLevel hsuffix
      rcases hnext with rfl | hnext
      · exact hend
      · exact hplaces next (.later hdeclaration hnext)
    cases hplace with
    | here hpreamble hclass =>
      obtain ⟨decorators, place, hpreamble', hcases⟩ := parseDeclaration_cases hdeclaration
      rw [hpreamble] at hpreamble'
      cases hpreamble'
      rcases hcases with ⟨hclass', -, -⟩ | ⟨_, _, heq, -, hparsed⟩
      · rw [hclass] at hclass'
        cases hclass'
      · cases heq
        obtain ⟨body, hbody, hbodySuffix, hbodyLevel⟩ := value_parseClass_level hparsed
        have hclassLevel : SameLevel (start :: rest) (keyword :: behind) :=
          parsePreamble_level hpreamble
        have hkeyword : SameLevel (start :: rest) behind :=
          hclassLevel.trans (.cons (isBracket_of_isWord hclass) (.refl behind))
        have hwhole : SameLevel behind after := hafter.cancel_left hkeyword
          (parseClass_suffix hparsed)
        intro body' hbody'
        rw [hbody] at hbody'
        cases hbody'
        exact hwhole.cancel_right hbodyLevel hbodySuffix
    | later hdeclaration' hlater =>
      rw [hdeclaration] at hdeclaration'
      cases hdeclaration'
      have hshorter := parseDeclaration_length_lt hdeclaration
      refine headers_of_level hothers (hend.cancel_left hafter List.nil_suffix) ?_ keyword behind
        hlater
      intro place hplace
      exact (hplaces place (.later hdeclaration hplace)).cancel_left hafter hplace.suffix
termination_by ts.length

/-! ## Reported classes -/

/-- The classes that are reported are read one after the other at places where a class begins. -/
theorem exists_places {classes : List ClassDecl} {ts : List Terminal}
    (h : (parseDeclarations ts).value = .ok classes) :
    ∃ places, List.Forall₂ ReadAt places classes ∧
      places.Pairwise (fun earlier later => later <:+ earlier.tail) ∧
      ∀ place ∈ places, DeclaresAt place ts := by
  cases ts with
  | nil =>
    rw [parseDeclarations] at h
    cases h
    exact ⟨[], .nil, .nil, by simp⟩
  | cons start rest =>
    rw [value_parseDeclarations_cons] at h
    obtain ⟨⟨decl, after⟩, hdeclaration, h⟩ := bind_eq_ok_iff.1 h
    obtain ⟨others, hothers, rfl⟩ := map_eq_ok_iff.1 h
    have hshorter := parseDeclaration_length_lt hdeclaration
    obtain ⟨places, hread, hordered, hplaces⟩ := exists_places hothers
    obtain ⟨decorators, place, hpreamble, hcases⟩ := parseDeclaration_cases hdeclaration
    cases decl with
    | none =>
      refine ⟨places, hread, hordered, ?_⟩
      intro place hplace
      exact .later hdeclaration (hplaces place hplace)
    | some decl =>
      rcases hcases with ⟨-, hnone, -⟩ | ⟨keyword, behind, rfl, hclass, hparsed⟩
      · cases hnone
      · refine ⟨(keyword :: behind) :: places,
          .cons (readAt_of_parseClass hclass hparsed) hread, .cons ?_ hordered, ?_⟩
        · intro later hlater
          exact (hplaces later hlater).suffix.trans (parseClass_suffix hparsed)
        · intro place hplace
          rcases List.mem_cons.1 hplace with rfl | hplace
          · exact .here hpreamble hclass
          · exact .later hdeclaration (hplaces place hplace)
termination_by ts.length

end Declaration

/-! ## Whole files -/

namespace SourceFile

open Terminal Declaration

/-- Brackets of an accepted text.  Its classes are read one after the other, each from its word
`class` on.  The brackets of the text are properly nested, with every word `class` of a declaration
outside of all brackets, if and only if the brackets are properly nested between each such word and
the brace that opens the body of the class. -/
theorem parse_nested_iff_headers {name text : String} {file : SourceFile}
    (haccepted : (parse name text).value = .ok file) :
    (∃ places, List.Forall₂ ReadAt places file.classes ∧
        places.Pairwise (fun earlier later => later <:+ earlier.tail) ∧
        ∀ place ∈ places, DeclaresAt place (ofTokens (Token.scan text))) ∧
      (Nested (((Token.scan text).filter fun token => !token.kind.isComment).map Token.kind) ∧
          (∀ place, DeclaresAt place (ofTokens (Token.scan text)) →
            SameLevel (ofTokens (Token.scan text)) place) ↔
        ∀ keyword behind, DeclaresAt (keyword :: behind) (ofTokens (Token.scan text)) →
          HeaderLevel behind) := by
  cases hclasses : (parseDeclarations (ofTokens (Token.scan text))).value with
  | error fault =>
    rw [parse, hclasses] at haccepted
    cases haccepted
  | ok classes =>
    rw [parse, hclasses] at haccepted
    cases haccepted
    refine ⟨exists_places hclasses, ?_⟩
    rw [← map_kind_ofTokens, ← level_nil_iff]
    constructor
    · rintro ⟨hend, hplaces⟩
      exact headers_of_level hclasses hend hplaces
    · exact level_of_headers hclasses

/-- The parenthesis that is never closed, and around the second class, is in a header. -/
theorem parse_nested_iff_headers_open :
    (parse "a.ts" "class A implements ( \x7b\x7d\nclass B \x7b\x7d").value =
        .ok ⟨"a.ts", [⟨"A", 1, none, [], none, []⟩, ⟨"B", 2, none, [], none, []⟩]⟩ ∧
      ∃ keyword behind,
        DeclaresAt (keyword :: behind)
          (ofTokens (Token.scan "class A implements ( \x7b\x7d\nclass B \x7b\x7d")) ∧
        ¬HeaderLevel behind := by
  have haccepted : (parse "a.ts" "class A implements ( \x7b\x7d\nclass B \x7b\x7d").value =
      .ok ⟨"a.ts", [⟨"A", 1, none, [], none, []⟩, ⟨"B", 2, none, [], none, []⟩]⟩ := by
    decide +kernel
  refine ⟨haccepted, ?_⟩
  by_contra hheaders
  have hnested := (parse_nested_iff_headers haccepted).2.2 fun keyword behind hplace => by
    by_contra hheader
    exact hheaders ⟨keyword, behind, hplace, hheader⟩
  exact absurd hnested.1 (by decide +kernel)

/-- A closing parenthesis in a header closes nothing, and the file is accepted. -/
theorem parse_accepts_stray_parenthesis :
    (parse "a.ts" "class A extends ) \x7b\x7d").value =
        .ok ⟨"a.ts", [⟨"A", 1, none, [], none, []⟩]⟩ ∧
      ¬Nested (((Token.scan "class A extends ) \x7b\x7d").filter fun token =>
        !token.kind.isComment).map Token.kind) := by
  decide +kernel

end SourceFile

end ComponentDocs
