import ComponentDocs.Proofs.Declaration.Append

/-!
# Members and classes with more behind

The same for members and classes.  A class is closed by a brace, so it is the same class whatever
comes behind it (`value_parseClass_append`).  Inside, every parser stops before that brace.

Three parsers look further ahead than the terminal where they stop: a modifier and the words `get`
and `set` depend on the terminal after the next, an index signature on two more.  What they look at
is there, because a name and a signature have to follow.
-/

namespace ComponentDocs.Declaration

open Terminal

variable {ts after : List Terminal}

/-! ## Members -/

theorem endsName_append (hts : ts ≠ []) (more : List Terminal) :
    endsName (ts ++ more) = endsName ts := by
  cases ts with
  | nil => exact absurd rfl hts
  | cons t rest => rfl

theorem parseModifiers_append (modifiers : Modifiers)
    (hlength : 1 < (parseModifiers modifiers ts).2.length) (more : List Terminal) :
    parseModifiers modifiers (ts ++ more) =
      ((parseModifiers modifiers ts).1, (parseModifiers modifiers ts).2 ++ more) := by
  fun_induction parseModifiers modifiers ts with
  | case1 => simp at hlength
  | case2 modifiers t rest hmodifier ih =>
    have hrest : rest ≠ [] := by
      rintro rfl
      simp [endsName] at hmodifier
    rw [List.cons_append, parseModifiers, endsName_append hrest, if_pos hmodifier]
    exact ih hlength
  | case3 modifiers t rest hmodifier =>
    have hrest : rest ≠ [] := by
      rintro rfl
      simp at hlength
    rw [List.cons_append, parseModifiers, endsName_append hrest, if_neg hmodifier]

/-- An index signature shows before the end of its brackets. -/
theorem startsIndexSignature_append {t : Terminal} {rest : List Terminal}
    (hgroup : t.kind = .opening .square → ∃ after, skipGroup t .square rest = .ok after)
    (more : List Terminal) :
    startsIndexSignature (t :: rest ++ more) = startsIndexSignature (t :: rest) := by
  by_cases hsquare : t.kind = .opening .square
  · obtain ⟨after, hafter⟩ := hgroup hsquare
    rcases rest with _ | ⟨name, _ | ⟨next, rest⟩⟩
    · cases hafter
    · by_cases hname : name.kind = .word
      · simp only [skipGroup, closeBrackets, hname] at hafter
        cases hafter
      · have hword : (name.kind == .word) = false := beq_eq_false_iff_ne.2 hname
        simp [startsIndexSignature, hword]
    · rfl
  · have hkind : (t.kind == .opening .square) = false := beq_eq_false_iff_ne.2 hsquare
    cases rest with
    | nil => cases more <;> simp [startsIndexSignature, hkind]
    | cons name rest => simp [startsIndexSignature, hkind]

/-- A bracketed name is read to the end of its brackets. -/
theorem exists_skipGroup_of_parseMemberName {t : Terminal} {rest : List Terminal}
    {name : String × Bool} (h : parseMemberName (t :: rest) = .ok (name, after))
    (hsquare : t.kind = .opening .square) : ∃ final, skipGroup t .square rest = .ok final := by
  simp only [parseMemberName, hsquare] at h
  split at h
  · cases h
  · rename_i final hfinal
    exact ⟨final, hfinal⟩

theorem parseMemberKind_append {name : String × Bool}
    (hname : parseMemberName (parseMemberKind ts).2 = .ok (name, after)) (hafter : after ≠ [])
    (more : List Terminal) :
    parseMemberKind (ts ++ more) = ((parseMemberKind ts).1, (parseMemberKind ts).2 ++ more) := by
  cases ts with
  | nil => cases hname
  | cons t rest =>
    have hrest : rest ≠ [] := by
      rintro rfl
      have hlength := (parseMemberName_suffix hname).2
      have hle := (parseMemberKind_suffix [t]).length_le
      have hpos := List.length_pos_iff.2 hafter
      simp only [List.length_singleton] at hle
      omega
    rw [List.cons_append]
    unfold parseMemberKind at hname ⊢
    dsimp only at hname ⊢
    rw [endsName_append hrest, startsWith_append _ hrest]
    by_cases haccessor : ((t.isWord "get" || t.isWord "set") && !endsName rest) = true
    · rw [if_pos haccessor, if_pos haccessor]
    · rw [if_neg haccessor] at hname ⊢
      rw [if_neg haccessor]
      by_cases hconstructor : (t.isWord "constructor" && startsWith (.opening .paren) rest) = true
      · rw [if_pos hconstructor, if_pos hconstructor]
        rfl
      · rw [if_neg hconstructor] at hname ⊢
        rw [if_neg hconstructor]
        have hplace : (if startsIndexSignature (t :: rest) then
            (Member.Kind.indexSignature, t :: rest) else (.property, t :: rest)).2 = t :: rest := by
          split <;> rfl
        rw [hplace] at hname
        have hindex := startsIndexSignature_append
          (exists_skipGroup_of_parseMemberName hname) more
        rw [List.cons_append] at hindex
        rw [hindex]
        split <;> rfl

theorem parseMemberName_append {name : String × Bool}
    (h : parseMemberName ts = .ok (name, after)) (more : List Terminal) :
    parseMemberName (ts ++ more) = .ok (name, after ++ more) := by
  cases ts with
  | nil => cases h
  | cons t rest =>
    rw [parseMemberName_cons] at h
    rw [List.cons_append, parseMemberName_cons]
    generalize t.kind = kind at h ⊢
    cases kind with
    | word => cases h; rfl
    | number => cases h; rfl
    | string => cases h; rfl
    | hash =>
      cases rest with
      | nil => cases h
      | cons name others =>
        dsimp only [List.cons_append] at h ⊢
        split
        · rename_i hword
          rw [if_pos hword] at h
          cases h
          rfl
        · rename_i hword
          rw [if_neg hword] at h
          cases h
    | opening bracket =>
      cases bracket with
      | square =>
        obtain ⟨final, hgroup, h⟩ := bind_eq_ok_iff.1 h
        cases h
        dsimp only
        rw [skipGroup_append hgroup more, ok_bind, ← List.cons_append, capture_append]
      | brace => cases h
      | paren => cases h
    | _ => cases h

theorem skipNameMark_append (hts : ts ≠ []) (more : List Terminal) :
    skipNameMark (ts ++ more) = skipNameMark ts ++ more := by
  simp only [skipNameMark, startsWith_append _ hts, skipOptional_append _ hts]
  split <;> rfl

theorem skipOptionalType_append (h : skipOptionalType ts = .ok after) (hafter : after ≠ [])
    (more : List Terminal) : skipOptionalType (ts ++ more) = .ok (after ++ more) := by
  cases ts with
  | nil =>
    cases h
    exact absurd rfl hafter
  | cons t rest =>
    rw [List.cons_append]
    rw [skipOptionalType] at h ⊢
    split
    · rename_i hcolon
      rw [if_pos hcolon] at h
      exact skipType_append h hafter more
    · rename_i hcolon
      rw [if_neg hcolon] at h
      cases h
      rfl

theorem skipBody_append (h : skipBody ts = .ok after) (hafter : after ≠ [])
    (more : List Terminal) : skipBody (ts ++ more) = .ok (after ++ more) := by
  cases ts with
  | nil =>
    cases h
    exact absurd rfl hafter
  | cons t rest =>
    rw [List.cons_append]
    rw [skipBody] at h ⊢
    split
    · rename_i hbrace
      rw [if_pos hbrace] at h
      exact skipGroup_append h more
    · rename_i hbrace
      rw [if_neg hbrace] at h
      cases h
      rw [← List.cons_append, skipOptional_append _ (List.cons_ne_nil t rest)]

theorem skipParameters_append (h : skipParameters ts = .ok after) (more : List Terminal) :
    skipParameters (ts ++ more) = .ok (after ++ more) := by
  cases ts with
  | nil => cases h
  | cons t rest =>
    rw [List.cons_append]
    rw [skipParameters] at h ⊢
    split
    · rename_i hparen
      rw [if_pos hparen] at h
      exact skipGroup_append h more
    · rename_i hparen
      rw [if_neg hparen] at h
      cases h

theorem skipMethod_append (h : skipMethod ts = .ok after) (hafter : after ≠ [])
    (more : List Terminal) : skipMethod (ts ++ more) = .ok (after ++ more) := by
  obtain ⟨afterAngles, hangles, h⟩ := bind_eq_ok_iff.1 h
  obtain ⟨afterParameters, hparameters, h⟩ := bind_eq_ok_iff.1 h
  obtain ⟨afterType, htype, h⟩ := bind_eq_ok_iff.1 h
  have htypeNe := (skipBody_suffix h).ne_nil hafter
  have hparametersNe := (skipOptionalType_suffix htype).ne_nil htypeNe
  have hanglesNe := (skipParameters_suffix hparameters).ne_nil hparametersNe
  rw [skipMethod, skipOptionalAngles_append hangles hanglesNe more, ok_bind,
    skipParameters_append hparameters more, ok_bind, skipOptionalType_append htype htypeNe more,
    ok_bind, skipBody_append h hafter more]

theorem parsePropertyType_append {type : Option String}
    (h : parsePropertyType ts = .ok (type, after)) (hafter : after ≠ [])
    (more : List Terminal) : parsePropertyType (ts ++ more) = .ok (type, after ++ more) := by
  cases ts with
  | nil =>
    cases h
    exact absurd rfl hafter
  | cons t rest =>
    rw [List.cons_append]
    rw [parsePropertyType] at h ⊢
    split
    · rename_i hcolon
      rw [if_pos hcolon] at h
      obtain ⟨final, htype, h⟩ := bind_eq_ok_iff.1 h
      cases h
      rw [skipType_append htype hafter more, ok_bind, capture_append]
      rfl
    · rename_i hcolon
      rw [if_neg hcolon] at h
      cases h
      rfl

theorem skipOptionalInitializer_append (h : skipOptionalInitializer ts = .ok after)
    (hafter : after ≠ []) (more : List Terminal) :
    skipOptionalInitializer (ts ++ more) = .ok (after ++ more) := by
  cases ts with
  | nil =>
    cases h
    exact absurd rfl hafter
  | cons t rest =>
    rw [List.cons_append]
    rw [skipOptionalInitializer] at h ⊢
    split
    · rename_i hequals
      rw [if_pos hequals] at h
      exact skipInitializer_append h hafter more
    · rename_i hequals
      rw [if_neg hequals] at h
      cases h
      rfl

theorem parseSignature_append {kind : Member.Kind} {signature : Member.Kind × Option String}
    (h : parseSignature kind ts = .ok (signature, after)) (hafter : after ≠ [])
    (more : List Terminal) :
    parseSignature kind (ts ++ more) = .ok (signature, after ++ more) := by
  have hts : ts ≠ [] := (parseSignature_suffix h).ne_nil hafter
  rw [parseSignature] at h ⊢
  rw [startsWith_append _ hts, startsWith_append _ hts]
  split
  · rename_i hmethod
    rw [if_pos hmethod] at h
    obtain ⟨final, hskip, h⟩ := bind_eq_ok_iff.1 h
    cases h
    rw [skipMethod_append hskip hafter more]
    rfl
  · rename_i hmethod
    rw [if_neg hmethod] at h
    obtain ⟨⟨type, afterType⟩, htype, h⟩ := bind_eq_ok_iff.1 h
    obtain ⟨final, hinitializer, h⟩ := bind_eq_ok_iff.1 h
    cases h
    have hfinal := (skipOptional_suffix .semicolon final).ne_nil hafter
    have hafterType := (skipOptionalInitializer_suffix hinitializer).ne_nil hfinal
    rw [parsePropertyType_append htype hafterType more]
    dsimp only [ok_bind]
    rw [skipOptionalInitializer_append hinitializer hfinal more, ok_bind,
      skipOptional_append _ hfinal]
    rfl

theorem staticBlock?_append (hlength : 1 < ts.length) (more : List Terminal) :
    staticBlock? (ts ++ more) =
      (staticBlock? ts).map fun (brace, rest) => (brace, rest ++ more) := by
  match ts with
  | [] => simp at hlength
  | [t] => simp at hlength
  | word :: brace :: rest =>
    simp only [List.cons_append, staticBlock?]
    split <;> rfl

theorem parseUndecorated_append {doc : Option String} {decorators : List Decorator}
    {member : Option Member} (h : parseUndecorated doc decorators ts = .ok (member, after))
    (hafter : after ≠ []) (more : List Terminal) :
    parseUndecorated doc decorators (ts ++ more) = .ok (member, after ++ more) := by
  have hpos := List.length_pos_iff.2 hafter
  have hlength : 1 < ts.length := by
    have := (parseUndecorated_suffix h).2
    omega
  rw [parseUndecorated] at h ⊢
  rw [staticBlock?_append hlength]
  cases hblock : staticBlock? ts with
  | some block =>
    obtain ⟨brace, rest⟩ := block
    rw [hblock] at h
    obtain ⟨final, hgroup, h⟩ := bind_eq_ok_iff.1 h
    cases h
    dsimp only [Option.map_some]
    rw [skipGroup_append hgroup more]
    rfl
  | none =>
    rw [hblock] at h
    dsimp only [Option.map_none] at h ⊢
    obtain ⟨⟨⟨name, isPrivateName⟩, afterName⟩, hname, h⟩ := bind_eq_ok_iff.1 h
    obtain ⟨⟨⟨kind, type⟩, final⟩, hsignature, h⟩ := bind_eq_ok_iff.1 h
    cases h
    have hmark := (parseSignature_suffix hsignature).ne_nil hafter
    have hafterName := (skipNameMark_suffix afterName).ne_nil hmark
    -- A name and what ends the member follow the modifiers.
    have hatName := (parseMemberName_suffix hname).2
    have hstar := (parseMemberKind_suffix
      (skipOptional .star (parseModifiers .none ts).2)).length_le
    have hmodifiers := (skipOptional_suffix .star (parseModifiers .none ts).2).length_le
    have hafterPos := List.length_pos_iff.2 hafterName
    have hlong : 1 < (parseModifiers .none ts).2.length := by omega
    have hne : (parseModifiers .none ts).2 ≠ [] := by
      intro hnil
      rw [hnil] at hlong
      simp at hlong
    rw [parseModifiers_append .none hlong more]
    dsimp only
    rw [skipOptional_append _ hne, parseMemberKind_append hname hafterName more]
    dsimp only
    rw [parseMemberName_append hname more]
    dsimp only [ok_bind]
    rw [skipNameMark_append hafterName, parseSignature_append hsignature hafter more]
    rfl

theorem parseMember_append {member : Option Member} (h : parseMember ts = .ok (member, after))
    (hafter : after ≠ []) (more : List Terminal) :
    parseMember (ts ++ more) = .ok (member, after ++ more) := by
  have hts : ts ≠ [] := (parseMember_suffix h).1.ne_nil hafter
  have hhead : (ts ++ more).head? = ts.head? := by
    obtain ⟨t, rest, rfl⟩ := List.exists_cons_of_ne_nil hts
    rfl
  obtain ⟨⟨decorators, afterDecorators⟩, hdecorators, h⟩ := bind_eq_ok_iff.1 h
  have hdecoratorsNe := (parseUndecorated_suffix h).1.ne_nil hafter
  rw [parseMember, parseDecorators_append hdecorators hdecoratorsNe more, hhead]
  exact parseUndecorated_append h hafter more

/-! ## Classes -/

theorem parseBaseName_append (hafter : (parseBaseName ts).2 ≠ []) (more : List Terminal) :
    parseBaseName (ts ++ more) = ((parseBaseName ts).1, (parseBaseName ts).2 ++ more) := by
  fun_induction parseBaseName ts with
  | case1 => exact absurd rfl hafter
  | case2 => exact absurd rfl hafter
  | case3 name hname dot after hdot last final hbase ih =>
    rw [hbase] at ih
    rw [List.cons_append, List.cons_append, parseBaseName_cons, if_pos hname]
    dsimp only
    rw [if_pos hdot, ih hafter]
  | case4 name hname dot after hdot =>
    rw [List.cons_append, List.cons_append, parseBaseName_cons, if_pos hname]
    dsimp only
    rw [if_neg hdot]
  | case5 name rest hname => rw [List.cons_append, parseBaseName_cons, if_neg hname]

theorem skipComputedBase_append (h : skipComputedBase ts = .ok after) (hafter : after ≠ [])
    (more : List Terminal) : skipComputedBase (ts ++ more) = .ok (after ++ more) := by
  fun_induction skipComputedBase ts with
  | case1 =>
    cases h
    exact absurd rfl hafter
  | case2 t rest hend =>
    cases h
    rw [List.cons_append, skipComputedBase_cons, if_pos hend]
  | case3 => cases h
  | case4 t rest hend next hitem ih =>
    rw [List.cons_append, skipComputedBase_cons, if_neg hend, skipItem_append hitem more]
    exact ih h

theorem parseBase_append {heritage : Heritage} (h : parseBase ts = .ok (heritage, after))
    (hafter : after ≠ []) (more : List Terminal) :
    parseBase (ts ++ more) = .ok (heritage, after ++ more) := by
  obtain ⟨afterAngles, hangles, h⟩ := bind_eq_ok_iff.1 h
  have hanglesNe : afterAngles ≠ [] := by
    rintro rfl
    split at h
    · cases h
      exact hafter rfl
    · rw [skipComputedBase] at h
      cases h
      exact hafter rfl
  have hnameNe := (skipOptionalAngles_suffix hangles).ne_nil hanglesNe
  rw [parseBase, parseBaseName_append hnameNe more]
  dsimp only
  rw [skipOptionalAngles_append hangles hanglesNe more, ok_bind, startsWith_append _ hanglesNe]
  cases hname : (parseBaseName ts).1 with
  | some name =>
    rw [hname] at h
    dsimp only at h ⊢
    split
    · rename_i hparen
      rw [if_pos hparen] at h
      obtain ⟨final, hcomputed, h⟩ := bind_eq_ok_iff.1 h
      cases h
      rw [skipComputedBase_append hcomputed hafter more]
      rfl
    · rename_i hparen
      rw [if_neg hparen] at h
      cases h
      rfl
  | none =>
    rw [hname] at h
    obtain ⟨final, hcomputed, h⟩ := bind_eq_ok_iff.1 h
    cases h
    dsimp only
    rw [skipComputedBase_append hcomputed hafter more]
    rfl

theorem parseHeritage_append {heritage : Heritage}
    (h : parseHeritage ts = .ok (heritage, after)) (hafter : after ≠ []) (more : List Terminal) :
    parseHeritage (ts ++ more) = .ok (heritage, after ++ more) := by
  cases ts with
  | nil =>
    cases h
    exact absurd rfl hafter
  | cons t rest =>
    rw [List.cons_append]
    rw [parseHeritage] at h ⊢
    split
    · rename_i hextends
      rw [if_pos hextends] at h
      exact parseBase_append h hafter more
    · rename_i hextends
      rw [if_neg hextends] at h
      cases h
      rfl

theorem parseClassName_append (hts : ts ≠ []) (more : List Terminal) :
    parseClassName (ts ++ more) = ((parseClassName ts).1, (parseClassName ts).2 ++ more) := by
  obtain ⟨t, rest, rfl⟩ := List.exists_cons_of_ne_nil hts
  rw [List.cons_append, parseClassName, parseClassName]
  split <;> rfl

theorem parseHeader_append {header : Option String × Heritage}
    (h : parseHeader ts = .ok (header, after)) (hafter : after ≠ []) (more : List Terminal) :
    parseHeader (ts ++ more) = .ok (header, after ++ more) := by
  have hts : ts ≠ [] := (parseHeader_suffix h).ne_nil hafter
  rw [parseHeader] at h
  dsimp only at h
  obtain ⟨afterAngles, hangles, h⟩ := bind_eq_ok_iff.1 h
  obtain ⟨⟨heritage, final⟩, hheritage, h⟩ := bind_eq_ok_iff.1 h
  cases h
  have hanglesNe := (parseHeritage_suffix hheritage).ne_nil hafter
  rw [parseHeader, parseClassName_append hts more]
  dsimp only
  rw [skipOptionalAngles_append hangles hanglesNe more, ok_bind,
    parseHeritage_append hheritage hafter more]
  rfl

theorem skipToBody_append (h : skipToBody ts = .ok after) (hafter : after ≠ [])
    (more : List Terminal) : skipToBody (ts ++ more) = .ok (after ++ more) := by
  fun_induction skipToBody ts with
  | case1 =>
    cases h
    exact absurd rfl hafter
  | case2 t rest hbrace =>
    cases h
    rw [List.cons_append, skipToBody_cons, if_pos hbrace]
  | case3 => cases h
  | case4 t rest hbrace hless next hangles ih =>
    rw [List.cons_append, skipToBody_cons, if_neg hbrace, if_pos hless,
      skipAngles_append hangles more]
    exact ih h
  | case5 t rest hbrace hless ih =>
    rw [List.cons_append, skipToBody_cons, if_neg hbrace, if_neg hless]
    exact ih h

theorem skipInterfaces_append (h : skipInterfaces ts = .ok after) (hafter : after ≠ [])
    (more : List Terminal) : skipInterfaces (ts ++ more) = .ok (after ++ more) := by
  have hts : ts ≠ [] := (skipInterfaces_suffix h).ne_nil hafter
  rw [skipInterfaces] at h ⊢
  rw [startsWithWord_append _ hts]
  split
  · rename_i himplements
    rw [if_pos himplements] at h
    exact skipToBody_append h hafter more
  · rename_i himplements
    rw [if_neg himplements] at h
    cases h
    rfl

/-- Every member stops before the brace that closes the class. -/
theorem parseMembers_append {opener : Terminal} {members : List Member}
    (h : parseMembers opener ts = .ok (members, after)) (more : List Terminal) :
    parseMembers opener (ts ++ more) = .ok (members, after ++ more) := by
  fun_induction parseMembers opener ts generalizing members with
  | case1 => cases h
  | case2 t rest hsemicolon ih =>
    rw [List.cons_append, parseMembers_cons, if_pos hsemicolon]
    exact ih h
  | case3 t rest hsemicolon hbrace =>
    cases h
    rw [List.cons_append, parseMembers_cons, if_neg hsemicolon, if_pos hbrace]
  | case4 => cases h
  | case5 => cases h
  | case6 t rest hsemicolon hbrace member next hmember others final hothers ih =>
    cases h
    have hnext : next ≠ [] := by
      rintro rfl
      rw [parseMembers] at hothers
      cases hothers
    have happend := parseMember_append hmember hnext more
    rw [List.cons_append] at happend ⊢
    rw [parseMembers_cons, if_neg hsemicolon, if_neg hbrace, happend]
    dsimp only [ok_bind]
    rw [ih hothers]
    rfl

theorem parseBody_append {members : List Member} (h : parseBody ts = .ok (members, after))
    (more : List Terminal) : parseBody (ts ++ more) = .ok (members, after ++ more) := by
  obtain ⟨atBody, hinterfaces, h⟩ := bind_eq_ok_iff.1 h
  cases atBody with
  | nil => cases h
  | cons t rest =>
    rw [parseBody, skipInterfaces_append hinterfaces (List.cons_ne_nil t rest) more, ok_bind,
      List.cons_append]
    dsimp only at h ⊢
    split
    · rename_i hbrace
      rw [if_pos hbrace] at h
      exact parseMembers_append h more
    · rename_i hbrace
      rw [if_neg hbrace] at h
      cases h

/-- A class ends with its closing brace. -/
theorem value_parseClass_append {line : Nat} {doc : Option String} {decorators : List Decorator}
    {decl : Option ClassDecl} (h : (parseClass line doc decorators ts).value = .ok (decl, after))
    (more : List Terminal) :
    (parseClass line doc decorators (ts ++ more)).value = .ok (decl, after ++ more) := by
  rw [parseClass] at h ⊢
  cases hheader : parseHeader ts with
  | error fault => rw [hheader] at h; cases h
  | ok header =>
    obtain ⟨⟨name, heritage⟩, afterHeader⟩ := header
    rw [hheader] at h
    dsimp only at h
    cases hbody : parseBody afterHeader with
    | error fault => rw [hbody] at h; cases h
    | ok body =>
      obtain ⟨members, final⟩ := body
      have hheaderNe : afterHeader ≠ [] := by
        rintro rfl
        cases hbody
      rw [hbody] at h
      rw [parseHeader_append hheader hheaderNe more]
      dsimp only
      rw [parseBody_append hbody more]
      cases name <;> cases h <;> rfl

end ComponentDocs.Declaration
