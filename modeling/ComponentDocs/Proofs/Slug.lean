import Mathlib.Data.List.Infix
import ComponentDocs.Slug
import ComponentDocs.Proofs.Placement

/-!
# Slugs of class names

A class name consists of letters, digits, underscores and dollar signs.  Its route slug is clean:
`IsRouteSlug` says what it is made of, where its hyphens stand and how many there are, and that
making a slug of it again changes nothing.

A character that is dropped could leave two hyphens next to each other, or one at an end.  This does
not happen because a hyphen is only put between two characters that are kept, a lower-case letter or
digit and an upper-case letter.  `Hyphenated` is that property of a text, and it holds of a slug
together with the character before it (`hyphenated_slugAfter`).
-/

namespace ComponentDocs

open Text Token Literal

/-! ## Lower case -/

namespace Text

theorem lowercaseChar_of_isAscii {c : Char} (hc : isAscii c = true) :
    lowercaseChar c = [c.toLower] :=
  forall_isAscii (p := fun c => lowercaseChar c = [c.toLower]) (by decide) hc

theorem lowercaseAfter_of_isAscii {cs : List Char} (hcs : ∀ c ∈ cs, isAscii c = true)
    (before : List Char) : lowercaseAfter before cs = cs.map Char.toLower := by
  induction cs generalizing before with
  | nil => rfl
  | cons c cs ih =>
    have hc := hcs c List.mem_cons_self
    have hsigma : c ≠ 'Σ' := by
      rintro rfl
      cases hc
    rw [lowercaseAfter, if_neg hsigma, lowercaseChar_of_isAscii hc,
      ih fun d hd => hcs d (List.mem_cons_of_mem c hd)]
    rfl

end Text

namespace Slug

/-- The slug is a clean form of the name. -/
structure IsRouteSlug (name slug : String) : Prop where
  alphabet : ∀ c ∈ slug.toList, isAsciiLower c = true ∨ isAsciiDigit c = true ∨ c = '-'
  no_leading : slug.toList.head? ≠ some '-'
  no_trailing : slug.toList.getLast? ≠ some '-'
  no_doubled : ¬ ['-', '-'] <:+: slug.toList
  /-- Without its hyphens it is the lower-case name without underscores and dollar signs. -/
  letters : slug.toList.filter (fun c => c ≠ '-') =
    (name.toList.filter fun c => c ≠ '_' ∧ c ≠ '$').map Char.toLower
  /-- There is a hyphen for every upper-case letter directly behind a lower-case letter or digit. -/
  hyphens : slug.toList.count '-' =
    (name.toList.zip name.toList.tail).countP fun (p, c) => (p.isLower || p.isDigit) && c.isUpper
  route_eq : route slug = slug
  anchor_eq : anchor slug = slug

/-! ## Characters -/

theorem anchorChars_of_isAscii {cs : List Char} (hcs : ∀ c ∈ cs, isAscii c = true) :
    anchorChars cs = cs.flatMap fun c => anchorChar c.toLower := by
  rw [anchorChars, lowercase, lowercaseAfter_of_isAscii hcs, List.flatMap_map]

/-- A character of a word is kept as its lower-case form, and dropped if it is no letter or
digit. -/
theorem anchorChar_of_isWordPart {c : Char} (hc : isWordPart c = true) :
    anchorChar c.toLower = if c ≠ '_' ∧ c ≠ '$' then [c.toLower] else [] :=
  forall_isWordPart
    (p := fun c => anchorChar c.toLower = if c ≠ '_' ∧ c ≠ '$' then [c.toLower] else [])
    (by decide) hc

theorem toLower_of_isWordPart {c : Char} (hc : isWordPart c = true) (hkept : c ≠ '_' ∧ c ≠ '$') :
    isAsciiLower c.toLower = true ∨ isAsciiDigit c.toLower = true :=
  forall_isWordPart (p := fun c => c ≠ '_' ∧ c ≠ '$' →
    isAsciiLower c.toLower = true ∨ isAsciiDigit c.toLower = true) (by decide) hc hkept

theorem ne_hyphen_of_mem_anchorChar {c : Char} (hc : isWordPart c = true) :
    ∀ d ∈ anchorChar c.toLower, d ≠ '-' := by
  have hnot : '-' ∉ anchorChar c.toLower :=
    forall_isWordPart (p := fun c => '-' ∉ anchorChar c.toLower) (by decide) hc
  exact fun d hd heq => hnot (heq ▸ hd)

theorem startsWord_none (c : Char) : startsWord none c = false :=
  Bool.and_false _

theorem startsWord_some {p c : Char} (hp : isWordPart p = true) (hc : isWordPart c = true) :
    startsWord (some p) c = ((p.isLower || p.isDigit) && c.isUpper) := by
  have hupper : isUppercase c = c.isUpper :=
    forall_isWordPart (p := fun c => isUppercase c = c.isUpper) (by decide) hc
  have hlower : isLowercase p = p.isLower :=
    forall_isWordPart (p := fun c => isLowercase c = c.isLower) (by decide) hp
  have hdigit : isAsciiDigit p = p.isDigit :=
    forall_isWordPart (p := fun c => isAsciiDigit c = c.isDigit) (by decide) hp
  rw [startsWord, hupper, hlower, hdigit, Bool.and_comm]

/-- A hyphen is put between two characters that are kept. -/
theorem kept_of_startsWord {p c : Char} (h : startsWord (some p) c = true)
    (hp : isWordPart p = true) (hc : isWordPart c = true) :
    (p ≠ '_' ∧ p ≠ '$') ∧ c ≠ '_' ∧ c ≠ '$' := by
  rw [startsWord_some hp hc] at h
  refine ⟨⟨?_, ?_⟩, ?_, ?_⟩
  · rintro rfl
    cases h
  · rintro rfl
    cases h
  · rintro rfl
    simp at h
  · rintro rfl
    simp at h

/-! ## The slug of the rest of a name -/

/-- What a name contributes to its slug from some point on, behind the character `previous`. -/
def slugAfter (previous : Option Char) (cs : List Char) : List Char :=
  (hyphenate previous cs).flatMap fun c => anchorChar c.toLower

theorem slugAfter_cons (previous : Option Char) (c : Char) (rest : List Char) :
    slugAfter previous (c :: rest) =
      (if startsWord previous c then ['-'] else []) ++
        (anchorChar c.toLower ++ slugAfter (some c) rest) := by
  rw [slugAfter, hyphenate]
  split <;> rfl

theorem mem_hyphenate {previous : Option Char} {cs : List Char} {c : Char}
    (h : c ∈ hyphenate previous cs) : c ∈ cs ∨ c = '-' := by
  fun_induction hyphenate previous cs with
  | case1 => cases h
  | case2 previous d rest _ ih =>
    simp only [List.mem_cons] at h ⊢
    tauto
  | case3 previous d rest _ ih =>
    simp only [List.mem_cons] at h ⊢
    tauto

theorem toList_route {name : String} (hname : ∀ c ∈ name.toList, isWordPart c = true) :
    (route name).toList = slugAfter none name.toList := by
  rw [route, String.toList_ofList, slugAfter]
  refine anchorChars_of_isAscii fun c hc => ?_
  rcases mem_hyphenate hc with hc | rfl
  · exact isAscii_of_isWordPart (hname c hc)
  · rfl

section

variable {previous : Option Char} {cs : List Char}

theorem alphabet_slugAfter (hcs : ∀ c ∈ cs, isWordPart c = true) :
    ∀ c ∈ slugAfter previous cs, isAsciiLower c = true ∨ isAsciiDigit c = true ∨ c = '-' := by
  intro c hc
  obtain ⟨d, hd, hc⟩ := List.mem_flatMap.1 hc
  rcases mem_hyphenate hd with hd | rfl
  · rw [anchorChar_of_isWordPart (hcs d hd)] at hc
    split at hc
    · rename_i hkept
      rw [List.mem_singleton.1 hc]
      exact (toLower_of_isWordPart (hcs d hd) hkept).imp_right .inl
    · cases hc
  · exact .inr (.inr (List.mem_singleton.1 hc))

theorem filter_slugAfter (hcs : ∀ c ∈ cs, isWordPart c = true) :
    (slugAfter previous cs).filter (fun c => c ≠ '-') =
      (cs.filter fun c => c ≠ '_' ∧ c ≠ '$').map Char.toLower := by
  induction cs generalizing previous with
  | nil => rfl
  | cons c rest ih =>
    obtain ⟨hc, hrest⟩ := List.forall_mem_cons.1 hcs
    have hmark : (if startsWord previous c then ['-'] else []).filter (fun c => c ≠ '-') = [] := by
      split <;> rfl
    have hkept : (anchorChar c.toLower).filter (fun c => c ≠ '-') = anchorChar c.toLower :=
      List.filter_eq_self.2 fun d hd => decide_eq_true (ne_hyphen_of_mem_anchorChar hc d hd)
    rw [slugAfter_cons, List.filter_append, List.filter_append, hmark, hkept, ih hrest,
      anchorChar_of_isWordPart hc, List.filter_cons, List.nil_append]
    by_cases h : c ≠ '_' ∧ c ≠ '$'
    · rw [if_pos h, if_pos (decide_eq_true h)]
      rfl
    · rw [if_neg h, if_neg (by rwa [decide_eq_true_eq])]
      rfl

theorem count_slugAfter (hprevious : ∀ p ∈ previous, isWordPart p = true)
    (hcs : ∀ c ∈ cs, isWordPart c = true) :
    (slugAfter previous cs).count '-' =
      ((previous.toList ++ cs).zip (previous.toList ++ cs).tail).countP fun (p, c) =>
        (p.isLower || p.isDigit) && c.isUpper := by
  induction cs generalizing previous with
  | nil => cases previous <;> rfl
  | cons c rest ih =>
    obtain ⟨hc, hrest⟩ := List.forall_mem_cons.1 hcs
    have hkept : (anchorChar c.toLower).count '-' = 0 :=
      List.count_eq_zero.2 fun hmem => ne_hyphen_of_mem_anchorChar hc _ hmem rfl
    have hcurrent : ∀ p ∈ some c, isWordPart p = true := fun p hp => Option.some.inj hp ▸ hc
    have hfollowing := ih hcurrent hrest
    rw [slugAfter_cons, List.count_append, List.count_append, hkept, Nat.zero_add, hfollowing]
    cases previous with
    | none =>
      rw [startsWord_none]
      exact Nat.zero_add _
    | some p =>
      have hmark : (if startsWord (some p) c then ['-'] else []).count '-' =
          if (p.isLower || p.isDigit) && c.isUpper then 1 else 0 := by
        rw [startsWord_some (hprevious p rfl) hc]
        split <;> rfl
      rw [hmark, Nat.add_comm]
      exact (@List.countP_cons _ (fun (p, c) => (p.isLower || p.isDigit) && c.isUpper) (p, c)
        ((c :: rest).zip rest)).symm

end

/-! ## Hyphens -/

/-- Every hyphen of the text stands between two characters that are none. -/
inductive Hyphenated : List Char → Prop
  | nil : Hyphenated []
  | cons {c : Char} {rest : List Char} (hc : c ≠ '-') (hrest : Hyphenated rest) :
      Hyphenated (c :: rest)
  | hyphen {c : Char} {rest : List Char} (hc : c ≠ '-') (hrest : Hyphenated rest)
      (hne : rest ≠ []) : Hyphenated (c :: '-' :: rest)

namespace Hyphenated

variable {cs : List Char}

theorem head?_ne (h : Hyphenated cs) : cs.head? ≠ some '-' := by
  cases h with
  | nil => simp
  | cons hc hrest => simpa using hc
  | hyphen hc hrest hne => simpa using hc

theorem getLast?_ne (h : Hyphenated cs) : cs.getLast? ≠ some '-' := by
  induction h with
  | nil => simp
  | @cons c rest hc hrest ih =>
    cases rest with
    | nil => simpa using hc
    | cons d rest => rwa [List.getLast?_cons_cons]
  | @hyphen c rest hc hrest hne ih =>
    cases rest with
    | nil => exact absurd rfl hne
    | cons d rest => rwa [List.getLast?_cons_cons, List.getLast?_cons_cons]

theorem not_doubled (h : Hyphenated cs) : ¬ ['-', '-'] <:+: cs := by
  induction h with
  | nil => simp
  | @cons c rest hc hrest ih =>
    rw [List.infix_cons_iff, List.cons_prefix_cons]
    exact not_or.2 ⟨fun hstart => hc hstart.1.symm, ih⟩
  | @hyphen c rest hc hrest hne ih =>
    rw [List.infix_cons_iff, List.cons_prefix_cons, List.infix_cons_iff, List.cons_prefix_cons]
    refine not_or.2 ⟨fun hstart => hc hstart.1.symm, not_or.2 ⟨fun hstart => ?_, ih⟩⟩
    obtain ⟨-, more, hmore⟩ := List.cons_prefix_cons.1 hstart
    exact head?_ne hrest (by rw [← hmore]; rfl)

end Hyphenated

/-- A character of a word, as far as it is kept, can stand in front of a hyphenated text. -/
theorem Hyphenated.anchorChar_append {c : Char} {cs : List Char} (hc : isWordPart c = true)
    (h : Hyphenated cs) : Hyphenated (anchorChar c.toLower ++ cs) := by
  have hne := ne_hyphen_of_mem_anchorChar hc
  rw [anchorChar_of_isWordPart hc] at hne ⊢
  split at hne
  · rename_i hkept
    rw [if_pos hkept]
    exact .cons (hne _ List.mem_cons_self) h
  · rename_i hdropped
    rwa [if_neg hdropped]

/-- The slug of the rest of a name, together with what is kept of the character before it. -/
theorem hyphenated_slugAfter {previous : Option Char} {cs : List Char}
    (hprevious : ∀ p ∈ previous, isWordPart p = true) (hcs : ∀ c ∈ cs, isWordPart c = true) :
    Hyphenated ((previous.toList.flatMap fun p => anchorChar p.toLower) ++
      slugAfter previous cs) := by
  induction cs generalizing previous with
  | nil =>
    cases previous with
    | none => exact .nil
    | some p =>
      rw [Option.toList_some, List.flatMap_singleton]
      exact Hyphenated.nil.anchorChar_append (hprevious p rfl)
  | cons c rest ih =>
    obtain ⟨hc, hrest⟩ := List.forall_mem_cons.1 hcs
    have hcurrent : ∀ p ∈ some c, isWordPart p = true := fun p hp => Option.some.inj hp ▸ hc
    have hbehind := ih hcurrent hrest
    rw [Option.toList_some, List.flatMap_singleton] at hbehind
    rw [slugAfter_cons]
    cases previous with
    | none =>
      rw [startsWord_none]
      exact hbehind
    | some p =>
      have hp := hprevious p rfl
      rw [Option.toList_some, List.flatMap_singleton]
      by_cases hstart : startsWord (some p) c = true
      · -- Both characters are kept, so the hyphen stands between them.
        obtain ⟨hkeptBefore, hkept⟩ := kept_of_startsWord hstart hp hc
        have hne := ne_hyphen_of_mem_anchorChar hp
        rw [anchorChar_of_isWordPart hc, if_pos hkept] at hbehind ⊢
        rw [anchorChar_of_isWordPart hp, if_pos hkeptBefore] at hne ⊢
        rw [if_pos hstart]
        exact .hyphen (hne _ List.mem_cons_self) hbehind (List.cons_ne_nil _ _)
      · rw [if_neg hstart]
        exact hbehind.anchorChar_append hp

/-! ## Slugs of slugs -/

/-- Characters of a slug are no upper-case letters and are kept as they are. -/
theorem slugChar_stable {c : Char} (hc : isAsciiLower c = true ∨ isAsciiDigit c = true ∨ c = '-') :
    isAscii c = true ∧ isUppercase c = false ∧ anchorChar c.toLower = [c] := by
  rcases or_assoc.2 hc with hc | rfl
  · have hpart : isWordPart c = true := by
      rcases hc with hc | hc
      · have hlower : ('a' ≤ c && c ≤ 'z') = true := hc
        rw [isWordPart, isWordStart, isAsciiLetter, hlower]
        rfl
      · rw [isWordPart, hc, Bool.or_true]
    have hstable := forall_isWordPart (p := fun c => isAsciiLower c = true ∨ isAsciiDigit c = true →
      isUppercase c = false ∧ anchorChar c.toLower = [c]) (by decide) hpart
    exact ⟨isAscii_of_isWordPart hpart, hstable hc⟩
  · decide

theorem hyphenate_eq_self {cs : List Char} (hcs : ∀ c ∈ cs, isUppercase c = false)
    (previous : Option Char) : hyphenate previous cs = cs := by
  induction cs generalizing previous with
  | nil => rfl
  | cons c rest ih =>
    obtain ⟨hc, hrest⟩ := List.forall_mem_cons.1 hcs
    have hstart : startsWord previous c = false := by
      unfold startsWord
      rw [hc, Bool.false_and]
    rw [hyphenate, hstart, if_neg Bool.false_ne_true, ih hrest]

/-- A text made of the characters of slugs is its own anchor and its own route slug. -/
theorem route_and_anchor_eq_self {slug : String}
    (hslug : ∀ c ∈ slug.toList, isAsciiLower c = true ∨ isAsciiDigit c = true ∨ c = '-') :
    route slug = slug ∧ anchor slug = slug := by
  have hanchor : anchorChars slug.toList = slug.toList := by
    rw [anchorChars_of_isAscii fun c hc => (slugChar_stable (hslug c hc)).1]
    calc slug.toList.flatMap (fun c => anchorChar c.toLower)
        = slug.toList.flatMap (fun c => [c]) :=
          List.flatMap_congr fun c hc => (slugChar_stable (hslug c hc)).2.2
      _ = slug.toList := List.flatMap_singleton' _
  have hhyphenate : hyphenate none slug.toList = slug.toList :=
    hyphenate_eq_self (fun c hc => (slugChar_stable (hslug c hc)).2.1) none
  rw [route, anchor, hhyphenate, hanchor, String.ofList_toList]
  exact ⟨rfl, rfl⟩

theorem isRouteSlug_of_isWordPart {name : String} (hname : ∀ c ∈ name.toList, isWordPart c = true) :
    IsRouteSlug name (route name) := by
  have htoList := toList_route hname
  have hnone : ∀ p ∈ (none : Option Char), isWordPart p = true := fun p hp => nomatch hp
  have hhyphenated := hyphenated_slugAfter hnone hname
  have halphabet : ∀ c ∈ (route name).toList,
      isAsciiLower c = true ∨ isAsciiDigit c = true ∨ c = '-' := by
    rw [htoList]
    exact alphabet_slugAfter hname
  obtain ⟨hroute, hanchor⟩ := route_and_anchor_eq_self halphabet
  constructor
  case alphabet => exact halphabet
  case route_eq => exact hroute
  case anchor_eq => exact hanchor
  all_goals rw [htoList]
  case no_leading => exact hhyphenated.head?_ne
  case no_trailing => exact hhyphenated.getLast?_ne
  case no_doubled => exact hhyphenated.not_doubled
  case letters => exact filter_slugAfter hname
  case hyphens => exact count_slugAfter hnone hname

end Slug

/-! ## Names of classes -/

theorem Terminal.Placed.exists_stands {ts after : List Terminal} {ds : List Reported} {d : Reported}
    (h : Placed ts ds after) (hd : d ∈ ds) : ∃ place, place <:+ ts ∧ Stands place d := by
  induction h with
  | nil => cases hd
  | @cons ts place after first ds hplace hfirst hds ih =>
    rcases List.mem_cons.1 hd with rfl | hd
    · exact ⟨place, hplace, hfirst⟩
    · obtain ⟨later, hlater, hstands⟩ := ih hd
      exact ⟨later, (hlater.trans (List.tail_suffix place)).trans hplace, hstands⟩

/-- The name of a class is a word of the file. -/
theorem SourceFile.isWordPart_of_mem_classes {name text : String} {file : SourceFile}
    (haccepted : (parse name text).value = .ok file) {decl : ClassDecl}
    (hdecl : decl ∈ file.classes) : ∀ c ∈ decl.name.toList, isWordPart c = true := by
  obtain ⟨classes, hclasses, rfl⟩ := value_parse_eq_ok_iff.1 haccepted
  have hreported : .classDecl decl ∈ classes.flatMap ClassDecl.reported :=
    List.mem_flatMap.2 ⟨decl, hdecl, List.mem_cons_self⟩
  obtain ⟨place, hplace, -, keyword, word, rest, hheads, -, hword, hname⟩ :=
    (Declaration.parseDeclarations_placed hclasses).exists_stands hreported
  have hterminal : word ∈ Terminal.ofTokens (scan text) :=
    (hheads.suffix.trans hplace).subset (by simp)
  have htoken : word.token ∈ (Terminal.ofTokens (scan text)).map Terminal.token :=
    List.mem_map_of_mem hterminal
  rw [Terminal.map_token_ofTokens] at htoken
  rw [← hname]
  exact isWordPart_of_mem_scanFrom (List.mem_filter.1 htoken).1 hword

namespace Slug

/-- The route slug of a text of letters, digits, underscores and dollar signs is clean, and so is
that of the name of every class that is read from a file. -/
theorem isRouteSlug_route :
    (∀ name : String, (∀ c ∈ name.toList, isWordPart c = true) → IsRouteSlug name (route name)) ∧
      ∀ {fileName text : String} {file : SourceFile},
        (SourceFile.parse fileName text).value = .ok file →
          ∀ decl ∈ file.classes, IsRouteSlug decl.name (route decl.name) := by
  refine ⟨fun name hname => isRouteSlug_of_isWordPart hname, ?_⟩
  intro fileName text file haccepted decl hdecl
  exact isRouteSlug_of_isWordPart (SourceFile.isWordPart_of_mem_classes haccepted hdecl)

-- A dropped character before an upper-case letter leaves no hyphen behind.
theorem isRouteSlug_route_dropped :
    IsRouteSlug "_H1Title$2Foo_Bar" "h1-title2-foobar" ∧
      (SourceFile.parse "a.ts" "class $H2oTank \x7b\x7d").value =
        .ok ⟨"a.ts", [⟨"$H2oTank", 1, none, [], none, []⟩]⟩ ∧
      IsRouteSlug "$H2oTank" "h2o-tank" := by
  have hchars : ∀ c ∈ "_H1Title$2Foo_Bar".toList, isWordPart c = true :=
    List.all_eq_true.1 (by decide)
  have hslug : route "_H1Title$2Foo_Bar" = "h1-title2-foobar" := by decide +kernel
  have haccepted : (SourceFile.parse "a.ts" "class $H2oTank \x7b\x7d").value =
      .ok ⟨"a.ts", [⟨"$H2oTank", 1, none, [], none, []⟩]⟩ := by decide +kernel
  have hclassSlug : route "$H2oTank" = "h2o-tank" := by decide +kernel
  refine ⟨?_, haccepted, ?_⟩
  · rw [← hslug]
    exact isRouteSlug_route.1 _ hchars
  · rw [← hclassSlug]
    exact isRouteSlug_route.2 haccepted _ List.mem_cons_self

end Slug

end ComponentDocs
