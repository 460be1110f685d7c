import ComponentDocs.Proofs.Declaration.AlikeClass
import ComponentDocs.Proofs.Declaration.Point
import ComponentDocs.Proofs.Placement
import ComponentDocs.Proofs.Progress
import ComponentDocs.Proofs.Token.Cut

/-!
# Points and slices of a source text

While a text is read, the reader stands at one of the points of its tokens.  A text that is kept as
written is cut out between two of them: from the token that is next at the first point to the end of
the last token consumed at the second one (`Cut`).  The cut never fails, because both ends lie
between characters (`Slice`), and it yields what `capture` yields for the two places
(`cut_capture`).

The offsets come from the layout of the text: it consists of its terminals, each with what stands
before it (`laidOut`), and some rest.
-/

namespace ComponentDocs

open Text Token

namespace Token

/-- A token stands behind the tokens before it and its own leading space. -/
theorem offset_scanFrom {context : Context} {cs : List Char} {before after : List Token}
    {token : Token} (h : scanFrom context cs = before ++ token :: after) :
    token.offset =
      context.offset + byteSize (spellings before) + byteSize token.leading.toList := by
  induction context, cs using scan_induction generalizing before with
  | blank context space hspace =>
    rw [scanFrom_blank hspace] at h
    simp at h
  | token context space c body tail kind hspace hc hextent ih =>
    rw [scanFrom_token hspace hc hextent] at h
    have hleading : (context.tokenAfter space kind (c :: body)).leading.toList = space := by
      simp [Context.tokenAfter, Context.token]
    cases before with
    | nil =>
      obtain ⟨rfl, -⟩ := List.cons.inj h
      rw [hleading]
      rfl
    | cons first before =>
      obtain ⟨rfl, hrest⟩ := List.cons.inj h
      have hspelling : (context.tokenAfter space kind (c :: body)).spelling.toList =
          space ++ c :: body := by
        simp [spelling, Context.tokenAfter, Context.token]
      rw [ih hrest, Context.after_offset, spellings_cons, hspelling, byteSize_append,
        byteSize_append]
      omega

end Token

/-! ## The layout of a text -/

namespace Terminal

/-- The source text of terminals, each with what stands before it. -/
def laidOut (ts : List Terminal) : List Char :=
  ts.flatMap fun t => t.leading ++ t.text.toList

theorem laidOut_append (ts us : List Terminal) :
    laidOut (ts ++ us) = laidOut ts ++ laidOut us :=
  List.flatMap_append

theorem laidOut_cons (t : Terminal) (ts : List Terminal) :
    laidOut (t :: ts) = t.leading ++ spelling (t :: ts) := by
  rw [laidOut, List.flatMap_cons, List.append_assoc]
  rfl

theorem spellings_gathered (ts : List Terminal) :
    spellings (ts.flatMap fun t => t.comments ++ [t.token]) = laidOut ts := by
  rw [spellings, laidOut, List.flatMap_assoc]
  congr 1
  funext t
  rw [List.flatMap_append, List.flatMap_singleton, Token.spelling, String.toList_append, leading,
    List.append_assoc]

variable {source : String}

/-- A text is its terminals and some rest. -/
theorem exists_toList_eq_laidOut (source : String) :
    ∃ tail, source.toList = laidOut (ofTokens (scan source)) ++ tail := by
  obtain ⟨trailing, hgathers⟩ := exists_gathers (scan source)
  obtain ⟨space, -, hspelled⟩ := flatMap_spelling_scanFrom .start source.toList
  have hsource : source.toList = spellings (scan source) ++ space := hspelled
  refine ⟨spellings trailing ++ space, ?_⟩
  have hspellings : spellings (scan source) =
      laidOut (ofTokens (scan source)) ++ spellings trailing := by
    rw [← spellings_gathered, spellings, spellings, spellings, ← List.flatMap_append,
      ← hgathers.tokens_eq]
  rw [hsource, hspellings, List.append_assoc]

/-- Where the token of a terminal begins and ends. -/
theorem offset_of_split {before after : List Terminal} {t : Terminal}
    (h : ofTokens (scan source) = before ++ t :: after) :
    t.token.offset = byteSize (laidOut before) + byteSize t.leading ∧
      t.token.stop = byteSize (laidOut (before ++ [t])) := by
  obtain ⟨trailing, hgathers⟩ := exists_gathers (scan source)
  have htokens : scan source =
      (before.flatMap (fun t => t.comments ++ [t.token]) ++ t.comments) ++ t.token ::
        (after.flatMap (fun t => t.comments ++ [t.token]) ++ trailing) := by
    rw [hgathers.tokens_eq, h]
    simp
  have hoffset := offset_scanFrom htokens
  have hbefore : spellings (before.flatMap (fun t => t.comments ++ [t.token]) ++ t.comments) =
      laidOut before ++ t.comments.flatMap fun comment => comment.spelling.toList := by
    rw [spellings, List.flatMap_append, ← spellings_gathered]
    rfl
  have hstart : Context.start.offset = 0 := rfl
  rw [hbefore, byteSize_append, hstart] at hoffset
  have hleading : byteSize t.leading =
      byteSize (t.comments.flatMap fun comment => comment.spelling.toList) +
        byteSize t.token.leading.toList := by
    rw [leading, byteSize_append]
  constructor
  · omega
  · rw [stop, laidOut_append, laidOut_cons, byteSize_append, byteSize_append, spelling,
      byteSize_append, List.flatMap_nil, byteSize, Terminal.text]
    omega

end Terminal

/-! ## Slices -/

/-- `part` is the source between two of its bytes, both of which lie between characters. -/
structure Slice (source : String) (first last : Nat) (part : String) : Prop where
  le : first ≤ last
  isValid_first : String.Pos.Raw.IsValid source ⟨first⟩
  isValid_last : String.Pos.Raw.IsValid source ⟨last⟩
  extract_eq : source.toByteArray.extract first last = part.toByteArray

theorem slice_of_split {source : String} {before part after : List Char}
    (hsplit : source.toList = before ++ (part ++ after)) :
    Slice source (byteSize before) (byteSize before + byteSize part) (String.ofList part) := by
  obtain ⟨hfirst, hlast, hextract⟩ := isValid_extract_of_split hsplit
  exact ⟨Nat.le_add_right _ _, hfirst, hlast, hextract⟩

namespace Point

open Terminal

/-- `text` is cut out from the token that is next at `start` on, up to the end of the last token
consumed at `stop`, and trimmed.  `piece` is what has been consumed in between. -/
structure Cut (source : String) (start stop : Point) (piece : List Terminal) (text : String) :
    Prop where
  exists_slice : ∃ part,
    Slice source (start.offset source) (max stop.lastStop (start.offset source)) part ∧
      text = String.ofList (trim part.toList)
  text_eq_empty : piece = [] → text = ""
  extent : ∀ first last, piece.head? = some first → piece.getLast? = some last →
    start.offset source = first.token.offset ∧ stop.lastStop = last.token.stop ∧
      first.token.offset ≤ last.token.stop

/-- The last token before the place ends where the terminals before it end. -/
theorem lastStop_reached_scan (source : String) (k : Nat) :
    (reached (scan source) k).lastStop = byteSize (laidOut ((ofTokens (scan source)).take k)) := by
  rw [lastStop_reached]
  cases hlast : ((ofTokens (scan source)).take k).getLast? with
  | none =>
    rw [List.getLast?_eq_none_iff.1 hlast]
    rfl
  | some t =>
    obtain ⟨before, hbefore⟩ := List.getLast?_eq_some_iff.1 hlast
    have hsplit : ofTokens (scan source) = before ++ t :: (ofTokens (scan source)).drop k := by
      rw [← List.singleton_append, ← List.append_assoc, ← hbefore, List.take_append_drop]
    rw [hbefore]
    exact (offset_of_split hsplit).2

theorem offset_reached_cons {source : String} {k : Nat} {t : Terminal} {rest : List Terminal}
    (h : (ofTokens (scan source)).drop k = t :: rest) :
    (reached (scan source) k).offset source =
      byteSize (laidOut ((ofTokens (scan source)).take k) ++ t.leading) := by
  have hsplit : ofTokens (scan source) = (ofTokens (scan source)).take k ++ t :: rest := by
    rw [← h, List.take_append_drop]
  rw [offset, current?_reached, h, byteSize_append]
  exact (offset_of_split hsplit).1

/-- The next token, or the end of the text, stands behind the last token consumed. -/
theorem exists_split_offset (source : String) (k : Nat) :
    ∃ before after, source.toList = before ++ after ∧
      (reached (scan source) k).offset source = byteSize before ∧
      (reached (scan source) k).lastStop ≤ byteSize before := by
  obtain ⟨tail, htail⟩ := exists_toList_eq_laidOut source
  rw [← List.take_append_drop k (ofTokens (scan source)), laidOut_append] at htail
  cases hplace : (ofTokens (scan source)).drop k with
  | nil =>
    refine ⟨source.toList, [], (List.append_nil _).symm, ?_, ?_⟩
    · rw [offset, current?_reached, hplace, byteSize_eq_utf8ByteSize, String.ofList_toList]
      rfl
    · rw [lastStop_reached_scan, htail, byteSize_append, byteSize_append]
      omega
  | cons t rest =>
    rw [hplace, laidOut_cons] at htail
    refine ⟨laidOut ((ofTokens (scan source)).take k) ++ t.leading, spelling (t :: rest) ++ tail,
      ?_, offset_reached_cons hplace, ?_⟩
    · rw [htail]
      simp only [List.append_assoc]
    · rw [lastStop_reached_scan, byteSize_append]
      exact Nat.le_add_right _ _

/-- From a place to a later one stands what has been consumed in between. -/
theorem drop_take_of_le {α : Type} (xs : List α) {j m : Nat} (hle : j ≤ m) :
    xs.drop j = (xs.drop j).take (m - j) ++ xs.drop m ∧
      xs.take m = xs.take j ++ (xs.drop j).take (m - j) := by
  constructor
  · have hdrop : xs.drop m = (xs.drop j).drop (m - j) := by
      rw [List.drop_drop, Nat.add_sub_cancel' hle]
    rw [hdrop, List.take_append_drop]
  · rw [← List.take_add, Nat.add_sub_cancel' hle]

/-- Where nothing is consumed, nothing is cut out. -/
theorem cut_nil {source : String} {j m : Nat}
    (hstop : (reached (scan source) m).lastStop = (reached (scan source) j).lastStop) :
    Cut source (reached (scan source) j) (reached (scan source) m) [] "" := by
  obtain ⟨before, after, hsplit, hoffset, hbehind⟩ := exists_split_offset source j
  refine ⟨⟨"", ?_, rfl⟩, fun _ => rfl, ?_⟩
  · rw [hstop, hoffset, Nat.max_eq_right hbehind]
    exact @slice_of_split source before [] after hsplit
  · intro first last hfirst
    cases hfirst

/-- What is consumed from the place after `j` terminals to the place after `m` ones is cut out as it
is spelled. -/
theorem cut_cons {source : String} {j m : Nat} {t : Terminal} {more : List Terminal}
    (hplace : (ofTokens (scan source)).drop j =
      t :: more ++ (ofTokens (scan source)).drop m)
    (htake : (ofTokens (scan source)).take m = (ofTokens (scan source)).take j ++ t :: more) :
    Cut source (reached (scan source) j) (reached (scan source) m) (t :: more)
      (String.ofList (trim (spelling (t :: more)))) := by
  have hoffset := offset_reached_cons hplace
  have hstop : (reached (scan source) m).lastStop =
      byteSize (laidOut ((ofTokens (scan source)).take j) ++ t.leading) +
        byteSize (spelling (t :: more)) := by
    rw [lastStop_reached_scan, htake, laidOut_append, laidOut_cons, ← List.append_assoc,
      byteSize_append]
  refine ⟨⟨String.ofList (spelling (t :: more)), ?_, ?_⟩, ?_, ?_⟩
  · obtain ⟨tail, htail⟩ := exists_toList_eq_laidOut source
    have hfile : ofTokens (scan source) =
        (ofTokens (scan source)).take j ++ (t :: more ++ (ofTokens (scan source)).drop m) := by
      rw [← hplace, List.take_append_drop]
    have hsplit : source.toList =
        laidOut ((ofTokens (scan source)).take j) ++ t.leading ++
          (spelling (t :: more) ++ (laidOut ((ofTokens (scan source)).drop m) ++ tail)) := calc
      source.toList = laidOut (ofTokens (scan source)) ++ tail := htail
      _ = laidOut ((ofTokens (scan source)).take j ++
            (t :: more ++ (ofTokens (scan source)).drop m)) ++ tail := by rw [← hfile]
      _ = _ := by simp only [laidOut_append, laidOut_cons, List.append_assoc]
    rw [hstop, hoffset, Nat.max_eq_left (Nat.le_add_right _ _)]
    exact slice_of_split hsplit
  · rw [String.toList_ofList]
  · intro hnil
    cases hnil
  · intro first last hfirst hlast
    cases hfirst
    have hstart : (reached (scan source) j).offset source = t.token.offset := by
      rw [offset, current?_reached, hplace]
      rfl
    have hend : (reached (scan source) m).lastStop = last.token.stop := by
      rw [lastStop_reached, htake, List.getLast?_append, hlast]
      rfl
    refine ⟨hstart, hend, ?_⟩
    rw [← hstart, ← hend, hstop, hoffset]
    exact Nat.le_add_right _ _

/-- What `capture` yields for two places is cut out between their points. -/
theorem cut_capture (source : String) {j m : Nat} (hle : j ≤ m) :
    Cut source (reached (scan source) j) (reached (scan source) m)
      (((ofTokens (scan source)).drop j).take (m - j))
      (capture ((ofTokens (scan source)).drop j) ((ofTokens (scan source)).drop m)) := by
  obtain ⟨hplace, htake⟩ := drop_take_of_le (ofTokens (scan source)) hle
  have hcapture : capture ((ofTokens (scan source)).drop j) ((ofTokens (scan source)).drop m) =
      String.ofList (trim (spelling (((ofTokens (scan source)).drop j).take (m - j)))) := by
    rw [← capture_left _ ((ofTokens (scan source)).drop m), ← hplace]
  rw [hcapture]
  cases hpiece : ((ofTokens (scan source)).drop j).take (m - j) with
  | nil =>
    apply cut_nil
    rw [lastStop_reached, lastStop_reached, htake, hpiece, List.append_nil]
  | cons t more =>
    rw [hpiece] at hplace htake
    exact cut_cons hplace htake

/-- A text kept at the place `after` of what has been read from the place `before` on is cut out
between the points of the two places. -/
def CutOut (source : String) (before after : List Terminal) (text : String) : Prop :=
  ∃ j m, j ≤ m ∧ (ofTokens (scan source)).drop j = before ∧
    (ofTokens (scan source)).drop m = after ∧
    Cut source (reached (scan source) j) (reached (scan source) m)
      (((ofTokens (scan source)).drop j).take (m - j)) text

/-- The place after some terminals of a file. -/
theorem exists_eq_drop {α : Type} {xs ys : List α} (h : ys <:+ xs) : ∃ k, xs.drop k = ys :=
  ⟨xs.length - ys.length, (List.suffix_iff_eq_drop.1 h).symm⟩

theorem cutOut_capture {source : String} {before after : List Terminal}
    (hbefore : before <:+ ofTokens (scan source)) (hafter : after <:+ before) :
    CutOut source before after (capture before after) := by
  obtain ⟨j, rfl⟩ := exists_eq_drop hbefore
  obtain ⟨n, rfl⟩ := exists_eq_drop hafter
  rw [List.drop_drop]
  exact ⟨j, j + n, Nat.le_add_right j n, rfl, rfl, cut_capture source (Nat.le_add_right j n)⟩

end Point

/-! ## The texts that are kept -/

namespace Declaration

open Terminal Point

theorem parseOther_eq_ok {ts between after : List Terminal} {expr : Expr}
    (h : parseOther ts between = .ok (expr, after)) : expr = .other (capture ts after) := by
  obtain ⟨rest, -, h⟩ := bind_eq_ok_iff.1 h
  cases h
  rfl

/-- An expression that is not kept as its text has a value of its own. -/
theorem parseRest_eq_other {ts between after : List Terminal} {expr : Expr} {text : String}
    (hexpr : ∀ text, expr ≠ .other text)
    (h : parseRest ts expr between = .ok (.other text, after)) : text = capture ts after := by
  unfold parseRest at h
  split at h
  · cases h
    exact absurd rfl (hexpr text)
  · exact Expr.other.inj (parseOther_eq_ok h)

theorem parseExpr_eq_other {ts after : List Terminal} {text : String}
    (h : parseExpr ts = .ok (.other text, after)) : text = capture ts after := by
  cases ts with
  | nil =>
    rw [parseExpr_nil] at h
    cases h
    rfl
  | cons t rest =>
    rw [parseExpr_cons] at h
    split at h
    · obtain ⟨⟨entries, between⟩, -, h⟩ := bind_eq_ok_iff.1 h
      exact parseRest_eq_other (fun _ => Expr.noConfusion) h
    · obtain ⟨⟨items, between⟩, -, h⟩ := bind_eq_ok_iff.1 h
      exact parseRest_eq_other (fun _ => Expr.noConfusion) h
    · exact parseRest_eq_other (fun _ => Expr.noConfusion) h
    · split at h
      · exact Expr.other.inj (parseOther_eq_ok h)
      · exact parseRest_eq_other (fun _ => Expr.noConfusion) h
    · exact parseRest_eq_other (fun _ => Expr.noConfusion) h
    · exact Expr.other.inj (parseOther_eq_ok h)

/-- The texts that are kept as written are cut out of the source, from the point where their reading
starts to the point where it has come to. -/
structure KeepsCuts (source : String) : Prop where
  decorator : ∀ {sign rest after decorator}, sign :: rest <:+ ofTokens (scan source) →
    parseDecorator sign rest = .ok (decorator, after) →
    CutOut source (sign :: rest) after decorator.text
  expression : ∀ {place after text}, place <:+ ofTokens (scan source) →
    parseExpr place = .ok (.other text, after) → CutOut source place after text
  memberName : ∀ {place after name}, place <:+ ofTokens (scan source) →
    startsWith (.opening .square) place = true → parseMemberName place = .ok (name, after) →
    CutOut source place after name.1
  propertyType : ∀ {colon rest after type}, colon :: rest <:+ ofTokens (scan source) →
    parsePropertyType (colon :: rest) = .ok (some type, after) → CutOut source rest after type

theorem keepsCuts (source : String) : KeepsCuts source := by
  refine ⟨?_, ?_, ?_, ?_⟩
  · intro sign rest after decorator hplace h
    have hafter := (parseDecorator_suffix h).trans (List.suffix_cons sign rest)
    obtain ⟨⟨name, afterName⟩, -, h⟩ := bind_eq_ok_iff.1 h
    obtain ⟨⟨arguments, final⟩, -, h⟩ := bind_eq_ok_iff.1 h
    cases h
    exact cutOut_capture hplace hafter
  · intro place after text hplace h
    rw [parseExpr_eq_other h]
    exact cutOut_capture hplace (outcome_suffix h)
  · intro place after name hplace hsquare h
    have hafter := (parseMemberName_suffix h).1
    cases place with
    | nil => cases hsquare
    | cons t rest =>
      rw [parseMemberName_cons, beq_iff_eq.1 hsquare] at h
      obtain ⟨final, -, h⟩ := bind_eq_ok_iff.1 h
      cases h
      exact cutOut_capture hplace hafter
  · intro colon rest after type hplace h
    rw [parsePropertyType] at h
    split at h
    · obtain ⟨final, htype, h⟩ := bind_eq_ok_iff.1 h
      cases h
      exact cutOut_capture ((List.suffix_cons colon rest).trans hplace) (skipType_suffix htype)
    · cases h

end Declaration

/-! ## Faults -/

/-- The likeness of the terminals of a file to themselves. -/
def Likeness.within (file : List Terminal) : Likeness where
  alike := fun t u => u = t ∧ t ∈ file
  line := fun line _ => ∃ t ∈ file, t.line = line
  doc := fun _ _ => True
  slice := fun _ => ""
  name := fun _ _ => True
  kind_eq := fun h => by rw [h.1]
  text_eq := fun h => by rw [h.1]
  newlineBefore_eq := fun h => by rw [h.1]
  line_of_alike := fun h => ⟨_, h.2, rfl⟩
  doc_of_alike := fun _ => trivial
  slice_capture := fun _ _ => rfl
  name_refl := fun _ => trivial
  name_capture := fun _ _ _ => trivial

namespace Declaration

open Terminal Point

/-- A fault is at the end of the file or at one of its terminals. -/
theorem line_of_fault {file : List Terminal} {fault : Fault}
    (h : (parseDeclarations file).value = .error fault) :
    fault.line = none ∨ ∃ t ∈ file, fault.line = some t.line := by
  have hplaces : (Likeness.within file).Places file file :=
    List.forall₂_same.2 fun t ht => ⟨rfl, ht⟩
  have hagree := value_parseDeclarations_agree hplaces
  rw [h] at hagree
  cases hagree with
  | error hfaults =>
    cases hline : fault.line with
    | none => exact .inl rfl
    | some line =>
      have hrel := hfaults.line
      rw [hline] at hrel
      cases hrel with
      | some hmem =>
        obtain ⟨t, ht, rfl⟩ := hmem
        exact .inr ⟨t, ht, rfl⟩

end Declaration

/-! ## Whole files -/

namespace SourceFile

open Terminal Point Declaration

/-- The line of a fault is the one at the offset of a point. -/
theorem exists_offset_of_error {name text : String} {e : SyntaxError}
    (h : (parse name text).value = .error e) :
    ∃ k before after, text.toList = before ++ after ∧
      (reached (scan text) k).offset text = byteSize before ∧
      e.line = countNewlines before + 1 := by
  unfold parse at h
  dsimp only at h
  split at h
  · cases h
  · rename_i fault hfault
    cases h
    rcases line_of_fault hfault with hline | ⟨t, ht, hline⟩
    · refine ⟨(ofTokens (scan text)).length, text.toList, [], (List.append_nil _).symm, ?_, ?_⟩
      · rw [Point.offset, current?_reached, List.drop_length, byteSize_eq_utf8ByteSize,
          String.ofList_toList]
        rfl
      · rw [hline]
        rfl
    · obtain ⟨front, behind, hsplit⟩ := List.append_of_mem ht
      have hmem : t.token ∈ scan text := by
        have htoken := List.mem_map_of_mem (f := token) ht
        rw [map_token_ofTokens] at htoken
        exact List.mem_of_mem_filter htoken
      obtain ⟨before, after, htext, hoffset, htline⟩ := line_of_mem_scanFrom hmem
      refine ⟨front.length, before, _, htext, ?_, ?_⟩
      · rw [Point.offset, current?_reached, hsplit, List.drop_left]
        exact hoffset.trans (Nat.zero_add _)
      · rw [hline]
        exact htline.trans (Nat.add_comm _ _)

/-- A run leads from place to place of the file. -/
theorem exists_place_of_run {file : List Terminal} {routine : Routine}
    {memory : routine.loop.Memory} {j : Nat} {later : List (routine.loop.Memory × List Terminal)}
    {outcome : Except Fault routine.loop.Result}
    (hrun : routine.loop.Run memory (file.drop j) later outcome)
    {entry : routine.loop.Memory × List Terminal} (hentry : entry ∈ later) :
    ∃ k, j < k ∧ file.drop k = entry.2 := by
  have hpast : Past (file.drop j) entry.2 :=
    List.rel_of_pairwise_cons (hrun.pairwise_past routine.progresses)
      (List.mem_map_of_mem hentry)
  obtain ⟨n, hplace⟩ := exists_eq_drop hpast.suffix
  have hshorter := hpast.length_lt
  rw [← hplace, List.length_drop] at hshorter
  refine ⟨j + n, by omega, ?_⟩
  rw [← List.drop_drop, hplace]

/-- Whatever text is read and wherever the reading stands, it is at a sound point: there are that
many tokens, the next one is no comment, and the other number is the end of the last token before
it that is no comment.  The points are those of the places: the next token at the point after `k`
tokens is the first one behind `k` terminals, the passes of a loop start at places of the file
whether it returns or fails in the end, and a fault is on the line at the offset of a point.

So what is kept as written between two places is a slice of the source, both ends of which lie
between characters.  It is the trimmed source from the token that was next at the first place to the
end of the last token consumed, and empty if none was.  All texts that the reader keeps are of this
kind. -/
theorem parse_points (name text : String) :
    let tokens := scan text
    let file := ofTokens tokens
    (∀ k, Sound tokens (reached tokens k) ∧
        (reached tokens k).current? tokens = (file.drop k).head?.map token) ∧
      (∀ (routine : Routine) (memory : routine.loop.Memory) (j : Nat)
          (later : List (routine.loop.Memory × List Terminal))
          (outcome : Except Fault routine.loop.Result),
        routine.loop.Run memory (file.drop j) later outcome →
        ∀ entry ∈ later, ∃ k, j < k ∧ file.drop k = entry.2) ∧
      (∀ e, (parse name text).value = .error e →
        ∃ k before after, text.toList = before ++ after ∧
          (reached tokens k).offset text = byteSize before ∧
          e.line = countNewlines before + 1) ∧
      (∀ j m, j ≤ m →
        Cut text (reached tokens j) (reached tokens m) ((file.drop j).take (m - j))
          (capture (file.drop j) (file.drop m))) ∧
      KeepsCuts text := by
  intro tokens file
  refine ⟨?_, ?_, ?_, ?_, keepsCuts text⟩
  · intro k
    exact ⟨sound_reached tokens k, current?_reached tokens k⟩
  · intro routine memory j later outcome hrun entry hentry
    exact exists_place_of_run hrun hentry
  · intro e h
    exact exists_offset_of_error h
  · intro j m hle
    exact cut_capture text hle

end SourceFile

end ComponentDocs
