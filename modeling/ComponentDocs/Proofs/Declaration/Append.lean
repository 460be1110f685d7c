import ComponentDocs.Proofs.Declaration.ExchangeType

/-!
# Parsing with more behind

What a parser finds at a place does not change when more terminals are put behind the last one, as
long as the parser stopped before the end of the place.  Where it took up everything, it might have
gone on.  The parsers that end by taking up a closing bracket are an exception and do not have to
stop before the end.

Every lemma has the same form.  If a parser yields a value and a place `after` that is not empty,
it yields the same value and `after ++ more` with `more` behind.  For most parsers this is the
exchange of the empty rest for `more`.
-/

namespace ComponentDocs

namespace Terminal

variable {ts : List Terminal}

theorem capture_append (before after more : List Terminal) :
    capture (before ++ more) (after ++ more) = capture before after := by
  have hlength : (before ++ more).length - (after ++ more).length =
      before.length - after.length := by
    simp only [List.length_append]
    omega
  rw [capture, hlength, List.take_append_of_le_length (Nat.sub_le _ _), ← capture]

theorem startsWith_append (kind : Token.Kind) (hts : ts ≠ []) (more : List Terminal) :
    startsWith kind (ts ++ more) = startsWith kind ts := by
  cases ts with
  | nil => exact absurd rfl hts
  | cons t rest => rfl

theorem startsWithWord_append (word : String) (hts : ts ≠ []) (more : List Terminal) :
    startsWithWord word (ts ++ more) = startsWithWord word ts := by
  cases ts with
  | nil => exact absurd rfl hts
  | cons t rest => rfl

theorem skipOptional_append (kind : Token.Kind) (hts : ts ≠ []) (more : List Terminal) :
    skipOptional kind (ts ++ more) = skipOptional kind ts ++ more := by
  cases ts with
  | nil => exact absurd rfl hts
  | cons t rest =>
    simp only [List.cons_append, skipOptional]
    split <;> rfl

end Terminal

namespace Declaration

open Terminal

variable {ts after : List Terminal}

/-! ## Groups -/

theorem skipGroup_append {opener : Terminal} {bracket : Bracket}
    (h : skipGroup opener bracket ts = .ok after) (more : List Terminal) :
    skipGroup opener bracket (ts ++ more) = .ok (after ++ more) := by
  simpa only [exchange_nil] using skipGroup_exchange h List.nil_suffix more

theorem skipItem_append {t : Terminal} (h : skipItem t ts = .ok after) (more : List Terminal) :
    skipItem t (ts ++ more) = .ok (after ++ more) := by
  simpa only [exchange_nil] using skipItem_exchange h List.nil_suffix more

theorem skipAngles_append {opener : Terminal} (h : skipAngles opener ts = .ok after)
    (more : List Terminal) : skipAngles opener (ts ++ more) = .ok (after ++ more) := by
  simpa only [exchange_nil] using skipAngles_exchange h List.nil_suffix more

/-! ## Decorators, types and initializers -/

theorem parseDecorator_append {sign : Terminal} {decorator : Decorator}
    (h : parseDecorator sign ts = .ok (decorator, after)) (hafter : after ≠ [])
    (more : List Terminal) :
    parseDecorator sign (ts ++ more) = .ok (decorator, after ++ more) := by
  have hseam : Seam [] more after := .inl hafter
  simpa only [exchange_nil] using parseDecorator_exchange h List.nil_suffix hseam

theorem parseDecorators_append {decorators : List Decorator}
    (h : parseDecorators ts = .ok (decorators, after)) (hafter : after ≠ [])
    (more : List Terminal) : parseDecorators (ts ++ more) = .ok (decorators, after ++ more) := by
  fun_induction parseDecorators ts generalizing decorators with
  | case1 =>
    cases h
    exact absurd rfl hafter
  | case2 => cases h
  | case3 => cases h
  | case4 t rest hsign decorator next hdecorator others final hothers ih =>
    cases h
    have hnext := (parseDecorators_suffix hothers).ne_nil hafter
    rw [List.cons_append, parseDecorators_cons, if_pos hsign,
      parseDecorator_append hdecorator hnext more]
    dsimp only [ok_bind]
    rw [ih hothers]
    rfl
  | case5 t rest hsign =>
    cases h
    rw [List.cons_append, parseDecorators_cons, if_neg hsign]

theorem skipOptionalAngles_append (h : skipOptionalAngles ts = .ok after) (hafter : after ≠ [])
    (more : List Terminal) : skipOptionalAngles (ts ++ more) = .ok (after ++ more) := by
  have hseam : Seam [] more after := .inl hafter
  simpa only [exchange_nil] using skipOptionalAngles_exchange h List.nil_suffix hseam

theorem skipType_append (h : skipType ts = .ok after) (hafter : after ≠ [])
    (more : List Terminal) : skipType (ts ++ more) = .ok (after ++ more) := by
  have hseam : Seam [] more after := .inl hafter
  simpa only [exchange_nil] using skipType_exchange h List.nil_suffix hseam

theorem skipInitializer_append {complete : Bool} (h : skipInitializer complete ts = .ok after)
    (hafter : after ≠ []) (more : List Terminal) :
    skipInitializer complete (ts ++ more) = .ok (after ++ more) := by
  fun_induction skipInitializer complete ts with
  | case1 =>
    cases h
    exact absurd rfl hafter
  | case2 _ t rest hend =>
    cases h
    rw [List.cons_append, skipInitializer_cons, if_pos hend]
  | case3 _ t rest hend hline =>
    cases h
    rw [List.cons_append, skipInitializer_cons, if_neg hend, if_pos hline]
  | case4 => cases h
  | case5 => cases h
  | case6 _ t rest hend hline hclosing next hitem ih =>
    rw [List.cons_append, skipInitializer_cons, if_neg hend, if_neg hline, if_neg hclosing,
      skipItem_append hitem more]
    exact ih h

end Declaration

end ComponentDocs
