import ComponentDocs.Text.Blank
import Mathlib.Data.List.DropRight

/-!
# Trimming

Characters of the kind that is dropped do not change, at either end of a text, what is left of it
(`dropEnds_append_of_pos`), and a text that neither begins nor ends with one is left whole
(`dropEndWhile_eq_self`, `trim_eq_self_of_ends`).  What is dropped at the two ends stands around
what is left (`exists_eq_append_dropEnds`).
-/

namespace ComponentDocs.Text

/-! ## One end and both ends -/

section

variable {p : Char → Bool}

theorem dropEndWhile_eq_self {cs : List Char} (h : ∀ c, cs.getLast? = some c → p c = false) :
    dropEndWhile p cs = cs :=
  List.rdropWhile_eq_self_iff.2 fun hcs => by simp [h _ (List.getLast?_eq_some_getLast hcs)]

theorem dropEndWhile_append_of_pos {ends : List Char} (hends : ∀ c ∈ ends, p c = true)
    (cs : List Char) : dropEndWhile p (cs ++ ends) = dropEndWhile p cs := by
  rw [dropEndWhile, List.reverse_append,
    List.dropWhile_append_of_pos fun c hc => hends c (List.mem_reverse.1 hc)]
  rfl

theorem dropEnds_append_of_pos {ends : List Char} (hends : ∀ c ∈ ends, p c = true)
    (cs : List Char) :
    dropEndWhile p ((cs ++ ends).dropWhile p) = dropEndWhile p (cs.dropWhile p) := by
  rw [List.dropWhile_append]
  split
  · -- Nothing of `cs` is left.
    rename_i hempty
    have hnil : ends.dropWhile p = [] := List.dropWhile_eq_nil_iff.2 hends
    rw [List.isEmpty_iff.1 hempty, hnil]
  · exact dropEndWhile_append_of_pos hends _

theorem eq_false_of_getLast?_dropEndWhile {cs : List Char} {c : Char}
    (hc : (dropEndWhile p cs).getLast? = some c) : p c = false := by
  obtain ⟨hne, rfl⟩ := List.mem_getLast?_eq_getLast hc
  exact Bool.eq_false_iff.2 (List.rdropWhile_last_not p cs hne)

theorem eq_false_of_head?_dropEnds {cs : List Char} {c : Char}
    (hc : (dropEndWhile p (cs.dropWhile p)).head? = some c) : p c = false := by
  obtain ⟨rest, hrest⟩ := List.head?_eq_some_iff.1 hc
  obtain ⟨last, hlast⟩ : dropEndWhile p (cs.dropWhile p) <+: cs.dropWhile p :=
    List.rdropWhile_prefix p _
  have hhead := List.head?_dropWhile_not p cs
  rwa [← hlast, hrest] at hhead

/-- A text is what is left of it between the characters that are dropped. -/
theorem exists_eq_append_dropEnds (p : Char → Bool) (cs : List Char) :
    ∃ first last, (∀ c ∈ first, p c = true) ∧ (∀ c ∈ last, p c = true) ∧
      cs = first ++ dropEndWhile p (cs.dropWhile p) ++ last := by
  refine ⟨cs.takeWhile p, (cs.dropWhile p).rtakeWhile p, fun c hc => List.mem_takeWhile_imp hc,
    fun c hc => List.mem_rtakeWhile_imp hc, ?_⟩
  have hlast : dropEndWhile p (cs.dropWhile p) ++ (cs.dropWhile p).rtakeWhile p =
      cs.dropWhile p := List.rdropWhile_append_rtakeWhile
  rw [List.append_assoc, hlast, List.takeWhile_append_dropWhile]

end

/-! ## Blank characters -/

theorem dropWhile_isBlank_eq_self {cs : List Char} (h : ∀ c ∈ cs.head?, isBlank c = false) :
    cs.dropWhile isBlank = cs := by
  cases cs with
  | nil => rfl
  | cons c cs => rw [List.dropWhile_cons_of_neg (by simp [h c rfl])]

theorem trim_eq_self_of_ends {cs : List Char} (hfirst : ∀ c ∈ cs.head?, isBlank c = false)
    (hlast : ∀ c ∈ cs.getLast?, isBlank c = false) : trim cs = cs := by
  rw [trim, trimStart, dropWhile_isBlank_eq_self hfirst]
  exact dropEndWhile_eq_self hlast

theorem trim_eq_self {cs : List Char} (h : ∀ c ∈ cs, isBlank c = false) : trim cs = cs :=
  trim_eq_self_of_ends (fun c hc => h c (List.mem_of_mem_head? hc))
    fun c hc => h c (List.mem_of_getLast? hc)

theorem trim_blank_append {space : List Char} (hspace : ∀ c ∈ space, isBlank c = true)
    (cs : List Char) : trim (space ++ cs) = trim cs := by
  rw [trim, trimStart, List.dropWhile_append_of_pos hspace]
  rfl

theorem trim_append_blank {space : List Char} (hspace : ∀ c ∈ space, isBlank c = true)
    (cs : List Char) : trim (cs ++ space) = trim cs :=
  dropEnds_append_of_pos hspace cs

end ComponentDocs.Text
