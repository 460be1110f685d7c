import ComponentDocs.Proofs.Declaration.Equations

/-!
# Loops

A reader that goes on until something stops it is a loop, although its definition is a recursion.
Here a loop is given by one pass: it returns a result, or fails, or goes on at another place with
something to remember.  `Loop.Run` lists the passes one after the other, up to the one that returns
or fails.

A loop makes progress if a pass that goes on has consumed a terminal.  Then every run ends
(`Progresses.exists_run`), after no more passes than there are terminals (`Run.length_le`), and
what a run leads to is the result of the reader, provided that the reader repeats the pass.
-/

namespace ComponentDocs.Declaration

/-- From the first place to the second one at least one terminal has been consumed. -/
def Past (before after : List Terminal) : Prop :=
  ∃ t rest, before = t :: rest ∧ after <:+ rest

theorem past_cons {t : Terminal} {rest after : List Terminal} (h : after <:+ rest) :
    Past (t :: rest) after :=
  ⟨t, rest, rfl, h⟩

theorem past_of_cons_suffix {t : Terminal} {before after : List Terminal}
    (h : t :: after <:+ before) : Past before after := by
  obtain ⟨part, rfl⟩ := h
  cases part with
  | nil => exact past_cons List.suffix_rfl
  | cons u part => exact past_cons ((List.suffix_cons t after).trans (List.suffix_append part _))

theorem past_of_length_lt {before after : List Terminal} (h : after <:+ before)
    (hlt : after.length < before.length) : Past before after := by
  cases before with
  | nil => exact absurd hlt (Nat.not_lt_zero _)
  | cons t rest =>
    rcases List.suffix_cons_iff.1 h with rfl | hsuffix
    · exact absurd hlt (Nat.lt_irrefl _)
    · exact past_cons hsuffix

theorem Past.suffix {before after : List Terminal} (h : Past before after) : after <:+ before := by
  obtain ⟨t, rest, rfl, hafter⟩ := h
  exact hafter.trans (List.suffix_cons t rest)

theorem Past.length_lt {before after : List Terminal} (h : Past before after) :
    after.length < before.length := by
  obtain ⟨t, rest, rfl, hafter⟩ := h
  exact Nat.lt_succ_of_le hafter.length_le

theorem Past.trans {before between after : List Terminal} (h : Past before between)
    (h' : Past between after) : Past before after := by
  obtain ⟨t, rest, rfl, hbetween⟩ := h
  exact past_cons (h'.suffix.trans hbetween)

/-- What a pass comes to when it does not fail: the result of the loop, or the place where the next
pass starts, what it has to remember, and what becomes of the result that the loop has from there
on. -/
inductive Pass (μ ρ : Type) where
  | done (result : ρ)
  | next (memory : μ) (after : List Terminal) (finish : ρ → ρ)

/-- The result of a loop that goes on with `read`. -/
def Pass.resume {μ ρ : Type} (read : μ → List Terminal → Except Fault ρ) :
    Pass μ ρ → Except Fault ρ
  | .done result => .ok result
  | .next memory after finish => (read memory after).map finish

/-- A loop of a reader: what it remembers from pass to pass, one pass, and the reader. -/
structure Loop where
  Memory : Type
  Result : Type
  pass : Memory → List Terminal → Except Fault (Pass Memory Result)
  read : Memory → List Terminal → Except Fault Result

namespace Loop

variable {loop : Loop}

/-- Passes one after the other, the first of which starts with `memory` at `ts`.  `later` are the
memories and places where the other passes start, and the last pass returns or fails. -/
inductive Run (loop : Loop) : loop.Memory → List Terminal → List (loop.Memory × List Terminal) →
    Except Fault loop.Result → Prop
  | fails {memory : loop.Memory} {ts : List Terminal} {fault : Fault}
      (hpass : loop.pass memory ts = .error fault) : Run loop memory ts [] (.error fault)
  | returns {memory : loop.Memory} {ts : List Terminal} {result : loop.Result}
      (hpass : loop.pass memory ts = .ok (.done result)) : Run loop memory ts [] (.ok result)
  | goesOn {memory next : loop.Memory} {ts after : List Terminal}
      {finish : loop.Result → loop.Result} {later : List (loop.Memory × List Terminal)}
      {outcome : Except Fault loop.Result}
      (hpass : loop.pass memory ts = .ok (.next next after finish))
      (hrun : Run loop next after later outcome) :
      Run loop memory ts ((next, after) :: later) (outcome.map finish)

/-- Each pass returns, fails or has consumed a terminal, and the reader repeats the pass. -/
structure Progresses (loop : Loop) : Prop where
  past : ∀ {memory next ts after finish},
    loop.pass memory ts = .ok (.next next after finish) → Past ts after
  repeats : ∀ memory ts, loop.read memory ts = loop.pass memory ts >>= Pass.resume loop.read

/-- What is read is what a run of passes comes to. -/
theorem Progresses.exists_run (h : loop.Progresses) (memory : loop.Memory) (ts : List Terminal) :
    ∃ later, loop.Run memory ts later (loop.read memory ts) := by
  induction hlength : ts.length using Nat.strongRecOn generalizing memory ts with
  | ind n ih =>
    rw [h.repeats]
    cases hpass : loop.pass memory ts with
    | error fault => exact ⟨[], .fails hpass⟩
    | ok pass =>
      rw [ok_bind]
      cases pass with
      | done result => exact ⟨[], .returns hpass⟩
      | next next after finish =>
        have hshorter : after.length < n := hlength ▸ (h.past hpass).length_lt
        obtain ⟨later, hrun⟩ := ih after.length hshorter next after rfl
        exact ⟨(next, after) :: later, .goesOn hpass hrun⟩

/-- Each pass starts past all passes before it. -/
theorem Run.pairwise_past (h : loop.Progresses) {memory : loop.Memory} {ts : List Terminal}
    {later : List (loop.Memory × List Terminal)} {outcome : Except Fault loop.Result}
    (hrun : loop.Run memory ts later outcome) : (ts :: later.map Prod.snd).Pairwise Past := by
  induction hrun with
  | fails => exact List.pairwise_singleton _ _
  | returns => exact List.pairwise_singleton _ _
  | @goesOn memory next ts after finish later outcome hpass hrun ih =>
    have hpast := h.past hpass
    refine .cons ?_ ih
    intro place hplace
    rcases List.mem_cons.1 hplace with rfl | hplace
    · exact hpast
    · exact hpast.trans (List.rel_of_pairwise_cons ih hplace)

/-- There are no more passes that go on than terminals. -/
theorem Run.length_le (h : loop.Progresses) {memory : loop.Memory} {ts : List Terminal}
    {later : List (loop.Memory × List Terminal)} {outcome : Except Fault loop.Result}
    (hrun : loop.Run memory ts later outcome) : later.length ≤ ts.length := by
  induction hrun with
  | fails => exact Nat.zero_le _
  | returns => exact Nat.zero_le _
  | goesOn hpass hrun ih => exact Nat.lt_of_le_of_lt ih (h.past hpass).length_lt

/-- A loop that returns only where no terminal is left consumes all of them. -/
theorem Run.getLast?_eq_of_ok
    (hend : ∀ memory ts result, loop.pass memory ts = .ok (.done result) → ts = [])
    {memory : loop.Memory} {ts : List Terminal} {later : List (loop.Memory × List Terminal)}
    {outcome : Except Fault loop.Result} (hrun : loop.Run memory ts later outcome)
    {result : loop.Result} (hok : outcome = .ok result) :
    (ts :: later.map Prod.snd).getLast? = some [] := by
  induction hrun generalizing result with
  | fails => cases hok
  | returns hpass =>
    rw [hend _ _ _ hpass]
    rfl
  | goesOn hpass hrun ih =>
    obtain ⟨last, hlast, -⟩ := map_eq_ok_iff.1 hok
    rw [List.map_cons, List.getLast?_cons_cons]
    exact ih hlast

end Loop

end ComponentDocs.Declaration
