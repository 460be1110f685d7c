import ComponentDocs.CommandLine.Arguments

/-!
# What is known of understood arguments

Every value that an option was given is one that it accepts: each way to read an argument keeps that
(`Given.Accepted`).  So an output path is never empty, and a run takes in all selected files.
-/

namespace ComponentDocs.CommandLine

/-- Every setting has a value that it accepts. -/
def Given.Accepted (given : Given) : Prop :=
  ∀ entry ∈ given.settings, entry.1.accepts entry.2 = true

variable {given after : Given} {rest left : List String}

theorem Given.Accepted.addSetting? (h : given.Accepted) {setting : Setting} {value : String}
    (hadd : given.addSetting? setting value = some after) : after.Accepted := by
  unfold Given.addSetting? at hadd
  split at hadd
  case isFalse => cases hadd
  case isTrue hcondition =>
    cases hadd
    rw [Bool.and_eq_true] at hcondition
    intro entry hentry
    rcases List.mem_append.1 hentry with hold | hnew
    · exact h entry hold
    · rw [List.mem_singleton] at hnew
      rw [hnew]
      exact hcondition.1

theorem Given.Accepted.readSetting (h : given.Accepted) {setting : Setting} {value : Option String}
    (hread : readSetting given setting value rest = some (after, left)) : after.Accepted := by
  unfold CommandLine.readSetting at hread
  split at hread
  · obtain ⟨next, hnext, heq⟩ := Option.map_eq_some_iff.1 hread
    cases heq
    exact h.addSetting? hnext
  · cases hread
  · split at hread
    · cases hread
    · obtain ⟨next, hnext, heq⟩ := Option.map_eq_some_iff.1 hread
      cases heq
      exact h.addSetting? hnext

theorem Given.Accepted.readShort (h : given.Accepted) {cs : List Char}
    (hread : readShort given cs rest = some (after, left)) : after.Accepted := by
  fun_induction CommandLine.readShort given cs rest with
  | case1 => cases hread; exact h
  | case2 _ _ ih => exact ih h hread
  | case3 => cases hread
  | case4 => exact h.readSetting hread

theorem Given.Accepted.readArgument (h : given.Accepted) {arg : String}
    (hread : readArgument given arg rest = some (after, left)) : after.Accepted := by
  unfold CommandLine.readArgument at hread
  split at hread
  · split at hread
    · cases hread; exact h
    · unfold readLong at hread
      split at hread
      · cases hread; exact h
      · split at hread
        · cases hread
        · exact h.readSetting hread
  · exact h.readShort hread
  · cases hread; exact h

theorem Given.Accepted.readArguments (h : given.Accepted) {args : List String}
    (hread : readArguments given args = some after) : after.Accepted := by
  fun_induction CommandLine.readArguments given args with
  | case1 => cases hread; exact h
  | case2 => cases hread
  | case3 given arg rest next left hnext ih => exact ih (h.readArgument hnext) hread

variable {args : List String} {arguments : Arguments}

/-- An output path is not empty. -/
theorem output_ne_empty_of_parse (h : Arguments.parse args = some arguments) {path : String}
    (hpath : arguments.output = some path) : path ≠ "" := by
  obtain ⟨given, hgiven, h⟩ := Option.bind_eq_some_iff.1 h
  split at h
  · cases h
  · cases h
    have hnone : Given.none.Accepted := by simp [Given.Accepted, Given.none]
    have haccepted := hnone.readArguments hgiven
    obtain ⟨⟨setting, value⟩, hentry, hvalue⟩ :=
      List.mem_filterMap.1 (List.mem_of_mem_head? hpath)
    dsimp only at hvalue
    split at hvalue
    case isFalse => cases hvalue
    case isTrue hsetting =>
      cases hvalue
      subst hsetting
      rintro rfl
      exact absurd (haccepted _ hentry) (by decide)

/-- Every file takes part in a run. -/
theorem files_options_of_parse (h : Arguments.parse args = some arguments) :
    arguments.options.files = [] := by
  obtain ⟨given, -, h⟩ := Option.bind_eq_some_iff.1 h
  split at h
  · cases h
  · cases h; rfl

end ComponentDocs.CommandLine
