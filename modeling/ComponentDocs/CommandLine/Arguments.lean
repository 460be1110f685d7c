import ComponentDocs.Options
import ComponentDocs.Text.Lines

/-!
# Command line arguments

Arguments are inputs and options.  An option with a value takes it from the same argument, after
an equals sign or directly after a short name, or from the next argument, which then may not look
like an option.  Short options may be written together.  After `--` everything is an input.  Every
option but the decorators and the verbosity may be given once.
-/

namespace ComponentDocs.CommandLine

/-- An option with a value. -/
inductive Setting where
  | output
  | format
  | rootDir
  | urlPrefix
  | componentDecorator
  | moduleDecorator
  | overridePolicy
  deriving DecidableEq

namespace Setting

def ofLong? (name : String) : Option Setting :=
  [("output", output), ("format", format), ("root-dir", rootDir), ("url-prefix", urlPrefix),
    ("component-decorator", componentDecorator), ("module-decorator", moduleDecorator),
    ("override-policy", overridePolicy)].lookup name

def ofShort? (c : Char) : Option Setting :=
  [('o', output), ('f', format)].lookup c

def isRepeatable : Setting → Bool
  | .componentDecorator | .moduleDecorator => true
  | _ => false

end Setting

def overridePolicy? (name : String) : Option OverridePolicy :=
  [("concatenate", OverridePolicy.concatenate), ("child-wins", .childWins)].lookup name

/-- A value that the option accepts. -/
def Setting.accepts (setting : Setting) (value : String) : Bool :=
  match setting with
  | .output => !value.isEmpty
  | .overridePolicy => (overridePolicy? value).isSome
  | _ => true

/-- What the arguments hold, in the order in which it was given. -/
structure Given where
  inputs : List String
  settings : List (Setting × String)
  verbosity : Nat
  deriving DecidableEq

namespace Given

def none : Given :=
  ⟨[], [], 0⟩

def addInputs (given : Given) (inputs : List String) : Given :=
  { given with inputs := given.inputs ++ inputs }

def addVerbosity (given : Given) : Given :=
  { given with verbosity := given.verbosity + 1 }

def values (given : Given) (setting : Setting) : List String :=
  given.settings.filterMap fun (other, value) => if other = setting then some value else .none

/-- Adds a setting with a value it accepts, unless it is given already. -/
def addSetting? (given : Given) (setting : Setting) (value : String) : Option Given :=
  if setting.accepts value && (setting.isRepeatable || (given.values setting).isEmpty) then
    some { given with settings := given.settings ++ [(setting, value)] }
  else .none

end Given

/-- An argument that is read as an option and not as a value. -/
def looksLikeOption (arg : String) : Bool :=
  arg.toList.head? == some '-' && arg != "-"

/-- Name of a long option and the value after its equals sign. -/
def splitLong (cs : List Char) : String × Option String :=
  (String.ofList (cs.takeWhile (· != '=')),
    (cs.dropWhile (· != '=')).tail?.map String.ofList)

/-- A setting in its own argument or in the next one, and the arguments after it. -/
def readSetting (given : Given) (setting : Setting) (value : Option String) (rest : List String) :
    Option (Given × List String) :=
  match value, rest with
  | some value, rest => (given.addSetting? setting value).map (·, rest)
  | none, [] => none
  | none, value :: rest =>
    if looksLikeOption value then none else (given.addSetting? setting value).map (·, rest)

/-- A group of short options without its dash, and the arguments after it. -/
def readShort (given : Given) (cs : List Char) (rest : List String) :
    Option (Given × List String) :=
  match cs with
  | [] => some (given, rest)
  | c :: cs =>
    if c = 'v' then readShort given.addVerbosity cs rest
    else
      match Setting.ofShort? c with
      | none => none
      | some setting =>
        let value :=
          if cs.isEmpty then none
          else some (String.ofList ((Text.dropStart? ['='] cs).getD cs))
        readSetting given setting value rest

/-- A long option without its dashes, and the arguments after it. -/
def readLong (given : Given) (cs : List Char) (rest : List String) : Option (Given × List String) :=
  match splitLong cs with
  | ("verbose", none) => some (given.addVerbosity, rest)
  | (name, value) =>
    match Setting.ofLong? name with
    | none => none
    | some setting => readSetting given setting value rest

/-- One argument and what it takes from the arguments after it. -/
def readArgument (given : Given) (arg : String) (rest : List String) :
    Option (Given × List String) :=
  match arg.toList with
  | '-' :: '-' :: cs =>
    if cs.isEmpty then some (given.addInputs rest, []) else readLong given cs rest
  | '-' :: c :: cs => readShort given (c :: cs) rest
  | _ => some (given.addInputs [arg], rest)

theorem readSetting_length_le {given after : Given} {setting : Setting} {value : Option String}
    {rest left : List String} (h : readSetting given setting value rest = some (after, left)) :
    left.length ≤ rest.length := by
  unfold readSetting at h
  split at h
  · obtain ⟨next, _, heq⟩ := Option.map_eq_some_iff.1 h
    cases heq
    exact Nat.le_refl _
  · cases h
  · split at h
    · cases h
    · obtain ⟨next, _, heq⟩ := Option.map_eq_some_iff.1 h
      cases heq
      exact Nat.le_succ _

theorem readShort_length_le {given after : Given} {cs : List Char} {rest left : List String}
    (h : readShort given cs rest = some (after, left)) : left.length ≤ rest.length := by
  fun_induction readShort given cs rest with
  | case1 => cases h; exact Nat.le_refl _
  | case2 _ _ ih => exact ih h
  | case3 => cases h
  | case4 => exact readSetting_length_le h

theorem readArgument_length_le {given after : Given} {arg : String} {rest left : List String}
    (h : readArgument given arg rest = some (after, left)) : left.length ≤ rest.length := by
  unfold readArgument at h
  split at h
  · split at h
    · cases h; exact Nat.zero_le _
    · unfold readLong at h
      split at h
      · cases h; exact Nat.le_refl _
      · split at h
        · cases h
        · exact readSetting_length_le h
  · exact readShort_length_le h
  · cases h; exact Nat.le_refl _

/-- Everything the arguments hold; `none` is a usage error. -/
def readArguments (given : Given) (args : List String) : Option Given :=
  match args with
  | [] => some given
  | arg :: rest =>
    match _h : readArgument given arg rest with
    | none => none
    | some (given, left) => readArguments given left
termination_by args.length
decreasing_by exact Nat.lt_succ_of_le (readArgument_length_le _h)

/-- The arguments of a run. -/
structure Arguments where
  inputs : List String
  output : Option String
  format : String
  urlPrefix : String
  options : Options
  verbosity : Nat
  deriving DecidableEq

/-- The values given for a repeatable option, or else its default. -/
def orDefault (given default : List String) : List String :=
  if given.isEmpty then default else given

/-- The arguments of a run; `none` is a usage error, such as no input at all. -/
def Arguments.parse (args : List String) : Option Arguments := do
  let given ← readArguments .none args
  if given.inputs.isEmpty then none
  else
    let first := fun setting => (given.values setting).head?
    let options : Options :=
      { rootDir := (first .rootDir).getD Options.default.rootDir
        files := []
        componentDecorators :=
          orDefault (given.values .componentDecorator) Options.default.componentDecorators
        moduleDecorators :=
          orDefault (given.values .moduleDecorator) Options.default.moduleDecorators
        overridePolicy :=
          ((first .overridePolicy).bind overridePolicy?).getD Options.default.overridePolicy }
    return { inputs := given.inputs
             output := first .output
             format := (first .format).getD "json"
             urlPrefix := (first .urlPrefix).getD ""
             options
             verbosity := given.verbosity }

end ComponentDocs.CommandLine
