import ComponentDocs.Files.Tree

/-!
# Glob patterns

A pattern is matched against the files of a tree component by component.  `?` stands for one
character of a name, `*` for any number of them, a bracketed set for one character in it or, after
`!`, not in it.  The component `**` stands for any number of directories.  A component without any
of these has to be there as it is written.
-/

namespace ComponentDocs.Glob

inductive Problem where
  /-- Three or more stars in a row. -/
  | wildcards
  /-- Two stars that are not a component of their own. -/
  | recursive
  /-- A bracket that opens no set. -/
  | range
  deriving DecidableEq

/-- Why and at which character a pattern is not valid. -/
structure Error where
  position : Nat
  problem : Problem
  deriving DecidableEq

def Problem.text : Problem → String
  | .wildcards => "wildcards are either regular `*` or recursive `**`"
  | .recursive => "recursive wildcards must form a single path component"
  | .range => "invalid range pattern"

def Error.message (e : Error) : String :=
  "Pattern syntax error near position " ++ toString e.position ++ ": " ++ e.problem.text

/-- A piece of a pattern. -/
inductive Item where
  | char (c : Char)
  | anyChar
  | anyText
  /-- `**` -/
  | anyDirectories
  | oneOf (ranges : List (Char × Char))
  | noneOf (ranges : List (Char × Char))
  deriving DecidableEq

/-- The ranges of a bracketed set: `a-z`, or single characters. -/
def ranges : List Char → List (Char × Char)
  | first :: dash :: last :: rest =>
    if dash = '-' then (first, last) :: ranges rest
    else (first, first) :: ranges (dash :: last :: rest)
  | first :: rest => (first, first) :: ranges rest
  | [] => []

/-- A set up to its closing bracket, which may not be its first character, and what follows. -/
def closeSet? (first : Char) (rest : List Char) : Option (List (Char × Char) × List Char) :=
  match rest.dropWhile (· != ']') with
  | [] => none
  | _ :: after => some (ranges (first :: rest.takeWhile (· != ']')), after)

/-- The set after an opening bracket and what follows it. -/
def readSet? : List Char → Option (Item × List Char)
  | [] => none
  | c :: rest =>
    if c = '!' then
      match rest with
      | [] => none
      | first :: more => (closeSet? first more).map fun (set, after) => (.noneOf set, after)
    else (closeSet? c rest).map fun (set, after) => (.oneOf set, after)

theorem closeSet?_length_lt {first : Char} {rest after : List Char} {set : List (Char × Char)}
    (h : closeSet? first rest = some (set, after)) : after.length < rest.length := by
  unfold closeSet? at h
  split at h
  · cases h
  · rename_i c tail htail
    cases h
    have hle := (List.dropWhile_sublist (l := rest) (· != ']')).length_le
    rw [htail] at hle
    exact hle

theorem readSet?_length_lt {cs after : List Char} {item : Item}
    (h : readSet? cs = some (item, after)) : after.length < cs.length := by
  unfold readSet? at h
  split at h
  · cases h
  · split at h
    · split at h
      · cases h
      · obtain ⟨⟨set, tail⟩, hset, heq⟩ := Option.map_eq_some_iff.1 h
        cases heq
        have hlt := closeSet?_length_lt hset
        simp only [List.length_cons]
        omega
    · obtain ⟨⟨set, tail⟩, hset, heq⟩ := Option.map_eq_some_iff.1 h
      cases heq
      exact Nat.lt_succ_of_lt (closeSet?_length_lt hset)

/-- The items of a pattern from a position on, after the character `previous`. -/
def readItems (position : Nat) (previous : Option Char) (cs : List Char) :
    Except Error (List Item) :=
  match cs with
  | [] => .ok []
  | '?' :: rest => return .anyChar :: (← readItems (position + 1) (some '?') rest)
  | '*' :: '*' :: '*' :: _ => .error ⟨position + 2, .wildcards⟩
  | '*' :: '*' :: rest =>
    if previous.all (· == '/') then
      match rest with
      | [] => .ok [.anyDirectories]
      | '/' :: after => return .anyDirectories :: (← readItems (position + 3) (some '/') after)
      | _ => .error ⟨position + 2, .recursive⟩
    else .error ⟨position - 1, .recursive⟩
  | '*' :: rest => return .anyText :: (← readItems (position + 1) (some '*') rest)
  | '[' :: rest =>
    match _h : readSet? rest with
    | none => .error ⟨position, .range⟩
    | some (item, after) =>
      return item :: (← readItems (position + (rest.length - after.length) + 1) (some ']') after)
  | c :: rest => return .char c :: (← readItems (position + 1) (some c) rest)
termination_by cs.length
decreasing_by
  all_goals simp only [List.length_cons]
  all_goals first
    | omega
    | exact Nat.lt_succ_of_lt (readSet?_length_lt _h)

/-! ## Patterns -/

inductive Component where
  /-- Any number of directories. -/
  | directories
  /-- A name without wildcards. -/
  | literal (text : String)
  | wild (items : List Item)
  deriving DecidableEq

structure Pattern where
  /-- The components are matched from the root, and else from the working directory. -/
  fromRoot : Bool
  components : List Component
  /-- A slash at the end asks for directories. -/
  directoriesOnly : Bool
  deriving DecidableEq

def Item.char? : Item → Option Char
  | .char c => some c
  | _ => none

def Component.ofItems (items : List Item) : Component :=
  if items.contains .anyDirectories then .directories
  else
    match items.mapM Item.char? with
    | some cs => .literal (String.ofList cs)
    | none => .wild items

def Component.parse (piece : String) : Except Error Component :=
  (readItems 0 none piece.toList).map Component.ofItems

def startsInSlash (pattern : String) : Bool :=
  pattern.toList.head? == some '/'

def endsInSlash (pattern : String) : Bool :=
  pattern.toList.getLast? == some '/'

/-- The texts between the slashes of a pattern, without the empty ones that a slash at its start
and at its end leave. -/
def pieces (pattern : String) : List String :=
  let all := Path.pieces pattern
  let pieces := if startsInSlash pattern then all.tail else all
  if pieces.getLast? = some "" then pieces.dropLast else pieces

/-- A pattern, or the first problem of its text as a whole or else of one of its components. -/
def Pattern.parse (pattern : String) : Except Error Pattern := do
  let _ ← readItems 0 none pattern.toList
  let components ← (pieces pattern).mapM Component.parse
  return ⟨startsInSlash pattern, components, endsInSlash pattern⟩

/-! ## Matching -/

def inRanges (ranges : List (Char × Char)) (c : Char) : Bool :=
  ranges.any fun range => range.1 ≤ c && c ≤ range.2

/-- An item for one character accepts it. -/
def Item.accepts (item : Item) (c : Char) : Bool :=
  match item with
  | .char d => c == d
  | .anyChar => true
  | .oneOf ranges => inRanges ranges c
  | .noneOf ranges => !inRanges ranges c
  | .anyText | .anyDirectories => false

/-- For each place of a row, whether the row holds `true` there or later. -/
def hereOrLater : List Bool → List Bool
  | [] => []
  | b :: row =>
    let later := hereOrLater row
    (b || later.headD false) :: later

/-- For each end of a name, the longest first and the empty one last, whether it consists of what
the items stand for, one after the other.  One row for each item keeps this cheap however many `*`
there are. -/
def fits (name : List Char) : List Item → List Bool
  | [] => name.map (fun _ => false) ++ [true]
  | .anyText :: items => hereOrLater (fits name items)
  | item :: items =>
    List.zipWith (fun c after => item.accepts c && after) name (fits name items).tail ++ [false]

/-- A name consists of what the items stand for, one after the other. -/
def matchesName (items : List Item) (name : List Char) : Bool :=
  (fits name items).headD false

theorem length_hereOrLater (row : List Bool) : (hereOrLater row).length = row.length := by
  induction row with
  | nil => rfl
  | cons b row ih => exact congrArg (· + 1) ih

theorem tail_hereOrLater (row : List Bool) : (hereOrLater row).tail = hereOrLater row.tail := by
  cases row <;> rfl

theorem length_fits (name : List Char) (items : List Item) :
    (fits name items).length = name.length + 1 := by
  fun_induction fits name items with
  | case1 => simp
  | case2 items ih => rw [length_hereOrLater, ih]
  | case3 item items _ ih => simp [ih]

/-- A row goes on with the row of the name without its first character. -/
theorem fits_cons (c : Char) (name : List Char) (items : List Item) :
    fits (c :: name) items = matchesName items (c :: name) :: fits name items := by
  suffices h : (fits (c :: name) items).tail = fits name items by
    have hlength := length_fits (c :: name) items
    unfold matchesName
    cases hrow : fits (c :: name) items with
    | nil => rw [hrow] at hlength; cases hlength
    | cons b row => rw [hrow] at h; rw [← h]; rfl
  fun_induction fits name items with
  | case1 => simp [fits]
  | case2 items ih => rw [fits, tail_hereOrLater, ih]
  | case3 item items _ ih =>
    have hlength := length_fits name items
    rw [fits, ih]
    · cases hrow : fits name items with
      | nil => rw [hrow] at hlength; cases hlength
      | cons b row => simp
    · assumption

/-- No items stand for the empty name only. -/
theorem matchesName_nil (name : List Char) : matchesName [] name = name.isEmpty := by
  cases name <;> rfl

theorem matchesName_anyText_nil (items : List Item) :
    matchesName (.anyText :: items) [] = matchesName items [] := by
  have hlength := length_fits [] items
  unfold matchesName
  rw [fits]
  cases hrow : fits [] items with
  | nil => rfl
  | cons b row =>
    rw [hrow] at hlength
    rw [List.eq_nil_of_length_eq_zero (Nat.succ.inj hlength)]
    exact Bool.or_false b

/-- `*` stands for nothing, or for one character and what `*` stands for after it. -/
theorem matchesName_anyText_cons (items : List Item) (c : Char) (name : List Char) :
    matchesName (.anyText :: items) (c :: name) =
      (matchesName items (c :: name) || matchesName (.anyText :: items) name) := by
  rw [matchesName, fits, fits_cons]
  rfl

theorem matchesName_item_nil {item : Item} (hitem : item ≠ .anyText) (items : List Item) :
    matchesName (item :: items) [] = false := by
  rw [matchesName, fits]
  · rfl
  · exact hitem

/-- Any other item stands for one character. -/
theorem matchesName_item_cons {item : Item} (hitem : item ≠ .anyText) (items : List Item)
    (c : Char) (name : List Char) :
    matchesName (item :: items) (c :: name) = (item.accepts c && matchesName items name) := by
  have hlength := length_fits name items
  rw [matchesName, fits, fits_cons]
  · unfold matchesName
    cases hrow : fits name items with
    | nil => rw [hrow] at hlength; cases hlength
    | cons b row => rfl
  · exact hitem

def Component.accepts (component : Component) (name : String) : Bool :=
  match component with
  | .directories => false
  | .literal text => name == text
  | .wild items => matchesName items name.toList

/-- `.` and `..` are found only by a component that starts with a dot. -/
def dotNames (items : List Item) : List String :=
  if items.head? = some (.char '.') then
    [".", ".."].filter fun name => matchesName items name.toList
  else []

def isCurrent (base : String) : Bool :=
  Path.parts base == [.current]

/-- A path one step below `base`; below the working directory it is the bare name. -/
def below (base name : String) : String :=
  if isCurrent base then name else Path.join base name

/-- The names in the directory at a path. -/
def namesAt (tree : FileTree) (base : String) : List String :=
  match tree.locate base with
  | .ok location => if tree.hasDirectory location then tree.names location else []
  | .error _ => []

/-- The directory at a path and all directories below it. -/
def directoriesAt (tree : FileTree) (base : String) : List String :=
  match tree.locate base with
  | .ok location =>
    if tree.hasDirectory location then
      (tree.directoriesFrom location).map fun names => names.foldl below base
    else []
  | .error _ => []

/-- The paths below `base` that match the components.  After `**` the next component is looked up by
name in every directory. -/
def expand (tree : FileTree) (base : String) : List Component → List String
  | [] => [base]
  | .literal text :: rest =>
    let next := below base text
    let found :=
      if text = "." ∨ text = ".." then tree.isDirectory base else tree.contains next
    if found then expand tree next rest else []
  | .wild items :: rest =>
    (if tree.isDirectory base then
        (dotNames items).flatMap fun name => expand tree (Path.join base name) rest
      else []) ++
      ((namesAt tree base).filter (Component.wild items).accepts).flatMap fun name =>
        expand tree (below base name) rest
  | [.directories] => directoriesAt tree base
  | .directories :: .directories :: rest => expand tree base (.directories :: rest)
  | .directories :: component :: rest =>
    (directoriesAt tree base).flatMap fun directory =>
      ((namesAt tree directory).filter component.accepts).flatMap fun name =>
        expand tree (below directory name) rest

/-- The files that match a pattern. -/
def files (tree : FileTree) (pattern : Pattern) : List String :=
  if pattern.directoriesOnly then []
  else (expand tree (if pattern.fromRoot then "/" else ".") pattern.components).filter tree.isFile

end ComponentDocs.Glob
