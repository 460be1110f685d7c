import ComponentDocs.Json
import Mathlib.Data.List.Basic

/-!
# The grammar of JSON documents

The whole grammar but for numbers, which no report has.  A judgment relates a text, the value that
stands at its start and the text behind that value; blanks may stand before every value and every
sign.  A string may hold any character but quotes, backslashes and controls as it is, and any
character as an escape: two `\u` escapes make up a character outside the basic plane, and half of
such a pair is no character.

Whatever a value is, its written form is a document for it (`document_pretty`).
-/

namespace ComponentDocs.Json

/-! ## Blanks and signs -/

def isSpace (c : Char) : Bool :=
  c == ' ' || c == '\t' || c == '\n' || c == '\r'

/-- `rest` is what follows some blanks. -/
def Space (cs rest : List Char) : Prop :=
  ∃ space : List Char, (∀ c ∈ space, isSpace c = true) ∧ cs = space ++ rest

/-- `rest` is what follows a sign after some blanks. -/
def Sign (sign : Char) (cs rest : List Char) : Prop :=
  Space cs (sign :: rest)

/-! ## Strings -/

def hexValue? (c : Char) : Option Nat :=
  if '0' ≤ c ∧ c ≤ '9' then some (c.toNat - 0x30)
  else if 'a' ≤ c ∧ c ≤ 'f' then some (c.toNat - 0x57)
  else if 'A' ≤ c ∧ c ≤ 'F' then some (c.toNat - 0x37)
  else none

/-- The number that four hexadecimal digits stand for. -/
def codeUnit? (a b c d : Char) : Option Nat := do
  return (((← hexValue? a) * 16 + (← hexValue? b)) * 16 + (← hexValue? c)) * 16 + (← hexValue? d)

/-- The character that a backslash and this mark stand for. -/
def shortEscape? : Char → Option Char
  | '"' => some '"'
  | '\\' => some '\\'
  | '/' => some '/'
  | 'b' => some '\x08'
  | 'f' => some '\x0c'
  | 'n' => some '\n'
  | 'r' => some '\r'
  | 't' => some '\t'
  | _ => none

def IsHighHalf (n : Nat) : Prop :=
  0xD800 ≤ n ∧ n < 0xDC00

def IsLowHalf (n : Nat) : Prop :=
  0xDC00 ≤ n ∧ n < 0xE000

instance (n : Nat) : Decidable (IsHighHalf n) :=
  inferInstanceAs (Decidable (_ ∧ _))

instance (n : Nat) : Decidable (IsLowHalf n) :=
  inferInstanceAs (Decidable (_ ∧ _))

/-- The character that the two halves of a pair stand for. -/
def pairChar (high low : Nat) : Char :=
  Char.ofNat (0x10000 + (high - 0xD800) * 0x400 + (low - 0xDC00))

/-- What follows a backslash stands for a character. -/
inductive Escape : List Char → Char → List Char → Prop
  | short {mark c : Char} {rest : List Char} (hmark : shortEscape? mark = some c) :
      Escape (mark :: rest) c rest
  | unit {a b c d : Char} {n : Nat} {rest : List Char} (hunit : codeUnit? a b c d = some n)
      (hwhole : ¬ IsHighHalf n ∧ ¬ IsLowHalf n) :
      Escape ('u' :: a :: b :: c :: d :: rest) (Char.ofNat n) rest
  | pair {a b c d e f g h : Char} {high low : Nat} {rest : List Char}
      (hfirst : codeUnit? a b c d = some high) (hhigh : IsHighHalf high)
      (hsecond : codeUnit? e f g h = some low) (hlow : IsLowHalf low) :
      Escape ('u' :: a :: b :: c :: d :: '\\' :: 'u' :: e :: f :: g :: h :: rest)
        (pairChar high low) rest

/-- A character that may stand in a string as it is. -/
def isPlain (c : Char) : Bool :=
  c != '"' && c != '\\' && 0x20 ≤ c.toNat

/-- The characters of a string up to its closing quote. -/
inductive Chars : List Char → List Char → List Char → Prop
  | close {rest : List Char} : Chars ('"' :: rest) [] rest
  | plain {c : Char} {cs text rest : List Char} (hplain : isPlain c = true)
      (hrest : Chars cs text rest) : Chars (c :: cs) (c :: text) rest
  | escape {c : Char} {cs middle text rest : List Char} (hescape : Escape cs c middle)
      (hrest : Chars middle text rest) : Chars ('\\' :: cs) (c :: text) rest

/-! ## Values -/

mutual

/-- A value at the start of a text. -/
inductive Value : List Char → Json → List Char → Prop
  | null {rest : List Char} : Value ('n' :: 'u' :: 'l' :: 'l' :: rest) .null rest
  | true {rest : List Char} : Value ('t' :: 'r' :: 'u' :: 'e' :: rest) (.bool true) rest
  | false {rest : List Char} : Value ('f' :: 'a' :: 'l' :: 's' :: 'e' :: rest) (.bool false) rest
  | string {cs text rest : List Char} (htext : Chars cs text rest) :
      Value ('"' :: cs) (.string (String.ofList text)) rest
  | emptyArray {cs rest : List Char} (hclose : Sign ']' cs rest) :
      Value ('[' :: cs) (.array []) rest
  | array {cs rest : List Char} {items : List Json} (hitems : Items cs items rest) :
      Value ('[' :: cs) (.array items) rest
  | emptyObject {cs rest : List Char} (hclose : Sign '\x7d' cs rest) :
      Value ('\x7b' :: cs) (.object []) rest
  | object {cs rest : List Char} {fields : List (String × Json)} (hfields : Fields cs fields rest) :
      Value ('\x7b' :: cs) (.object fields) rest

/-- The items of an array up to its closing bracket. -/
inductive Items : List Char → List Json → List Char → Prop
  | last {cs start middle rest : List Char} {item : Json} (hspace : Space cs start)
      (hitem : Value start item middle) (hclose : Sign ']' middle rest) : Items cs [item] rest
  | more {cs start middle next rest : List Char} {item : Json} {items : List Json}
      (hspace : Space cs start) (hitem : Value start item middle) (hcomma : Sign ',' middle next)
      (hitems : Items next items rest) : Items cs (item :: items) rest

/-- A field of an object: its name in quotes, a colon and its value. -/
inductive Field : List Char → String → Json → List Char → Prop
  | field {cs key colon before start rest name : List Char} {value : Json}
      (hquote : Sign '"' cs key) (hname : Chars key name colon) (hcolon : Sign ':' colon before)
      (hspace : Space before start) (hvalue : Value start value rest) :
      Field cs (String.ofList name) value rest

/-- The fields of an object up to its closing brace. -/
inductive Fields : List Char → List (String × Json) → List Char → Prop
  | last {cs middle rest : List Char} {name : String} {value : Json}
      (hfield : Field cs name value middle) (hclose : Sign '\x7d' middle rest) :
      Fields cs [(name, value)] rest
  | more {cs middle next rest : List Char} {name : String} {value : Json}
      {fields : List (String × Json)} (hfield : Field cs name value middle)
      (hcomma : Sign ',' middle next) (hfields : Fields next fields rest) :
      Fields cs ((name, value) :: fields) rest

end

/-- A whole text that consists of a value, with blanks around it. -/
def Document (cs : List Char) (json : Json) : Prop :=
  ∃ start rest, Space cs start ∧ Value start json rest ∧ Space rest []

/-! ## Written values -/

theorem space_self (cs : List Char) : Space cs cs :=
  ⟨[], by simp, rfl⟩

theorem space_cons {c : Char} (hc : isSpace c = true) (rest : List Char) : Space (c :: rest) rest :=
  ⟨[c], by simpa using hc, rfl⟩

theorem isSpace_newLine {level : Nat} {c : Char} (h : c ∈ newLine level) : isSpace c = true := by
  rw [newLine, List.mem_cons, List.mem_replicate] at h
  rcases h with rfl | ⟨-, rfl⟩ <;> rfl

theorem space_newLine (level : Nat) (rest : List Char) : Space (newLine level ++ rest) rest :=
  ⟨newLine level, fun _ => isSpace_newLine, rfl⟩

/-- The number that the escape of a control character writes. -/
theorem codeUnit?_control {n : Nat} (hn : n < 0x20) :
    codeUnit? '0' '0' (hexDigit (n / 16)) (hexDigit (n % 16)) = some n := by
  revert n
  decide

theorem chars_escapeChar {text rest middle : List Char} (c : Char)
    (hrest : Chars middle text rest) : Chars (escapeChar c ++ middle) (c :: text) rest := by
  unfold escapeChar
  split
  case isTrue h => rw [h]; exact .escape (.short rfl) hrest
  split
  case isTrue h => rw [h]; exact .escape (.short rfl) hrest
  split
  case isTrue h => rw [h]; exact .escape (.short rfl) hrest
  split
  case isTrue h => rw [h]; exact .escape (.short rfl) hrest
  split
  case isTrue h => rw [h]; exact .escape (.short rfl) hrest
  split
  case isTrue h => rw [h]; exact .escape (.short rfl) hrest
  split
  case isTrue h => rw [h]; exact .escape (.short rfl) hrest
  split
  case isTrue hcontrol =>
    have hescape : Escape ('u' :: '0' :: '0' :: hexDigit (c.toNat / 16) ::
        hexDigit (c.toNat % 16) :: middle) (Char.ofNat c.toNat) middle := by
      refine .unit (codeUnit?_control hcontrol) ⟨?_, ?_⟩
      · unfold IsHighHalf; omega
      · unfold IsLowHalf; omega
    rw [Char.ofNat_toNat] at hescape
    exact .escape hescape hrest
  case isFalse hquote hbackslash _ _ _ _ _ hcontrol =>
    refine .plain ?_ hrest
    simp only [isPlain, Bool.and_eq_true, bne_iff_ne, decide_eq_true_eq]
    exact ⟨⟨hquote, hbackslash⟩, by omega⟩

theorem chars_flatMap_escapeChar (text rest : List Char) :
    Chars (text.flatMap escapeChar ++ '"' :: rest) text rest := by
  induction text with
  | nil => exact .close
  | cons c text ih =>
    rw [List.flatMap_cons, List.append_assoc]
    exact chars_escapeChar c ih

theorem writeString_append (s : String) (rest : List Char) :
    writeString s ++ rest = '"' :: (s.toList.flatMap escapeChar ++ '"' :: rest) := by
  simp [writeString]

/-- A fact about all values: about those that are not made of others, and about arrays and objects
when it holds of their parts. -/
theorem induction {P : Json → Prop} (null : P .null) (bool : ∀ value, P (.bool value))
    (string : ∀ value, P (.string value))
    (array : ∀ items, (∀ item ∈ items, P item) → P (.array items))
    (object : ∀ fields, (∀ field ∈ fields, P field.2) → P (.object fields)) : ∀ json, P json
  | .null => null
  | .bool value => bool value
  | .string value => string value
  | .array items => array items fun item _h => induction null bool string array object item
  | .object fields =>
    object fields fun field _h => induction null bool string array object field.2
termination_by json => sizeOf json
decreasing_by
  · have hlt := List.sizeOf_lt_of_mem _h
    simp only [Json.array.sizeOf_spec]
    omega
  · have hlt := List.sizeOf_lt_of_mem _h
    have hfield : sizeOf field.2 < sizeOf field := by
      obtain ⟨key, value⟩ := field
      simp only [Prod.mk.sizeOf_spec]
      omega
    simp only [Json.object.sizeOf_spec]
    omega

theorem items_write {level : Nat} (outer : Nat) (rest : List Char) {item : Json}
    {items : List Json}
    (h : ∀ value ∈ item :: items, ∀ rest, Value (write level value ++ rest) value rest) :
    Items (newLine level ++ (write level item ++ (writeItems level items ++
      (newLine outer ++ ([']'] ++ rest))))) (item :: items) rest := by
  induction items generalizing item with
  | nil =>
    rw [writeItems]
    exact .last (space_newLine _ _) (h item List.mem_cons_self _) (space_newLine _ _)
  | cons next items ih =>
    have hrest := ih fun value hvalue => h value (List.mem_cons_of_mem _ hvalue)
    rw [writeItems]
    simp only [List.cons_append, List.append_assoc] at hrest ⊢
    exact .more (space_newLine _ _) (h item List.mem_cons_self _) (space_self _) hrest

theorem field_write {level : Nat} {value : Json} (key : String) (rest : List Char)
    (h : Value (write level value ++ rest) value rest) :
    Field (newLine level ++ (writeString key ++ ([':', ' '] ++ (write level value ++ rest))))
      key value rest := by
  have hfield := Field.field (space_newLine level _)
    (chars_flatMap_escapeChar key.toList ([':', ' '] ++ (write level value ++ rest)))
    (space_self _) (space_cons rfl _) h
  rw [String.ofList_toList] at hfield
  rwa [writeString_append]

theorem fields_write {level : Nat} (outer : Nat) (rest : List Char) {key : String} {value : Json}
    {fields : List (String × Json)}
    (h : ∀ field ∈ (key, value) :: fields, ∀ rest,
      Value (write level field.2 ++ rest) field.2 rest) :
    Fields (newLine level ++ (writeString key ++ ([':', ' '] ++ (write level value ++
      (writeFields level fields ++ (newLine outer ++ (['\x7d'] ++ rest)))))))
      ((key, value) :: fields) rest := by
  induction fields generalizing key value with
  | nil =>
    rw [writeFields]
    exact .last (field_write key _ (h _ List.mem_cons_self _)) (space_newLine _ _)
  | cons next fields ih =>
    obtain ⟨nextKey, nextValue⟩ := next
    have hrest := ih fun field hfield => h field (List.mem_cons_of_mem _ hfield)
    rw [writeFields]
    simp only [List.cons_append, List.append_assoc] at hrest ⊢
    exact .more (field_write key _ (h _ List.mem_cons_self _)) (space_self _) hrest

/-- The written form of a value is read as this value, whatever follows it. -/
theorem value_write (json : Json) :
    ∀ (level : Nat) (rest : List Char), Value (write level json ++ rest) json rest := by
  induction json using Json.induction with
  | null => intro level rest; rw [write]; exact .null
  | bool value =>
    intro level rest
    cases value with
    | true => rw [write]; exact .true
    | false => rw [write]; exact .false
  | string value =>
    intro level rest
    have hvalue := Value.string (chars_flatMap_escapeChar value.toList rest)
    rw [String.ofList_toList] at hvalue
    rwa [write, writeString_append]
  | array items ih =>
    intro level rest
    cases items with
    | nil => rw [write]; exact .emptyArray (space_self _)
    | cons item items =>
      rw [write]
      simp only [List.cons_append, List.append_assoc]
      exact .array (items_write level rest fun value hvalue => ih value hvalue (level + 1))
  | object fields ih =>
    intro level rest
    cases fields with
    | nil => rw [write]; exact .emptyObject (space_self _)
    | cons field fields =>
      obtain ⟨key, value⟩ := field
      rw [write]
      simp only [List.cons_append, List.append_assoc]
      exact .object (fields_write level rest fun field hfield => ih field hfield (level + 1))

/-- The written form of a value is a document for it, also with a line feed behind it. -/
theorem document_pretty (json : Json) :
    Document json.pretty json ∧ Document (json.pretty ++ ['\n']) json := by
  have hvalue := value_write json 0 []
  rw [List.append_nil] at hvalue
  exact ⟨⟨_, _, space_self _, hvalue, space_self _⟩,
    _, _, space_self _, value_write json 0 ['\n'], space_cons rfl _⟩

end ComponentDocs.Json
