/-!
# Class declarations

What is kept of a TypeScript source file: its top-level classes with their decorators, base class
and member signatures.  Texts that are kept as written (a decorator, a type, the name of a
computed member) are slices of the source.
-/

namespace ComponentDocs

/-- An argument of a decorator.  Literals, identifiers, arrays and objects have structure;
everything else is kept as its source text. -/
inductive Expr where
  | string (value : String)
  | name (text : String)
  | array (items : List Expr)
  | object (entries : List (String × Expr))
  | other (text : String)

namespace Expr

/-- The value at the first occurrence of a key of an object literal. -/
def field? (expr : Expr) (key : String) : Option Expr :=
  match expr with
  | .object entries => entries.lookup key
  | _ => none

def string? : Expr → Option String
  | .string value => some value
  | _ => none

def name? : Expr → Option String
  | .name text => some text
  | _ => none

def array? : Expr → Option (List Expr)
  | .array items => some items
  | _ => none

def isObject : Expr → Bool
  | .object _ => true
  | _ => false

/-! Expressions can be compared, which the nesting of lists in them keeps from being derived. -/

mutual

def decEq : (a b : Expr) → Decidable (a = b)
  | .string s, .string t =>
    if h : s = t then .isTrue (by rw [h]) else .isFalse fun e => h (string.inj e)
  | .name s, .name t =>
    if h : s = t then .isTrue (by rw [h]) else .isFalse fun e => h (name.inj e)
  | .other s, .other t =>
    if h : s = t then .isTrue (by rw [h]) else .isFalse fun e => h (other.inj e)
  | .array xs, .array ys =>
    match decEqItems xs ys with
    | .isTrue h => .isTrue (by rw [h])
    | .isFalse h => .isFalse fun e => h (array.inj e)
  | .object xs, .object ys =>
    match decEqEntries xs ys with
    | .isTrue h => .isTrue (by rw [h])
    | .isFalse h => .isFalse fun e => h (object.inj e)
  | .string _, .name _ | .string _, .array _ | .string _, .object _ | .string _, .other _
  | .name _, .string _ | .name _, .array _ | .name _, .object _ | .name _, .other _
  | .array _, .string _ | .array _, .name _ | .array _, .object _ | .array _, .other _
  | .object _, .string _ | .object _, .name _ | .object _, .array _ | .object _, .other _
  | .other _, .string _ | .other _, .name _ | .other _, .array _ | .other _, .object _ =>
    .isFalse nofun

def decEqItems : (xs ys : List Expr) → Decidable (xs = ys)
  | [], [] => .isTrue rfl
  | [], _ :: _ | _ :: _, [] => .isFalse nofun
  | x :: xs, y :: ys =>
    match decEq x y, decEqItems xs ys with
    | .isTrue hx, .isTrue hxs => .isTrue (by rw [hx, hxs])
    | .isFalse hx, _ => .isFalse fun e => hx (List.cons.inj e).1
    | _, .isFalse hxs => .isFalse fun e => hxs (List.cons.inj e).2

def decEqEntries : (xs ys : List (String × Expr)) → Decidable (xs = ys)
  | [], [] => .isTrue rfl
  | [], _ :: _ | _ :: _, [] => .isFalse nofun
  | (k, x) :: xs, (l, y) :: ys =>
    if hk : k = l then
      match decEq x y, decEqEntries xs ys with
      | .isTrue hx, .isTrue hxs => .isTrue (by rw [hk, hx, hxs])
      | .isFalse hx, _ => .isFalse fun e => hx (Prod.mk.inj (List.cons.inj e).1).2
      | _, .isFalse hxs => .isFalse fun e => hxs (List.cons.inj e).2
    else .isFalse fun e => hk (Prod.mk.inj (List.cons.inj e).1).1

end

instance : DecidableEq Expr :=
  decEq

end Expr

structure Decorator where
  /-- Last part of a dotted name. -/
  name : String
  /-- The decorator as written, from the at sign to its last argument. -/
  text : String
  arguments : List Expr
  deriving DecidableEq

/-- The access modifiers `public`, `protected` and `private`. -/
inductive Access where
  | publicAccess
  | protectedAccess
  | privateAccess
  deriving DecidableEq

structure Modifiers where
  access : Option Access
  isStatic : Bool
  isReadonly : Bool
  isAbstract : Bool
  /-- The name starts with a hash sign. -/
  isPrivateName : Bool
  deriving DecidableEq

def Modifiers.none : Modifiers :=
  ⟨.none, false, false, false, false⟩

inductive Member.Kind where
  | property
  | method
  | accessor
  | constructor
  | indexSignature
  deriving DecidableEq

structure Member where
  kind : Member.Kind
  name : String
  modifiers : Modifiers
  decorators : List Decorator
  /-- Doc block directly before the member, as written. -/
  doc : Option String
  /-- Declared type of a property, as written. -/
  type : Option String
  deriving DecidableEq

structure ClassDecl where
  name : String
  /-- Line of the first token of the declaration. -/
  line : Nat
  doc : Option String
  decorators : List Decorator
  /-- Last part of a plain base class name, without type arguments. -/
  base : Option String
  members : List Member
  deriving DecidableEq

structure SourceFile where
  name : String
  classes : List ClassDecl
  deriving DecidableEq

end ComponentDocs
