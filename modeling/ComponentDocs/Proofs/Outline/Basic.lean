import ComponentDocs.Declaration.File
import ComponentDocs.Proofs.Declaration.Cursor

/-!
# Outlines of classes

An outline holds what is kept of a class declaration, and nothing else: `ClassOutline.print` is its
canonical text and `ClassOutline.declaration` the declaration it stands for.

Names are arbitrary, so a member may be called `static` or `get`.  The name of a class is neither
`extends` nor `implements`, because a class whose header begins with these words has no name.  Doc
blocks and types are given as texts, together with the fact that they are read as one.
-/

namespace ComponentDocs

open Text Token

/-- The text is read as one doc block. -/
def IsDocText (text : String) : Prop :=
  ∃ token, scan text = [token] ∧ token.isDocBlock = true ∧ token.text = text

structure DocText where
  text : String
  isDocText : IsDocText text

/-- A type as it stands behind the name of a property. -/
def annotated (type : String) : String :=
  ": " ++ type ++ ";"

/-- The text is one type: behind a name, everything between the colon and the semicolon is read as
its parts.  A type has neither blank space nor comments at its ends. -/
structure IsTypeText (text : String) : Prop where
  trim_eq : trim text.toList = text.toList
  ne_error : ∀ token ∈ scan (annotated text), token.kind ≠ .error
  skipType_eq : ∃ colon first tokens stop,
    scan (annotated text) = colon :: first :: (tokens ++ [stop]) ∧
      first.kind.isComment = false ∧ stop.kind = .semicolon ∧
      Declaration.skipType (Terminal.ofTokens (first :: (tokens ++ [stop]))) = .ok [⟨[], stop⟩]

structure TypeText where
  text : String
  isTypeText : IsTypeText text

/-! ## Members -/

/-- What follows the name of a member. -/
inductive Signature where
  | property (type : Option TypeText)
  | method

structure MemberOutline where
  doc : Option DocText
  decorators : List Identifier
  access : Option Access
  isStatic : Bool
  isReadonly : Bool
  isAbstract : Bool
  /-- The name is printed behind a hash sign. -/
  isPrivateName : Bool
  name : Identifier
  signature : Signature

/-- A doc block on a line of its own. -/
def docLine : Option DocText → List Char
  | none => []
  | some doc => doc.text.toList ++ ['\n']

/-- Decorators without arguments, each on a line of its own. -/
def decoratorLines (names : List Identifier) : List Char :=
  names.flatMap fun name => '@' :: (name.chars ++ ['\n'])

/-- Words in a row, each with a space behind it. -/
def spacedWords (words : List Identifier) : List Char :=
  words.flatMap fun word => word.chars ++ [' ']

theorem decoratorLines_cons (name : Identifier) (names : List Identifier) :
    decoratorLines (name :: names) = '@' :: (name.chars ++ ['\n']) ++ decoratorLines names :=
  List.flatMap_cons

theorem spacedWords_cons (word : Identifier) (words : List Identifier) :
    spacedWords (word :: words) = word.chars ++ [' '] ++ spacedWords words :=
  List.flatMap_cons

def Access.keyword : Access → Identifier
  | .publicAccess => ⟨"public", by decide⟩
  | .protectedAccess => ⟨"protected", by decide⟩
  | .privateAccess => ⟨"private", by decide⟩

/-- The modifier words of a member in their canonical order. -/
def keywords (access : Option Access) (isStatic isReadonly isAbstract : Bool) : List Identifier :=
  (access.map Access.keyword).toList ++
    (if isStatic then [⟨"static", by decide⟩] else []) ++
    (if isReadonly then [⟨"readonly", by decide⟩] else []) ++
    (if isAbstract then [⟨"abstract", by decide⟩] else [])

namespace Signature

def print : Signature → List Char
  | .property none => [';']
  | .property (some type) => (annotated type.text).toList
  | .method => "() \x7b\x7d".toList

def type? : Signature → Option String
  | .property type => type.map TypeText.text
  | .method => none

end Signature

namespace MemberOutline

variable (member : MemberOutline)

def words : List Identifier :=
  keywords member.access member.isStatic member.isReadonly member.isAbstract

def printName : List Char :=
  (if member.isPrivateName then ['#'] else []) ++ member.name.chars

def print : List Char :=
  docLine member.doc ++ (decoratorLines member.decorators ++
    (spacedWords member.words ++ (member.printName ++ (member.signature.print ++ ['\n']))))

/-- A method with the name `constructor` is the constructor of its class. -/
def kind : Member.Kind :=
  match member.signature with
  | .property _ => .property
  | .method =>
    if member.name.text = "constructor" ∧ member.isPrivateName = false then .constructor else .method

/-- A decorator without arguments. -/
def plainDecorator (name : Identifier) : Decorator :=
  ⟨name.text, "@" ++ name.text, []⟩

def declaration : Member where
  kind := member.kind
  name := (if member.isPrivateName then "#" else "") ++ member.name.text
  modifiers := ⟨member.access, member.isStatic, member.isReadonly, member.isAbstract,
    member.isPrivateName⟩
  decorators := member.decorators.map plainDecorator
  doc := member.doc.map DocText.text
  type := member.signature.type?

end MemberOutline

/-! ## Classes -/

structure ClassOutline where
  doc : Option DocText
  decorators : List Identifier
  name : Identifier
  name_ne : name.text ≠ "extends" ∧ name.text ≠ "implements"
  base : Option Identifier
  members : List MemberOutline

def classKeyword : Identifier :=
  ⟨"class", by decide⟩

def extendsKeyword : Identifier :=
  ⟨"extends", by decide⟩

namespace ClassOutline

variable (decl : ClassOutline)

def printBase : Option Identifier → List Char
  | none => []
  | some base => " extends ".toList ++ base.chars

theorem printBase_some (base : Identifier) :
    printBase (some base) = " extends ".toList ++ base.chars :=
  rfl

def print : List Char :=
  docLine decl.doc ++ (decoratorLines decl.decorators ++
    ("class ".toList ++ (decl.name.chars ++ (printBase decl.base ++ (" \x7b\n".toList ++
      (decl.members.flatMap MemberOutline.print ++ "\x7d\n".toList))))))

/-- The declaration of the class when its text starts at `line`. Its own line is that of the first
token that is no comment, so the one after the doc block. -/
def declaration (line : Nat) : ClassDecl where
  name := decl.name.text
  line := line + countNewlines (docLine decl.doc)
  doc := decl.doc.map DocText.text
  decorators := decl.decorators.map MemberOutline.plainDecorator
  base := decl.base.map Identifier.text
  members := decl.members.map MemberOutline.declaration

/-- The text of several classes, one after the other. -/
def printAll (decls : List ClassOutline) : String :=
  String.ofList (decls.flatMap print)

/-- The declarations of classes whose text starts at `line`. -/
def declarations (line : Nat) : List ClassOutline → List ClassDecl
  | [] => []
  | decl :: decls =>
    decl.declaration line :: declarations (line + countNewlines decl.print) decls

end ClassOutline

end ComponentDocs
