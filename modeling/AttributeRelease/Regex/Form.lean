/-!
# Written forms of patterns

What the text of a pattern says, before any of it is given a meaning: which parts it has, and how
they are put together.
-/

namespace AttributeRelease.Regex

/-- A character of a pattern. -/
structure Literal where
  char : Char
  /-- Whether it is spelled by two hexadecimal digits, so that it may mean a single byte. -/
  isByte : Bool
  deriving DecidableEq, Repr

/-- A set of characters that has a name. -/
inductive NamedSet where
  | digit
  | space
  | word
  /-- One of the named sets of ASCII characters. -/
  | ascii (name : String)
  | property (name : String)
  | propertyValue (name value : String)
  deriving DecidableEq, Repr

/-- How two sets between brackets are combined. -/
inductive SetOperation where
  | intersection
  | difference
  | symmetricDifference
  deriving DecidableEq, Repr

/-- What stands between brackets. -/
inductive SetForm where
  | literal (literal : Literal)
  | range (first last : Literal)
  | named (negated : Bool) (set : NamedSet)
  | bracketed (negated : Bool) (inner : SetForm)
  | union (parts : List SetForm)
  | combined (operation : SetOperation) (left right : SetForm)

/-- A condition on the place between two characters, as it is written. -/
inductive Assertion where
  | lineStart
  | lineEnd
  | textStart
  | textEnd
  | wordBoundary
  | noWordBoundary
  | wordStart
  | wordEnd
  | wordStartHalf
  | wordEndHalf
  deriving DecidableEq, Repr

/-- A setting that a pattern can switch. -/
inductive Flag where
  | ignoreCase
  | multiLine
  | dotAll
  | swapGreed
  | unicode
  | anyLineEnd
  | extended
  deriving DecidableEq, Repr

/-- The settings that a pattern switches at one place, each on or off. -/
abbrev Switches := List (Flag × Bool)

/-- What a group is for besides holding its parts together. -/
inductive GroupKind where
  /-- To switch settings inside it, or for nothing else. -/
  | plain (switches : Switches)
  | numbered
  | named (name : String)
  deriving DecidableEq, Repr

/-- The settings that hold inside a group besides those around it. -/
def GroupKind.switches : GroupKind → Switches
  | plain switches => switches
  | _ => []

/-- The name that a group has. -/
def GroupKind.name? : GroupKind → Option String
  | named name => some name
  | _ => none

/-- The written form of a pattern. -/
inductive Form where
  | empty
  | switches (switches : Switches)
  | literal (literal : Literal)
  | dot
  | assertion (assertion : Assertion)
  | named (negated : Bool) (set : NamedSet)
  | bracketed (negated : Bool) (inner : SetForm)
  /-- So many repetitions; `isLazy` tells whether a mark asks for as few as possible. -/
  | repeated (body : Form) (least : Nat) (most : Option Nat) (isLazy : Bool)
  | group (kind : GroupKind) (body : Form)
  | alternation (branches : List Form)
  | concatenation (parts : List Form)

/-- How deep the parts of a set are nested. -/
def SetForm.depth : SetForm → Nat
  | literal _ => 0
  | range _ _ => 0
  | named _ _ => 0
  | bracketed _ inner => inner.depth + 1
  | union [] => 0
  | union parts => depths parts + 1
  | combined _ left right => max left.depth right.depth + 1
where
  /-- The greatest depth of several parts. -/
  depths : List SetForm → Nat
    | [] => 0
    | part :: rest => max part.depth (depths rest)

/-- How deep the parts of a pattern are nested. -/
def Form.depth : Form → Nat
  | bracketed _ inner => inner.depth + 1
  | repeated body _ _ _ => body.depth + 1
  | group _ body => body.depth + 1
  | alternation branches => depths branches + 1
  | concatenation parts => depths parts + 1
  | _ => 0
where
  /-- The greatest depth of several parts. -/
  depths : List Form → Nat
    | [] => 0
    | part :: rest => max part.depth (depths rest)

/-- The names of the groups of a pattern, in order. -/
def Form.groupNames : Form → List String
  | repeated body _ _ _ => body.groupNames
  | group kind body => kind.name?.toList ++ body.groupNames
  | alternation branches => allNames branches
  | concatenation parts => allNames parts
  | _ => []
where
  /-- The names of the groups of several parts. -/
  allNames : List Form → List String
    | [] => []
    | part :: rest => part.groupNames ++ allNames rest

end AttributeRelease.Regex
