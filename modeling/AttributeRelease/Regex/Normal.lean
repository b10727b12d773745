import AttributeRelease.Regex.Atom

/-!
# Normal forms of patterns

Patterns without what their spelling has too much: parts next to each other are joined to texts,
nested sequences and choices are one, a choice between characters is a set, and what cannot be
repeated with an effect is not repeated. The functions named like the constructors of `Normal` build
such forms, and `Normal.regex` is the expression that one stands for.
-/

namespace AttributeRelease.Regex

open AttributeRelease.Unicode (CharSet)

/-- A pattern in normal form. -/
inductive Normal where
  | empty
  /-- Characters one after the other, at least one. -/
  | text (chars : List Char)
  /-- One character of a set, which is no set of one; `unicode` tells whether it was described by
  characters or by bytes. -/
  | member (unicode : Bool) (set : CharSet)
  /-- A condition on a place; `unicode` tells which characters words are made of. -/
  | look (unicode : Bool) (condition : Look)
  | loop (body : Normal) (least : Nat) (most : Option Nat) (isLazy : Bool)
  /-- A group that remembers what it matched. -/
  | captured (body : Normal)
  | sequence (parts : List Normal)
  | choice (branches : List Normal)

namespace Normal

/-- The length of the shortest text that a pattern can match, if it can match any. -/
def shortest? : Normal → Option Nat
  | empty => some 0
  | text chars => some chars.length
  | member _ set => if set.isEmpty then none else some 1
  | look _ _ => some 0
  | loop body least _ _ => body.shortest?.map (· * least)
  | captured body => body.shortest?
  | sequence parts => sum? parts
  | choice branches => least? branches
where
  /-- The sum over parts, if each has a shortest text. -/
  sum? : List Normal → Option Nat
    | [] => some 0
    | part :: rest => do return (← part.shortest?) + (← sum? rest)
  /-- The least over branches, if each has a shortest text. -/
  least? : List Normal → Option Nat
    | [] => none
    | [branch] => branch.shortest?
    | branch :: rest => do return min (← branch.shortest?) (← least? rest)

/-- Whether a pattern is known to match no text but the empty one. -/
def matchesEmptyOnly : Normal → Bool
  | empty => true
  | text chars => chars.isEmpty
  | member _ _ => false
  | look _ _ => true
  | loop body _ most _ => most.isSome && body.matchesEmptyOnly
  | captured body => body.matchesEmptyOnly
  | sequence parts => all parts
  | choice branches => all branches
where
  /-- Whether each of several patterns is known to match no text but the empty one. -/
  all : List Normal → Bool
    | [] => true
    | part :: rest => part.matchesEmptyOnly && all rest

/-- Whether every match of a pattern is known to begin with a condition. -/
def beginsWith (condition : Look) : Normal → Bool
  | look _ held => held == condition
  | loop body least _ _ => 0 < least && body.beginsWith condition
  | captured body => body.beginsWith condition
  | sequence parts => anyFirst parts
  | choice branches => all branches
  | _ => false
where
  /-- Whether a part before which the others are empty begins with the condition. -/
  anyFirst : List Normal → Bool
    | [] => false
    | part :: rest => part.beginsWith condition || (part.matchesEmptyOnly && anyFirst rest)
  /-- Whether each branch begins with the condition. -/
  all : List Normal → Bool
    | [] => true
    | branch :: rest => branch.beginsWith condition && all rest

/-- Whether every match of a pattern is known to end with a condition. -/
def endsWith (condition : Look) : Normal → Bool
  | look _ held => held == condition
  | loop body least _ _ => 0 < least && body.endsWith condition
  | captured body => body.endsWith condition
  | sequence parts => (anyLast parts).1
  | choice branches => all branches
  | _ => false
where
  /-- Whether a part after which the others are empty ends with the condition, and whether all parts
  are empty. -/
  anyLast : List Normal → Bool × Bool
    | [] => (false, true)
    | part :: rest =>
      let (found, isEmpty) := anyLast rest
      (found || (isEmpty && part.endsWith condition), isEmpty && part.matchesEmptyOnly)
  /-- Whether each branch ends with the condition. -/
  all : List Normal → Bool
    | [] => true
    | branch :: rest => branch.endsWith condition && all rest

/-- Whether two patterns have the same parts. Groups that remember are never the same, since each has
a number of its own. -/
def same : Normal → Normal → Bool
  | empty, empty => true
  | text chars, text others => chars == others
  | member unicode set, member otherUnicode other => unicode == otherUnicode && set == other
  | look unicode condition, look otherUnicode other =>
    unicode == otherUnicode && condition == other
  | loop body least most isLazy, loop other otherLeast otherMost otherLazy =>
    least == otherLeast && most == otherMost && isLazy == otherLazy && body.same other
  | sequence parts, sequence others => allSame parts others
  | choice branches, choice others => allSame branches others
  | _, _ => false
where
  /-- Whether two lists have the same members in the same order. -/
  allSame : List Normal → List Normal → Bool
    | [], [] => true
    | part :: rest, other :: others => part.same other && allSame rest others
    | _, _ => false

/-- One character of a set, which may have one member alone or none. -/
def ofSet (unicode : Bool) (set : CharSet) : Normal :=
  match set.onlyMember? with
  | some c => text [c]
  | none => member (unicode && !set.isEmpty) set

/-- Repetitions of a pattern. One that matches nothing but the empty text is repeated once at most, no
repetition at all is nothing, and exactly one is the pattern itself. -/
def repeated (body : Normal) (least : Nat) (most : Option Nat) (isLazy : Bool) : Normal :=
  let (least, most) :=
    if body.matchesEmptyOnly then (min least 1, some (min (most.getD 1) 1)) else (least, most)
  if least = 0 ∧ most = some 0 then empty
  else if least = 1 ∧ most = some 1 then body
  else loop body least most isLazy

/-- Puts a part before others, joined with the text that they begin with if it is one too. -/
def addFirst : Normal → List Normal → List Normal
  | empty, rest => rest
  | text chars, text others :: rest => text (chars ++ others) :: rest
  | part, rest => part :: rest

/-- The parts that a pattern is a sequence of. -/
def parts : Normal → List Normal
  | sequence parts => parts
  | part => [part]

/-- The branches that a pattern is a choice between. -/
def branches : Normal → List Normal
  | choice branches => branches
  | branch => [branch]

/-- Patterns one after the other. -/
def inSequence (patterns : List Normal) : Normal :=
  match (patterns.flatMap parts).foldr addFirst [] with
  | [] => empty
  | [part] => part
  | all => sequence all

/-- The character that a pattern stands for alone. -/
def char? : Normal → Option Char
  | text [c] => some c
  | _ => none

/-- The set that a pattern takes one character of. -/
def set? : Normal → Option CharSet
  | member _ set => some set
  | _ => none

/-- The number of parts at the beginning that two lists share. -/
def sharedLength : List Normal → List Normal → Nat
  | part :: rest, other :: others => if part.same other then sharedLength rest others + 1 else 0
  | _, _ => 0

/-- The number of parts at the beginning that all branches share, each a sequence. -/
def commonLength : List Normal → Nat
  | sequence first :: rest =>
    rest.foldl (fun count branch =>
      match branch with
      | sequence parts => min count (sharedLength first parts)
      | _ => 0) first.length
  | _ => 0

/-- The sum of the numbers of parts of branches. -/
def partCount (patterns : List Normal) : Nat :=
  patterns.foldl (fun count pattern => count + pattern.parts.length) 0

/-- A choice between patterns, in which beginnings that all branches share are taken out at most
`depth` times. -/
def amongWithin (depth : Nat) (patterns : List Normal) : Normal :=
  match patterns.flatMap branches with
  | [] => ofSet false CharSet.empty
  | [branch] => branch
  | all =>
    match all.mapM char?, all.mapM set?, depth with
    | some chars, _, _ => ofSet true (CharSet.ofList chars)
    | none, some sets, _ => ofSet true (CharSet.unions sets)
    | none, none, 0 => choice all
    | none, none, depth + 1 =>
      let count := commonLength all
      if count = 0 then choice all
      else
        let shared := (all.head?.map parts).getD []
        let rests := all.map fun branch => inSequence (branch.parts.drop count)
        inSequence (shared.take count ++ [amongWithin depth rests])

/-- A choice between patterns. -/
def among (patterns : List Normal) : Normal := amongWithin (partCount patterns) patterns

/-- The characters that words are made of. -/
def wordSet (unicode : Bool) : CharSet :=
  if unicode then Unicode.wordChars
  else CharSet.ofRanges [('0'.toNat, '9'.toNat), ('A'.toNat, 'Z'.toNat), ('_'.toNat, '_'.toNat),
    ('a'.toNat, 'z'.toNat)]

/-- The expression over characters that a pattern stands for. -/
def regex : Normal → Regex Atom
  | empty => .empty
  | text chars => Regex.sequence (chars.map fun c => .atom (.one (CharSet.singleton c)))
  | member _ set => .atom (.one set)
  | look unicode condition => .atom (.look (wordSet unicode) condition)
  | loop body least most _ => Regex.repeated body.regex least most
  | captured body => body.regex
  | sequence parts => inTurn parts
  | choice branches => oneOf branches
where
  /-- The expression of parts one after the other. -/
  inTurn : List Normal → Regex Atom
    | [] => .empty
    | [part] => part.regex
    | part :: rest => .seq part.regex (inTurn rest)
  /-- The expression of branches side by side. -/
  oneOf : List Normal → Regex Atom
    | [] => .atom (.one CharSet.empty)
    | [branch] => branch.regex
    | branch :: rest => .alt branch.regex (oneOf rest)

end Normal

end AttributeRelease.Regex
