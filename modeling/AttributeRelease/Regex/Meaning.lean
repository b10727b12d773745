import AttributeRelease.Regex.Form
import AttributeRelease.Regex.Normal

/-!
# The meaning of patterns

The normal form that the written form of a pattern denotes. Settings hold from where they are
switched to the end of the enclosing group, over all its branches. Without Unicode, sets hold ASCII
characters only, so every set that reaches beyond them, as all negated ones do, is refused.
-/

namespace AttributeRelease.Regex

open AttributeRelease.Unicode (CharSet)

/-- The settings that hold at one place of a pattern. -/
structure Settings where
  ignoreCase : Bool
  multiLine : Bool
  dotAll : Bool
  swapGreed : Bool
  unicode : Bool
  anyLineEnd : Bool

namespace Settings

/-- The settings at the beginning of a pattern. -/
def initial : Settings := ⟨false, false, false, false, true, false⟩

/-- The settings after one is switched. Blanks were dealt with in reading the pattern. -/
def switch (settings : Settings) : Flag × Bool → Settings
  | (.ignoreCase, on) => { settings with ignoreCase := on }
  | (.multiLine, on) => { settings with multiLine := on }
  | (.dotAll, on) => { settings with dotAll := on }
  | (.unicode, on) => { settings with unicode := on }
  | (.anyLineEnd, on) => { settings with anyLineEnd := on }
  | (.swapGreed, on) => { settings with swapGreed := on }
  | (.extended, _) => settings

/-- The settings after several are switched. -/
def switchAll (settings : Settings) (switches : Switches) : Settings :=
  switches.foldl switch settings

/-- The characters that a character is the same as when case does not count. -/
def foldings (settings : Settings) (c : Char) : List Char :=
  if settings.unicode then Unicode.sameFolding c else [c.toLower, c.toUpper]

/-- The set with all characters that are the same as members, if case does not count. -/
def fold (settings : Settings) (set : CharSet) : CharSet :=
  if settings.ignoreCase then
    if settings.unicode then set.folded
    else set.union ((CharSet.range '\x00' '\x7f').intersection set.folded)
  else set

/-- The complement of a set if it is negated. -/
def negate? (settings : Settings) (negated : Bool) (set : CharSet) : Option CharSet :=
  if negated then
    if settings.unicode then some set.complement else none
  else some set

end Settings

/-- The ranges of the named sets of ASCII characters. -/
def asciiRanges : String → String
  | "alnum" => "30-39 41-5A 61-7A"
  | "alpha" => "41-5A 61-7A"
  | "ascii" => "0-7F"
  | "blank" => "9 20"
  | "cntrl" => "0-1F 7F"
  | "digit" => "30-39"
  | "graph" => "21-7E"
  | "lower" => "61-7A"
  | "print" => "20-7E"
  | "punct" => "21-2F 3A-40 5B-60 7B-7E"
  | "space" => "9-D 20"
  | "upper" => "41-5A"
  | "word" => "30-39 41-5A 5F 61-7A"
  | "xdigit" => "30-39 41-46 61-66"
  | _ => ""

/-- The named set of ASCII characters. -/
def asciiSet (name : String) : CharSet := CharSet.ofText (asciiRanges name)

/-- The set that a name stands for. -/
def NamedSet.meaning? (settings : Settings) (negated : Bool) (set : NamedSet) : Option CharSet :=
  match set with
  | .digit =>
    settings.negate? negated (if settings.unicode then Unicode.decimalDigits else asciiSet "digit")
  | .space =>
    settings.negate? negated (if settings.unicode then Unicode.blanks else asciiSet "space")
  | .word => settings.negate? negated (Normal.wordSet settings.unicode)
  | .ascii name => settings.negate? negated (settings.fold (asciiSet name))
  | .property name =>
    if settings.unicode then
      (Unicode.propertyNamed? name).bind fun set => settings.negate? negated (settings.fold set)
    else none
  | .propertyValue name value =>
    if settings.unicode then
      (Unicode.propertyValued? name value).bind fun set =>
        settings.negate? negated (settings.fold set)
    else none

/-- Two sets combined. -/
def SetOperation.apply (left right : CharSet) : SetOperation → CharSet
  | intersection => left.intersection right
  | difference => left.difference right
  | symmetricDifference => left.symmetricDifference right

/-- Whether a literal can be a member of a set. -/
def Literal.isMember (settings : Settings) (literal : Literal) : Bool :=
  settings.unicode || literal.char.toNat < 128

/-- The set that stands between brackets. -/
def SetForm.meaning? (settings : Settings) : SetForm → Option CharSet
  | literal l => if l.isMember settings then some (CharSet.singleton l.char) else none
  | range first last =>
    if first.isMember settings && last.isMember settings then
      some (CharSet.range first.char last.char)
    else none
  | named negated set => set.meaning? settings negated
  | bracketed negated inner => do
    settings.negate? negated (settings.fold (← inner.meaning? settings))
  | union parts => (meanings? parts).map CharSet.unions
  | combined operation left right => do
    let left ← left.meaning? settings
    let right ← right.meaning? settings
    return operation.apply (settings.fold left) (settings.fold right)
where
  /-- The sets that several parts stand for. -/
  meanings? : List SetForm → Option (List CharSet)
    | [] => some []
    | part :: rest => do return (← part.meaning? settings) :: (← meanings? rest)

/-- The condition that is written. -/
def Assertion.meaning (settings : Settings) : Assertion → Look
  | lineStart =>
    if settings.multiLine then (if settings.anyLineEnd then .anyLineStart else .lineStart)
    else .textStart
  | lineEnd =>
    if settings.multiLine then (if settings.anyLineEnd then .anyLineEnd else .lineEnd)
    else .textEnd
  | textStart => .textStart
  | textEnd => .textEnd
  | wordBoundary => .wordBoundary
  | noWordBoundary => .noWordBoundary
  | wordStart => .wordStart
  | wordEnd => .wordEnd
  | wordStartHalf => .wordStartHalf
  | wordEndHalf => .wordEndHalf

/-- What a literal denotes: a character, or the set of those that are the same as it. -/
def Literal.meaning? (settings : Settings) (literal : Literal) : Option Normal :=
  if !settings.unicode && literal.isByte && 128 ≤ literal.char.toNat then none
  else if settings.ignoreCase then
    some (Normal.ofSet settings.unicode (CharSet.ofList (settings.foldings literal.char)))
  else some (.text [literal.char])

/-- The set of characters that a dot matches. -/
def Settings.dot? (settings : Settings) : Option CharSet :=
  if !settings.unicode then none
  else if settings.dotAll then some CharSet.all
  else if settings.anyLineEnd then some (CharSet.ofList ['\n', '\r']).complement
  else some (CharSet.singleton '\n').complement

/-- The normal form that a written form denotes, and the settings that hold after it. -/
def Form.meaning? (settings : Settings) : Form → Option (Normal × Settings)
  | empty => some (.empty, settings)
  | switches switched => some (.empty, settings.switchAll switched)
  | literal l => (l.meaning? settings).map (·, settings)
  | dot => settings.dot?.map fun set => (.ofSet true set, settings)
  | assertion condition =>
    some (.look settings.unicode (condition.meaning settings), settings)
  | named negated set =>
    (set.meaning? settings negated).map fun set => (.ofSet settings.unicode set, settings)
  | bracketed negated inner => do
    let set ← inner.meaning? settings
    let set ← settings.negate? negated (settings.fold set)
    return (.ofSet settings.unicode set, settings)
  | repeated body least most isLazy => do
    let (body, settings) ← body.meaning? settings
    return (body.repeated least most (isLazy != settings.swapGreed), settings)
  | group kind body => do
    let (body, _) ← body.meaning? (settings.switchAll kind.switches)
    return (match kind with | .plain _ => body | _ => .captured body, settings)
  | alternation branches => do
    let (branches, settings) ← meanings? settings branches
    return (.among branches, settings)
  | concatenation parts => do
    let (parts, settings) ← meanings? settings parts
    return (.inSequence parts, settings)
where
  /-- The normal forms that several written forms denote, one after the other. -/
  meanings? (settings : Settings) : List Form → Option (List Normal × Settings)
    | [] => some ([], settings)
    | form :: rest => do
      let (form, settings) ← form.meaning? settings
      let (rest, settings) ← meanings? settings rest
      return (form :: rest, settings)

end AttributeRelease.Regex
