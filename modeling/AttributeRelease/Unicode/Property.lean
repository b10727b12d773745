import AttributeRelease.Unicode.Age
import AttributeRelease.Unicode.Binary
import AttributeRelease.Unicode.Boundary
import AttributeRelease.Unicode.CaseFolding
import AttributeRelease.Unicode.Category
import AttributeRelease.Unicode.CharSet
import AttributeRelease.Unicode.Letter
import AttributeRelease.Unicode.Script
import AttributeRelease.Unicode.ScriptExtension

/-!
# Character properties by name

This module finds the set of characters that a property name, or a property name with a value, stands
for. Names are compared loosely: case, blanks, hyphens, underscores and a leading "is" do not count.
-/

namespace AttributeRelease.Unicode

/-- The loose form of a name. -/
def looseName (name : String) : String :=
  let chars := name.toList.map Char.toLower
  let hasIs := chars.take 2 = ['i', 's']
  let kept := (if hasIs then chars.drop 2 else chars).filter fun c =>
    c.toNat < 128 && c != ' ' && c != '-' && c != '_'
  -- "isc" abbreviates a property of its own and not the category "c"
  if hasIs && kept = ['c'] then "isc" else String.ofList kept

/-- The ranges that a table lists under a name. -/
def rangesNamed? (table : List (List String × String)) (name : String) : Option String :=
  (table.find? fun entry => entry.1.contains name).map (·.2)

/-- The set that a table lists under a name. -/
def setNamed? (table : List (List String × String)) (name : String) : Option CharSet :=
  (rangesNamed? table name).map CharSet.ofText

/-- The union of the sets that a table lists under names. -/
def setsNamed (table : List (List String × String)) (names : List String) : CharSet :=
  CharSet.unions (names.filterMap (setNamed? table))

/-- The characters in no range of a table but those of the entries under some names. -/
def unlisted (table : List (List String × String)) (names : List String) : CharSet :=
  let entries := table.filter fun entry => !entry.1.any names.contains
  (CharSet.unions (entries.map fun entry => CharSet.ofText entry.2)).complement

/-- General categories that group others, each with the short names of its members. -/
def categoryGroups : List (List String × List String) := [
  (["lc", "casedletter"], ["lu", "ll", "lt"]),
  (["l", "letter"], ["lu", "ll", "lt", "lm", "lo"]),
  (["m", "mark", "combiningmark"], ["mn", "mc", "me"]),
  (["n", "number"], ["nd", "nl", "no"]),
  (["p", "punctuation", "punct"], ["pc", "pd", "ps", "pe", "pi", "pf", "po"]),
  (["s", "symbol"], ["sm", "sc", "sk", "so"]),
  (["z", "separator"], ["zs", "zl", "zp"])]

/-- The general category, or group of categories, of a loose name. Surrogates are no characters, and
their category has no set. -/
def category? (name : String) : Option CharSet :=
  match categoryGroups.find? fun group => group.1.contains name with
  | some (_, members) => some (setsNamed categories members)
  | none =>
    match name with
    | "any" => some CharSet.all
    | "ascii" => some (CharSet.range '\x00' '\x7f')
    | "assigned" => some (unlisted categories []).complement
    | "cn" | "unassigned" => some (unlisted categories [])
    | "c" | "other" => some (unlisted categories ["cc", "cf", "co"])
    | _ => setNamed? categories name

/-- The script of a loose name. -/
def script? (name : String) : Option CharSet := setNamed? scripts name

/-- The characters used with the script of a loose name. -/
def scriptExtension? (name : String) : Option CharSet := do
  let set ← script? name
  let gained := (setNamed? scriptsGained name).getD CharSet.empty
  let lost := (setNamed? scriptsLost name).getD CharSet.empty
  return (set.difference lost).union gained

/-- The characters assigned in a version of the standard or before it. -/
def age? (name : String) : Option CharSet := do
  let index ← ages.findIdx? fun entry => entry.1.contains name
  return CharSet.unions ((ages.take (index + 1)).map fun entry => CharSet.ofText entry.2)

/-- The set of a name that stands alone: a binary property, a general category or a script. -/
def propertyNamed? (name : String) : Option CharSet :=
  let loose := looseName name
  -- these three abbreviate other properties too, and mean the categories here
  let binary :=
    if ["cf", "sc", "lc"].contains loose then none else setNamed? binaryProperties loose
  binary <|> category? loose <|> script? loose

/-- The set of the characters for which a named property has a named value. -/
def propertyValued? (name value : String) : Option CharSet :=
  let loose := looseName value
  match looseName name with
  | "gc" | "generalcategory" => category? loose
  | "sc" | "script" => script? loose
  | "scx" | "scriptextensions" => scriptExtension? loose
  | "age" => age? loose
  | "gcb" | "graphemeclusterbreak" => setNamed? graphemeBreaks loose
  | "wb" | "wordbreak" => setNamed? wordBreaks loose
  | "sb" | "sentencebreak" => setNamed? sentenceBreaks loose
  | _ => none

/-- The decimal digits of all scripts. -/
def decimalDigits : CharSet := setsNamed categories ["nd"]

/-- The blanks of all scripts. -/
def blanks : CharSet := setsNamed binaryProperties ["whitespace"]

/-- The characters that belong to words: letters, marks, digits, connectors and joiners. -/
def wordChars : CharSet :=
  CharSet.unions [setsNamed binaryProperties ["alphabetic", "joincontrol"],
    setsNamed categories ["mn", "mc", "me", "nd", "pc"]]

/-- The letters of all alphabets. -/
def letters : CharSet :=
  (setsNamed binaryProperties ["alphabetic"]).union (CharSet.ofText lettersAdded)

/-- The letters of all alphabets, and what numbers are written with. -/
def lettersAndNumbers : CharSet :=
  CharSet.unions [letters, setsNamed categories ["nd", "nl", "no"], CharSet.ofText numbersAdded]

/-- The classes of characters with one case folding. -/
def foldings : Array (List Char) :=
  (Text.words foldingClasses).toArray.map fun members =>
    (members.splitOn "/").filterMap fun code => Text.char? (Text.hexadecimal code.toList)

/-- A set together with all characters that have the case folding of a member. -/
def CharSet.folded (set : CharSet) : CharSet :=
  let touched := foldings.toList.filter fun members => members.any set.contains
  set.union (CharSet.ofList touched.flatten)

/-- The characters with the case folding of a character, itself included. -/
def sameFolding (c : Char) : List Char :=
  (foldings.find? fun members => members.contains c).getD [c]

end AttributeRelease.Unicode
