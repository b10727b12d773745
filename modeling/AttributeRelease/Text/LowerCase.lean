import AttributeRelease.Unicode.LowerCase
import AttributeRelease.Unicode.CharSet

/-!
# Lower-casing

The full lower-casing of a text. It maps each letter on its own, with two exceptions that Unicode
makes: the capital I with dot becomes two characters, and a capital sigma at the end of a word
becomes the final sigma.
-/

namespace AttributeRelease.Text

open AttributeRelease.Unicode (CharSet)

/-- Every `step`-th letter from `first` to `last` has a lower-case letter, at the distance from it
that `target` has from `first`. -/
structure CaseRun where
  first : Nat
  last : Nat
  step : Nat
  target : Nat

namespace CaseRun

/-- Reads one run, such as `41-5A>61`. -/
def ofText (text : String) : CaseRun :=
  match text.splitOn ">" with
  | [letters, target] =>
    match letters.splitOn "-", letters.splitOn "~" with
    | [first, last], _ =>
      ⟨hexadecimal first.toList, hexadecimal last.toList, 1, hexadecimal target.toList⟩
    | _, [first, last] =>
      ⟨hexadecimal first.toList, hexadecimal last.toList, 2, hexadecimal target.toList⟩
    | _, _ =>
      ⟨hexadecimal letters.toList, hexadecimal letters.toList, 1, hexadecimal target.toList⟩
  | _ => ⟨0, 0, 1, 0⟩

/-- Bisects the runs from index `low` up to, but without, index `high`. -/
def search (runs : Array CaseRun) (code low high : Nat) : Option CaseRun :=
  if low < high then
    match runs[(low + high) / 2]? with
    | none => none
    | some run =>
      if code < run.first then search runs code low ((low + high) / 2)
      else if run.last < code then search runs code ((low + high) / 2 + 1) high
      else some run
  else none
termination_by high - low

end CaseRun

/-- The runs of letters that have a lower-case letter. -/
def caseRuns : Array CaseRun :=
  ((words Unicode.lowerCaseRuns).map CaseRun.ofText).toArray

/-- The simple lower-case mapping of a character: itself unless a run lists it. -/
def lowerChar (c : Char) : Char :=
  match CaseRun.search caseRuns c.toNat 0 caseRuns.size with
  | some run =>
    if (c.toNat - run.first) % run.step = 0 then
      (char? (c.toNat - run.first + run.target)).getD c
    else c
  | none => c

/-- The letters with case. -/
def casedLetters : CharSet := .ofText Unicode.casedRanges

/-- The characters passed over in looking for a letter with case. -/
def caseIgnorable : CharSet := .ofText Unicode.caseIgnorableRanges

/-- Whether the first character that is not passed over is a letter with case. -/
def meetsCased (chars : List Char) : Bool :=
  match chars.dropWhile caseIgnorable.contains with
  | c :: _ => casedLetters.contains c
  | [] => false

/-- Lower-cases a list of characters that follows the characters `before`, nearest first. -/
def lowerList (before : List Char) : List Char → List Char
  | [] => []
  | c :: rest =>
    let lowered :=
      if c = 'Σ' then
        [if meetsCased before && !meetsCased rest then 'ς' else 'σ']
      else if c = 'İ' then ['i', '\u0307']
      else [lowerChar c]
    lowered ++ lowerList (c :: before) rest

/-- The lower-case form of a text. -/
def lower (text : String) : String := String.ofList (lowerList [] text.toList)

end AttributeRelease.Text
