/-!
# Expansion of variables

A text may mention variables of the environment, as `$` and a name in braces. Each line is taken on
its own: mentions are found from left to right, without overlap, and replaced by the values of the
variables, which are not looked at again. A mention that begins after the first hash sign of its line
stays as it is; one that begins before that sign is replaced even if the sign is in its name.
-/

namespace AttributeRelease.Expansion

/-- A mention of a variable in a line. -/
@[ext]
structure Mention where
  /-- How many characters of the line stand before it. -/
  start : Nat
  name : List Char
  deriving DecidableEq, Repr

namespace Mention

/-- The characters of a mention. -/
def text (mention : Mention) : List Char := '$' :: '\x7b' :: (mention.name ++ ['\x7d'])

/-- Where the text after a mention starts. -/
def stop (mention : Mention) : Nat := mention.start + mention.text.length

/-- The name of the variable that is mentioned. -/
def variableName (mention : Mention) : String := String.ofList mention.name

end Mention

/-- The name in a mention at the beginning of a text, and what follows the mention. -/
def mention? : List Char → Option (List Char × List Char)
  | '$' :: '\x7b' :: rest =>
    match rest.dropWhile (· != '\x7d') with
    | _ :: after =>
      let name := rest.takeWhile (· != '\x7d')
      if name.isEmpty then none else some (name, after)
    | [] => none
  | _ => none

/-- What follows the mention of a variable is shorter than the text that begins with it. -/
theorem length_of_mention? {text name after : List Char}
    (found : mention? text = some (name, after)) : after.length < text.length := by
  unfold mention? at found
  split at found
  next rest =>
    split at found
    next head tail rests =>
      dsimp only at found
      split at found
      · exact absurd found (by simp)
      · have suffix : (rest.dropWhile (· != '\x7d')).length ≤ rest.length :=
          (List.dropWhile_sublist _).length_le
        rw [rests] at suffix
        simp only [Option.some.injEq, Prod.mk.injEq] at found
        obtain ⟨_, rfl⟩ := found
        simp only [List.length_cons] at suffix ⊢
        omega
    · exact absurd found (by simp)
  · exact absurd found (by simp)

/-- The mentions in the text of a line from a position on, each found after the end of the one before
it. -/
def mentionsFrom (position : Nat) (text : List Char) : List Mention :=
  match text with
  | [] => []
  | c :: rest =>
    match found : mention? (c :: rest) with
    | some (name, after) =>
      have _shorter : after.length < (c :: rest).length := length_of_mention? found
      let mention : Mention := ⟨position, name⟩
      mention :: mentionsFrom mention.stop after
    | none => mentionsFrom (position + 1) rest
termination_by text.length
decreasing_by
  · exact _shorter
  · simp

/-- A line without a carriage return at its end. -/
def withoutReturn (line : List Char) : List Char :=
  if line.getLast? = some '\r' then line.dropLast else line

/-- The lines of a text, each without its end and with a carriage return before that end removed. -/
def lines (text : List Char) : List (List Char) :=
  let parts := text.splitOn '\n'
  let ended := parts.dropLast.map withoutReturn
  match parts.getLast? with
  | none | some [] => ended
  | some last => ended ++ [last]

variable {m : Type → Type} [Monad m]

/-- A line from a cursor on, with mentions replaced that do not start in the comment of the line; an
unset variable fails with its name. The cursor moves behind what is replaced. -/
def replaceFrom (valueOf? : String → m (Option String)) (line : List Char) (comment? : Option Nat)
    (cursor : Nat) : List Mention → ExceptT String m (List Char)
  | [] => return line.drop cursor
  | mention :: rest =>
    if comment?.any (· ≤ mention.start) then replaceFrom valueOf? line comment? cursor rest
    else do
      let copied := (line.drop cursor).take (mention.start - cursor)
      match ← valueOf? mention.variableName with
      | some value =>
        return copied ++ value.toList ++
          (← replaceFrom valueOf? line comment? mention.stop rest)
      | none => throw mention.variableName

/-- A line with its variables replaced. -/
def expandLine (valueOf? : String → m (Option String)) (line : List Char) :
    ExceptT String m (List Char) :=
  replaceFrom valueOf? line (line.idxOf? '#') 0 (mentionsFrom 0 line)

/-- The lines of a text put together again. Every line is ended, but the last one only if the text
ends a line. -/
def together (text : List Char) (lines : List (List Char)) : List Char :=
  let ended := lines.flatMap (· ++ ['\n'])
  if text.getLast? != some '\n' && ended.getLast? == some '\n' then ended.dropLast else ended

/-- A text with its variables replaced; an unset variable fails with its name. -/
def expand (valueOf? : String → m (Option String)) (text : String) :
    ExceptT String m String := do
  let expanded ← (lines text.toList).mapM (expandLine valueOf?)
  return String.ofList (together text.toList expanded)

end AttributeRelease.Expansion
