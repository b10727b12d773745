/-!
# Readers

A reader takes a value off the front of a list of symbols, mostly the characters of a text, or
refuses the list. Readers are ordinary state transformers over the symbols still to be read, so they
are written with `do` and tried one after the other with `<|>`, which starts the second from where
the first began.
-/

namespace AttributeRelease.Text

/-- Takes a value off the front of a list of symbols, or refuses. -/
abbrev ReaderOf (τ α : Type) := StateT (List τ) Option α

/-- Takes a value off the front of a list of characters, or refuses. -/
abbrev Reader (α : Type) := ReaderOf Char α

namespace Reader

variable {τ σ α : Type}

/-- Refuses everything. -/
def fail : ReaderOf τ α := fun _ => none

/-- Refuses unless a condition holds. -/
def check (condition : Bool) : ReaderOf τ Unit := if condition then pure () else fail

/-- The next symbol, which stays unread; none at the end. -/
def peek? : ReaderOf τ (Option τ) := fun input => some (input.head?, input)

/-- The next symbols, which stay unread. -/
def peekMany (count : Nat) : ReaderOf τ (List τ) := fun input => some (input.take count, input)

/-- Whether nothing is left. -/
def atEnd : ReaderOf τ Bool := fun input => some (input.isEmpty, input)

/-- Takes the next symbol. -/
def next : ReaderOf τ τ
  | [] => none
  | c :: rest => some (c, rest)

/-- Takes the next symbol, which has to be the given one. -/
def expect [BEq τ] (expected : τ) : ReaderOf τ Unit := do
  check ((← next) == expected)

/-- Takes the next symbol if it is the given one, and tells whether it was. -/
def accept [DecidableEq τ] (wanted : τ) : ReaderOf τ Bool
  | c :: rest => if c = wanted then some (true, rest) else some (false, c :: rest)
  | [] => some (false, [])

/-- Takes a run of symbols if the list goes on with it, and tells whether it did. -/
def acceptAll [BEq τ] (wanted : List τ) : ReaderOf τ Bool := fun input =>
  if wanted.isPrefixOf input then some (true, input.drop wanted.length) else some (false, input)

/-- Takes the longest run of symbols of a class. -/
def takeWhile (belongs : τ → Bool) : ReaderOf τ (List τ) := fun input =>
  some (input.takeWhile belongs, input.dropWhile belongs)

/-- Takes an exact number of symbols. -/
def takeExactly (count : Nat) : ReaderOf τ (List τ) := fun input =>
  let taken := input.take count
  if taken.length < count then none else some (taken, input.drop count)

/-- Repeats a step from a start until it gives a result. A step that goes on has to take at least
one symbol, so the list bounds their number. -/
def iterate (step : σ → ReaderOf τ (σ ⊕ α)) (start : σ) : ReaderOf τ α := fun input =>
  go input start input
where
  /-- At most one step for each symbol of a list, and one more. -/
  go : List τ → σ → ReaderOf τ α
    | [], state => do
      match ← step state with
      | .inl _ => fail
      | .inr result => pure result
    | _ :: others, state => do
      match ← step state with
      | .inl state => go others state
      | .inr result => pure result

/-- The value that a reader takes off a list which it uses up. -/
def wholeOf? (reader : ReaderOf τ α) (input : List τ) : Option α :=
  match reader input with
  | some (value, []) => some value
  | _ => none

/-- The value that a reader takes off a text which it uses up. -/
def whole? (reader : Reader α) (text : String) : Option α := wholeOf? reader text.toList

end Reader

end AttributeRelease.Text
