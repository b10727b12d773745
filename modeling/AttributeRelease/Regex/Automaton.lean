import AttributeRelease.Regex.Normal
import AttributeRelease.Text.Utf8
import Std.Data.HashMap

/-!
# Automata of patterns

How large the automaton of a pattern is. An automaton reads the bytes of a text, forwards to find where
a match ends and backwards to find where it begins. It is not built here: only its states are counted,
which are numbered in the order in which they would come about, and its size is limited.

A state takes 32 bytes, an arc between states 8 and a branch 4. The end of a repetition without an
upper bound is a branching state, which needs one more branch to whatever follows.
-/

namespace AttributeRelease.Regex

open AttributeRelease.Unicode (CharSet)

/-- How much there is of an automaton: its number of states, and the bytes that they take in all. -/
structure Extent where
  states : Nat
  bytes : Nat

/-- How many bytes an automaton may take. -/
def extentLimit : Nat := 10 * 1024 * 1024

/-- An addition to an automaton, which may make it too large. -/
abbrev Builder := StateT Extent Option

namespace Builder

/-- Adds states, and bytes besides those that every state takes. -/
def add (states bytes : Nat) : Builder Unit := fun extent =>
  let grown : Extent := ⟨extent.states + states, extent.bytes + 32 * states + bytes⟩
  if grown.bytes ≤ extentLimit then some ((), grown) else none

/-- Adds a state with arcs, and gives its number. -/
def state (arcs : Nat) : Builder Nat := fun extent =>
  (add 1 (8 * arcs) extent).map fun ((), grown) => (extent.states, grown)

/-- Goes on from an end, which takes a branch if the end is a branching state. -/
def leave (branches : Bool) : Builder Unit := add 0 (if branches then 4 else 0)

/-- Repeats an addition a number of times, each after the one before, whose end is told; tells
whether the last end branches. -/
def furtherCopies (addition : Builder Bool) : Nat → Bool → Builder Bool
  | 0, branches => return branches
  | count + 1, branches => do
    leave branches
    let next ← addition
    furtherCopies addition count next

/-- Repeats an addition a number of times, or adds a single state for none. -/
def copies (addition : Builder Bool) : Nat → Builder Bool
  | 0 => do
    add 1 0
    return false
  | count + 1 => do
    let first ← addition
    furtherCopies addition count first

/-- Repeats an addition a number of times, each of them with a branch that leaves it out. -/
def optionalCopies (addition : Builder Bool) : Nat → Bool → Builder Bool
  | 0, branches => return branches
  | count + 1, branches => do
    add 1 8
    let next ← addition
    leave branches
    optionalCopies addition count next

end Builder

open Builder

/-- A number to find other numbers by, which spreads them evenly. -/
def fingerprint (numbers : List Nat) : UInt64 :=
  numbers.foldl (fun mark number => (mark ^^^ number.toUInt64) * 1099511628211)
    14695981039346656037

/-- A table with a number of places that remembers the states that were added for descriptions. A later
description may take the place of an earlier one, which is then forgotten. -/
structure Memory where
  places : Nat
  known : Std.HashMap Nat (List Nat × Nat)

namespace Memory

/-- A table that remembers nothing. -/
def blank (places : Nat) : Memory := ⟨places, {}⟩

/-- The state for a description: the one that is remembered, or a new one with a number of arcs. -/
def state (memory : Memory) (description : List Nat) (arcs : Nat) : Builder (Nat × Memory) := do
  let place := (fingerprint description).toNat % memory.places
  let new : Builder (Nat × Memory) := do
    let number ← Builder.state arcs
    return (number, { memory with known := memory.known.insert place (description, number) })
  match memory.known[place]? with
  | some (known, number) => if known == description then return (number, memory) else new
  | none => new

end Memory

/-- A state that is still to be added: the arcs that it has, as three numbers each, and the range of
bytes of one whose end is not known yet. -/
structure Tip where
  arcs : List Nat
  pending : Option (Nat × Nat)

/-- The state with its last arc led to a state. -/
def Tip.close (tip : Tip) (next : Nat) : Tip :=
  match tip.pending with
  | some (low, high) => ⟨tip.arcs ++ [low, high, next], none⟩
  | none => tip

/-- Adds the deepest of the states that are still to be added until `count` and one more are left, of
which the last arc is led to what was added. Deeper states come first. -/
def closeTips (count next : Nat) (memory : Memory) : List Tip → Builder (List Tip × Memory)
  | [] => return ([], memory)
  | tip :: rest => do
    let tip := tip.close next
    if rest.length ≤ count then return (tip :: rest, memory)
    else
      let (number, memory) ← memory.state tip.arcs (tip.arcs.length / 3)
      closeTips count number memory rest

/-- How many ranges of a pattern the pending arcs have, from the first on. -/
def sharedBytes : List (Nat × Nat) → List Tip → Nat
  | range :: ranges, tip :: tips =>
    if tip.pending = some range then sharedBytes ranges tips + 1 else 0
  | _, _ => 0

/-- The states still to be added after the rest of a pattern is put at the deepest one. -/
def openTips (tips : List Tip) : List (Nat × Nat) → List Tip
  | [] => tips
  | first :: rest =>
    let opened := match tips with
      | tip :: above => { tip with pending := some first } :: above
      | [] => []
    rest.foldl (fun tips range => ⟨[], some range⟩ :: tips) opened

/-- Adds the states for a set of characters whose bytes are read forwards. The byte patterns come in
ascending order, so that those with the same beginning share its states, and states with the same
arcs are one, as far as they are remembered. -/
def setForwards (set : CharSet) : Builder Bool := do
  let target ← state 0
  let mut tips : List Tip := [⟨[], none⟩]
  let mut memory := Memory.blank 10000
  for range in set.ranges do
    for pattern in Text.Utf8.patterns range do
      let shared := sharedBytes pattern tips.reverse
      (tips, memory) ← closeTips shared target memory tips
      tips := openTips tips (pattern.drop shared)
  (tips, memory) ← closeTips 0 target memory tips
  let arcs := (tips.flatMap (·.arcs))
  let _ ← memory.state arcs (arcs.length / 3)
  return false

/-- Adds the states for a set of characters whose bytes are read backwards: a branch for each byte
pattern, of which those with the same end share its states, as far as they are remembered. -/
def setBackwards (set : CharSet) : Builder Bool := do
  add 1 0
  let target ← state 0
  let mut memory := Memory.blank 1000
  for range in set.ranges do
    for pattern in Text.Utf8.patterns range do
      let mut next := target
      for (low, high) in pattern do
        (next, memory) ← memory.state [next, low, high] 0
      add 0 4
  return false

/-- Adds the states for a set of characters. -/
def setStates (backwards : Bool) (set : CharSet) : Builder Bool :=
  if set.isAscii then do
    add 2 (8 * set.ranges.size)
    return false
  else if backwards then setBackwards set
  else setForwards set

/-- Words with common beginnings, as a tree. A node has groups of arcs, each a byte and a node: the
words that end at the node lie between the groups, of which only the last one still grows. -/
inductive WordTree where
  | node (closed : List (List (Nat × WordTree))) (last : List (Nat × WordTree))

namespace WordTree

/-- The tree of no words. -/
def root : WordTree := node [] []

/-- Whether nothing follows at a node. -/
def isLeaf : WordTree → Bool
  | node closed last => closed.all (·.isEmpty) && last.isEmpty

/-- Ends a word at a node. -/
def endWord : WordTree → WordTree
  | node closed last =>
    if (node closed last).isLeaf ∧ closed ≠ [] then node closed last
    else node (closed ++ [last]) []

/-- Puts a node at a byte among arcs in ascending order. -/
def put (byte : Nat) (tree : WordTree) : List (Nat × WordTree) → List (Nat × WordTree)
  | [] => [(byte, tree)]
  | arc :: rest =>
    if byte < arc.1 then (byte, tree) :: arc :: rest
    else if byte = arc.1 then (byte, tree) :: rest
    else arc :: put byte tree rest

/-- Adds a word. -/
def insert : List Nat → WordTree → WordTree
  | [], tree => tree.endWord
  | byte :: rest, node closed last =>
    let child := ((last.find? fun arc => arc.1 == byte).map (·.2)).getD root
    node closed (put byte (insert rest child) last)

/-- The numbers of states and of other bytes that a tree takes. A group with one arc is a state
without a list of arcs; a node is a state with a branch to each group that has arcs and to the end
of each word. -/
def cost : WordTree → Nat × Nat
  | node closed last =>
    let (states, bytes, branches) := groups closed
    let (lastStates, lastBytes) := arcs last
    let (ownStates, ownBytes) := group last.length
    (states + lastStates + ownStates + 1,
      bytes + lastBytes + ownBytes + 4 * (branches + closed.length + ownStates))
where
  /-- The states and bytes of a group beside those of its nodes. -/
  group (arcs : Nat) : Nat × Nat :=
    if arcs = 0 then (0, 0) else if arcs = 1 then (1, 0) else (1, 8 * arcs)
  /-- The states and bytes below arcs. -/
  arcs : List (Nat × WordTree) → Nat × Nat
    | [] => (0, 0)
    | (_, tree) :: rest =>
      let (states, bytes) := arcs rest
      if tree.isLeaf then (states, bytes)
      else
        let (below, belowBytes) := tree.cost
        (states + below, bytes + belowBytes)
  /-- The states and bytes of groups and below them, and how many of the groups have arcs. -/
  groups : List (List (Nat × WordTree)) → Nat × Nat × Nat
    | [] => (0, 0, 0)
    | arcsOfGroup :: rest =>
      let (states, bytes, branches) := groups rest
      let (below, belowBytes) := arcs arcsOfGroup
      let (own, ownBytes) := group arcsOfGroup.length
      (states + below + own, bytes + belowBytes + ownBytes, branches + own)

end WordTree

namespace Normal

/-- The characters of a pattern that is a text. -/
def chars? : Normal → Option (List Char)
  | text chars => some chars
  | _ => none

/-- Adds the states for a choice between words. -/
def wordStates (backwards : Bool) (words : List (List Char)) : Builder Bool := do
  let bytes := words.map fun word =>
    let bytes := Text.Utf8.encodeAll word
    if backwards then bytes.reverse else bytes
  let tree := bytes.foldl (fun tree word => tree.insert word) WordTree.root
  let (states, other) := tree.cost
  add (states + 1) other
  return false

/-- Adds the states for a repetition of what an addition adds; `canBeEmpty` tells whether that may
match the empty text. -/
def loopStates (body : Builder Bool) (canBeEmpty : Bool) (least : Nat) :
    Option Nat → Builder Bool
  | none =>
    if least = 0 then
      if canBeEmpty then do
        leave (← body)
        -- two branching states with two branches each, and an end
        add 3 16
        return false
      else do
        add 1 4
        leave (← body)
        return true
    else do
      leave (← copies body least)
      add 1 4
      return true
  | some most =>
    if least = 0 ∧ most = 1 then do
      add 1 8
      let branches ← body
      add 1 0
      leave branches
      return false
    else if least = most then copies body least
    else do
      let first ← copies body least
      add 1 0
      let last ← optionalCopies body (most - least) first
      leave last
      return false

/-- Adds the states for a pattern; tells whether the last of them is a branching one, to which the
way on has to be added. -/
def states (backwards : Bool) : Normal → Builder Bool
  | empty => do
    add 1 0
    return false
  | text chars => do
    add (Text.Utf8.encodeAll chars).length 0
    return false
  | member _ set => setStates backwards set
  | look _ _ => do
    add 1 0
    return false
  | loop body least most _ =>
    loopStates (body.states backwards) (body.shortest?.all (· = 0)) least most
  | captured body =>
    if backwards then body.states backwards
    else do
      add 1 0
      let branches ← body.states backwards
      add 1 0
      leave branches
      return false
  | sequence parts => if backwards then fromLast parts else fromFirst parts
  | choice branches =>
    match branches.mapM chars? with
    | some words => wordStates backwards words
    | none => among branches
where
  /-- Adds the states for parts, each after the one before. -/
  fromFirst : List Normal → Builder Bool
    | [] => return false
    | [part] => part.states backwards
    | part :: rest => do
      leave (← part.states backwards)
      fromFirst rest
  /-- Adds the states for parts, each before the one after. -/
  fromLast : List Normal → Builder Bool
    | [] => return false
    | [part] => part.states backwards
    | part :: rest => do
      leave (← fromLast rest)
      part.states backwards
  /-- Adds the states for branches: after the first two the state that branches to them and the
  state where they meet. -/
  among : List Normal → Builder Bool
    | [] => return false
    | [branch] => branch.states backwards
    | first :: second :: rest => do
      let firstEnd ← first.states backwards
      let secondEnd ← second.states backwards
      add 2 8
      leave firstEnd
      leave secondEnd
      others rest
      return false
  /-- Adds the states for further branches. -/
  others : List Normal → Builder Unit
    | [] => return ()
    | branch :: rest => do
      add 0 4
      leave (← branch.states backwards)
      others rest

/-- Adds all states of the automaton of a pattern. Unless matches can begin at the first character
alone, or backwards at the last one, it has a loop in front that passes over any bytes. -/
def automaton (backwards : Bool) (pattern : Normal) : Builder Unit := do
  let isAnchored :=
    if backwards then pattern.endsWith .textEnd else pattern.beginsWith .textStart
  if isAnchored then add 1 0 else add 3 16
  leave (← states backwards (if backwards then pattern else captured pattern))
  add 1 0

/-- Whether both automata of a pattern keep to the limit. -/
def isBuildable (pattern : Normal) : Bool :=
  [false, true].all fun backwards => (pattern.automaton backwards ⟨0, 0⟩).isSome

end Normal

end AttributeRelease.Regex
