import AttributeRelease.Text.Digit

/-!
# Bytes of characters

The bytes that characters are written with in UTF-8. `decode` reads any bytes and puts a replacement
character for what is no character; `patterns` describes the bytes of a range of characters by ranges
of bytes.
-/

namespace AttributeRelease.Text.Utf8

/-- The bytes of a code point. -/
def encode (code : Nat) : List Nat :=
  if code < 0x80 then [code]
  else if code < 0x800 then [0xC0 + code / 64, 0x80 + code % 64]
  else if code < 0x10000 then
    [0xE0 + code / 4096, 0x80 + code / 64 % 64, 0x80 + code % 64]
  else
    [0xF0 + code / 262144, 0x80 + code / 4096 % 64, 0x80 + code / 64 % 64, 0x80 + code % 64]

/-- The bytes of characters one after the other. -/
def encodeAll (chars : List Char) : List Nat := chars.flatMap fun c => encode c.toNat

/-- The ranges of the bytes that follow a first byte, if a character can begin with that. -/
def followers? (lead : Nat) : Option (List (Nat × Nat)) :=
  if lead < 0x80 then some []
  else if lead < 0xC2 then none
  else if lead < 0xE0 then some [(0x80, 0xBF)]
  else if lead = 0xE0 then some [(0xA0, 0xBF), (0x80, 0xBF)]
  else if lead = 0xED then some [(0x80, 0x9F), (0x80, 0xBF)]
  else if lead < 0xF0 then some [(0x80, 0xBF), (0x80, 0xBF)]
  else if lead = 0xF0 then some [(0x90, 0xBF), (0x80, 0xBF), (0x80, 0xBF)]
  else if lead < 0xF4 then some [(0x80, 0xBF), (0x80, 0xBF), (0x80, 0xBF)]
  else if lead = 0xF4 then some [(0x80, 0x8F), (0x80, 0xBF), (0x80, 0xBF)]
  else none

/-- How many bytes at the beginning of a list lie in their ranges. -/
def fitting : List (Nat × Nat) → List Nat → Nat
  | (low, high) :: ranges, byte :: rest =>
    if low ≤ byte ∧ byte ≤ high then fitting ranges rest + 1 else 0
  | _, _ => 0

/-- The code point of a first byte and those that follow it. -/
def codePoint (lead : Nat) (rest : List Nat) : Nat :=
  let high := match rest.length with
    | 0 => lead
    | 1 => lead % 32
    | 2 => lead % 16
    | _ => lead % 8
  rest.foldl (fun code byte => code * 64 + byte % 64) high

/-- The characters of bytes. Each longest stretch that could begin a character but is none, and each
other byte that can begin no character, becomes one replacement character. -/
def decode : List Nat → List Char
  | [] => []
  | lead :: rest =>
    match followers? lead with
    | none => '\uFFFD' :: decode rest
    | some ranges =>
      let count := fitting ranges rest
      let char :=
        if count = ranges.length then (char? (codePoint lead (rest.take count))).getD '\uFFFD'
        else '\uFFFD'
      char :: decode (rest.drop count)
termination_by bytes => bytes.length
decreasing_by all_goals simp only [List.length_cons, List.length_drop]; omega

/-- Where a range of code points has to be cut, after the place given, so that the bytes of its parts
can be described each by its own range: between characters with different numbers of bytes, and
where a byte changes before the later ones have gone through all their values. -/
def cut? (first last : Nat) : Option Nat :=
  [0x7F, 0x7FF, 0xFFFF].find? (fun border => first ≤ border && border < last) <|>
    if last < 0x80 then none
    else [64, 4096, 262144].findSome? fun block =>
      if first / block = last / block then none
      else if first % block ≠ 0 then some (first / block * block + block - 1)
      else if last % block ≠ block - 1 then some (last / block * block - 1)
      else none

/-- The byte patterns of a range of code points that holds no surrogates, in ascending order: one range
for each byte. -/
def scalarPatterns (first last : Nat) : List (List (Nat × Nat)) :=
  match cut? first last with
  | some middle =>
    if first ≤ middle ∧ middle < last then
      scalarPatterns first middle ++ scalarPatterns (middle + 1) last
    else []
  | none => [(encode first).zip (encode last)]
termination_by last - first

/-- The byte patterns of a range of code points, surrogates left out. -/
def patterns (range : Nat × Nat) : List (List (Nat × Nat)) :=
  if range.1 < 0xE000 ∧ 0xD7FF < range.2 then
    scalarPatterns range.1 0xD7FF ++ scalarPatterns 0xE000 range.2
  else scalarPatterns range.1 range.2

end AttributeRelease.Text.Utf8
