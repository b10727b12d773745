/-!
# Blank text

White space as Unicode defines it, the removal of white space at both ends of a text, and the test
for texts that hold nothing else. `trim_eq_empty_iff` ties the two together.
-/

namespace AttributeRelease.Text

/-- Whether a character has the Unicode property White_Space. -/
def isSpace (c : Char) : Bool :=
  let code := c.toNat
  (9 ≤ code && code ≤ 13) || code == 0x20 || code == 0x85 || code == 0xA0 || code == 0x1680 ||
    (0x2000 ≤ code && code ≤ 0x200A) || code == 0x2028 || code == 0x2029 || code == 0x202F ||
    code == 0x205F || code == 0x3000

/-- A list of characters without the white space at its end. -/
def trimEndList (chars : List Char) : List Char :=
  (chars.reverse.dropWhile isSpace).reverse

/-- A list of characters without the white space at its ends. -/
def trimList (chars : List Char) : List Char :=
  trimEndList (chars.dropWhile isSpace)

/-- A text without the white space at its ends. -/
def trim (text : String) : String := String.ofList (trimList text.toList)

/-- Whether a text holds nothing but white space. -/
def isBlank (text : String) : Bool := text.toList.all isSpace

/-- Nothing is left of a list exactly if all of it is dropped. -/
private theorem dropWhile_eq_nil_iff (accepts : Char → Bool) (chars : List Char) :
    chars.dropWhile accepts = [] ↔ chars.all accepts = true := by
  induction chars with
  | nil => simp
  | cons c rest ih =>
    by_cases h : accepts c
    · simp [h, ih]
    · simp [h]

/-- What is left passes a test everywhere exactly if the whole list does. -/
private theorem all_dropWhile_iff (accepts : Char → Bool) (chars : List Char) :
    (chars.dropWhile accepts).all accepts = true ↔ chars.all accepts = true := by
  induction chars with
  | nil => simp
  | cons c rest ih =>
    by_cases h : accepts c
    · simp only [List.dropWhile_cons, h, if_true, List.all_cons, Bool.true_and]
      exact ih
    · simp [h]

/-- Nothing is left of trimmed characters exactly if all are blank. -/
theorem trimList_eq_nil_iff (chars : List Char) :
    trimList chars = [] ↔ chars.all isSpace = true := by
  rw [trimList, trimEndList, List.reverse_eq_nil_iff, dropWhile_eq_nil_iff, List.all_reverse,
    all_dropWhile_iff]

/-- Trimming leaves nothing of blank texts, and of those alone. -/
theorem trim_eq_empty_iff (text : String) : trim text = "" ↔ isBlank text = true := by
  rw [trim, isBlank, ← trimList_eq_nil_iff, String.ofList_eq_empty_iff]

end AttributeRelease.Text
