import AttributeRelease.Text.Base64
import AttributeRelease.Time.Rfc3339
import AttributeRelease.Tree.Record

/-!
# Attribute values

The typed values of identity attributes, their text forms, their order, and their form in trees.
Values are ordered by kind, and within a kind by content. The order is that of the keys, and
`Value.key_injective` says that a key determines its value.
-/

namespace AttributeRelease

open AttributeRelease.Time (Instant)

/-- Why a value is empty. -/
inductive EmptyKind where
  | null
  | zeroLength
  deriving DecidableEq, Repr

/-- A value of an identity attribute. -/
inductive Value where
  | string (text : String)
  | withScope (text scope : String)
  | bytes (octets : List UInt8)
  | xml (text : String)
  | dateTime (instant : Instant)
  | empty (kind : EmptyKind)
  deriving DecidableEq

namespace Value

/-- The text that matchers on values compare: only strings and scoped values have one, and of the
latter it is the part before the scope. -/
def comparableText? : Value → Option String
  | string text => some text
  | withScope text _ => some text
  | _ => none

/-- The scope of a scoped value. -/
def scope? : Value → Option String
  | withScope _ scope => some scope
  | _ => none

/-- Whether the value is one of the empty ones. -/
def isEmpty : Value → Bool
  | empty _ => true
  | _ => false

/-- The text form, in which scripts and requested values see a value. -/
def textForm : Value → String
  | string text => text
  | withScope text scope => text ++ "@" ++ scope
  | bytes octets => Text.Base64.encode octets
  | xml text => text
  | dateTime instant => Time.Rfc3339.writeSeconds instant
  | empty _ => ""

/-- The code points of a text. -/
def codes (text : String) : List Int := text.toList.map fun c => (c.toNat : Int)

/-- A list of numbers whose order, entry by entry, is the order of the values. Between the two parts
of a scoped value stands a number below every code point. -/
def key : Value → List Int
  | string text => 0 :: codes text
  | withScope text scope => 1 :: (codes text ++ -1 :: codes scope)
  | bytes octets => 2 :: octets.map fun octet => (octet.toNat : Int)
  | xml text => 3 :: codes text
  | dateTime instant => [4, instant.second, instant.nanosecond]
  | empty kind => [5, if kind = .null then 0 else 1]

/-- Texts with the same codes are the same. -/
theorem codes_injective {left right : String} (same : codes left = codes right) :
    left = right := by
  have chars : left.toList = right.toList := by
    refine (List.map_inj_right ?_).1 same
    intro a b codesSame
    exact Char.toNat_inj.1 (Int.ofNat_inj.1 codesSame)
  exact String.ext chars

/-- No code is negative, so a text is told by its codes up to the first negative number. -/
theorem codes_append_injective {left right : List Char} {leftRest rightRest : List Int}
    (same : left.map (fun c => (c.toNat : Int)) ++ -1 :: leftRest =
      right.map (fun c => (c.toNat : Int)) ++ -1 :: rightRest) :
    left = right ∧ leftRest = rightRest := by
  induction left generalizing right with
  | nil =>
    cases right with
    | nil => simpa using same
    | cons c rest => simp only [List.map_nil, List.nil_append, List.map_cons, List.cons_append,
        List.cons.injEq] at same; omega
  | cons c rest ih =>
    cases right with
    | nil => simp only [List.map_nil, List.nil_append, List.map_cons, List.cons_append,
        List.cons.injEq] at same; omega
    | cons d others =>
      simp only [List.map_cons, List.cons_append, List.cons.injEq] at same
      obtain ⟨heads, tails⟩ := same
      obtain ⟨rests, restsSame⟩ := ih tails
      exact ⟨by rw [Char.toNat_inj.1 (Int.ofNat_inj.1 heads), rests], restsSame⟩

/-- A key determines its value. -/
theorem key_injective {left right : Value} (same : left.key = right.key) : left = right := by
  cases left <;> cases right
  case string.string => exact congrArg string (codes_injective (by simpa [key] using same))
  case withScope.withScope text scope text' scope' =>
    simp only [key, List.cons.injEq, true_and] at same
    obtain ⟨texts, scopes⟩ := codes_append_injective same
    rw [String.ext texts, codes_injective scopes]
  case bytes.bytes octets octets' =>
    simp only [key, List.cons.injEq, true_and] at same
    refine congrArg bytes ((List.map_inj_right ?_).1 same)
    intro a b octetsSame
    exact UInt8.toNat_inj.1 (Int.ofNat_inj.1 octetsSame)
  case xml.xml => exact congrArg xml (codes_injective (by simpa [key] using same))
  case dateTime.dateTime instant instant' =>
    obtain ⟨second, nanosecond, _, _⟩ := instant
    obtain ⟨second', nanosecond', _, _⟩ := instant'
    simp only [key, List.cons.injEq, true_and, and_true] at same
    obtain ⟨rfl, nanoseconds⟩ := same
    obtain rfl := Int.ofNat_inj.1 nanoseconds
    rfl
  case empty.empty kind kind' => cases kind <;> cases kind' <;> simp [key] at same ⊢
  all_goals simp [key] at same

/-- The order of values. -/
instance : LT Value := ⟨fun left right => left.key < right.key⟩

instance (left right : Value) : Decidable (left < right) :=
  inferInstanceAs (Decidable (left.key < right.key))

/-- The name of an empty kind. -/
def emptyKindName : EmptyKind → String
  | .null => "null"
  | .zeroLength => "zero_length"

/-- The empty kind of a name. -/
def emptyKind? : String → Option EmptyKind
  | "null" => some .null
  | "zero_length" => some .zeroLength
  | _ => none

/-- The name of a value's kind. -/
def kindName : Value → String
  | string _ => "string"
  | withScope _ _ => "scoped"
  | bytes _ => "bytes"
  | xml _ => "xml"
  | dateTime _ => "date_time"
  | empty _ => "empty"

/-- What a tree shows of a value beside its kind. -/
def content : Value → Tree
  | string text => .text text
  | withScope text scope => .table [("value", .text text), ("scope", .text scope)]
  | bytes octets => .list (octets.map fun octet => .integer octet.toNat)
  | xml text => .text text
  | dateTime instant => .text (Time.Rfc3339.write instant)
  | empty kind => .text (emptyKindName kind)

/-- The tree of a value: its kind and its content. -/
def toTree (value : Value) : Tree :=
  .table [("type", .text value.kindName), ("value", value.content)]

/-- The value of a named kind that a content shows. -/
def ofContent? (place : Place) (kind : String) (content : Tree) : Option Value :=
  match kind with
  | "string" => content.text?.map string
  | "scoped" => do
    let fields ← content.holder.fields? place .openEnded ["value", "scope"]
    return withScope (← fields.required "value" Tree.text?) (← fields.required "scope" Tree.text?)
  | "bytes" => (Tree.listOf? (Tree.natural? 256) content).map fun octets =>
    bytes (octets.map UInt8.ofNat)
  | "xml" => content.text?.map xml
  | "date_time" => (content.text?.bind Time.Rfc3339.read?).map dateTime
  | "empty" => ((content.constant? place).bind emptyKind?).map empty
  | _ => none

/-- Whether the content stands before the kind, so that it is set aside until the kind is known. -/
def contentFirst : Tree → Bool
  | .table fields => (fields.find? fun field => field.1 == "type" || field.1 == "value").any
      (·.1 == "value")
  | _ => false

/-- The value that a tree of a JSON text denotes. All of a content that is set aside has to be
legible. -/
def ofTree? (tree : Tree) : Option Value := do
  let fields ← tree.holder.fields? ⟨.json, false⟩ .openEnded ["type", "value"]
  let kind ← fields.required "type" (Tree.constant? ⟨.json, false⟩)
  let content ← (fields.get? "value").filter fun content =>
    !contentFirst tree || content.isLegible
  ofContent? ⟨.json, contentFirst tree⟩ kind content

end Value

end AttributeRelease
