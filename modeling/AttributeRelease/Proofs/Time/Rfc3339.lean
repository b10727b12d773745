import AttributeRelease.Proofs.Text.Reader
import AttributeRelease.Proofs.Time.Calendar
import AttributeRelease.Time.Rfc3339

/-!
# Reading written instants

An instant that a clock can show is read back from its written form. The reader takes each part of
the form off the text in turn: years with or without a sign, fields of two digits, and fractions of
no, three, six or nine digits. The date and the time of day then give the instant back, in leap
seconds too. An instant that no clock shows has the written form of another one, and no text denotes
it: whatever is read is the time of a clock.
-/

namespace AttributeRelease.Time

namespace Instant

/-- An instant is made of its second and its nanosecond. -/
theorem of?_eq (instant : Instant) : of? instant.second instant.nanosecond = some instant :=
  dif_pos ⟨instant.inRange, instant.isShort⟩

/-- What is made of a second and a nanosecond is the instant that has these. -/
theorem of?_eq_some_iff {second : Int} {nanosecond : Nat} {instant : Instant} :
    of? second nanosecond = some instant ↔
      instant.second = second ∧ instant.nanosecond = nanosecond := by
  constructor
  · intro found
    rw [of?] at found
    split at found <;> cases found
    exact ⟨rfl, rfl⟩
  · rintro ⟨rfl, rfl⟩
    exact of?_eq instant

/-- A clock can show an instant: nanoseconds beyond a whole second, which are those of a leap second,
stand only beside the last second of a minute. -/
def IsClockTime (instant : Instant) : Prop :=
  1000000000 ≤ instant.nanosecond → instant.second % 60 = 59

instance (instant : Instant) : Decidable instant.IsClockTime := inferInstanceAs (Decidable (_ → _))

end Instant

/-- The day of an instant can be told, as the instant can. -/
theorem inRange_day {second : Int} (isInRange : inRange second = true) :
    inRange (second / 86400 * 86400) = true := by
  simp only [inRange, Bool.and_eq_true, decide_eq_true_eq] at isInRange ⊢
  omega

namespace Rfc3339

open AttributeRelease.Text (Reader decimal padded isDigit_of_mem_padded padded_ne_nil length_padded
  decimal_padded)
open AttributeRelease.Text.Reader

section Parts

variable {rest text : List Char}

/-- Nothing is skipped where there is no white space. -/
theorem skipBlank_eq {input : List Char} (notBlank : input.head?.any Text.isSpace = false) :
    skipBlank input = some ((), input) :=
  bind_eq (takeWhile_eq_nil notBlank)

/-- A digit is no white space. -/
theorem isSpace_of_isDigit {c : Char} (isDigit : c.isDigit = true) : Text.isSpace c = false := by
  rw [Char.isDigit, Bool.and_eq_true, decide_eq_true_eq, decide_eq_true_eq] at isDigit
  have isCode : 48 ≤ c.toNat ∧ c.toNat ≤ 57 := isDigit
  simp only [Text.isSpace, Bool.or_eq_false_iff, Bool.and_eq_false_iff, decide_eq_false_iff_not,
    beq_eq_false_iff_ne]
  omega

/-- Digits follow no blanks. -/
theorem skipBlank_digits (areDigits : ∀ c ∈ text, c.isDigit = true) (someDigits : text ≠ []) :
    skipBlank (text ++ rest) = some ((), text ++ rest) := by
  obtain ⟨c, others, rfl⟩ := List.exists_cons_of_ne_nil someDigits
  exact skipBlank_eq (isSpace_of_isDigit (areDigits c List.mem_cons_self))

/-- Digits are taken as a whole if there are as many as may be or no more follow. -/
theorem digits_eq {most : Nat} (areDigits : ∀ c ∈ text, c.isDigit = true) (someDigits : text ≠ [])
    (fits : text.length = most ∨ text.length ≤ most ∧ rest.head?.any Char.isDigit = false) :
    digits most (text ++ rest) = some (text, rest) := by
  have taken : ((text ++ rest).take most).takeWhile Char.isDigit = text := by
    have ends : (rest.take (most - text.length)).takeWhile Char.isDigit = [] := by
      rcases fits with full | ⟨_, ends⟩
      · simp [full]
      · cases rest with
        | nil => rw [List.take_nil, List.takeWhile_nil]
        | cons c others =>
          cases most - text.length with
          | zero => rfl
          | succ count => simpa using ends
    have within : text.length ≤ most := by omega
    rw [List.take_append, List.take_of_length_le within, List.takeWhile_append_of_pos areDigits, ends,
      List.append_nil]
  simp only [digits, taken, List.isEmpty_iff, someDigits, if_false, List.drop_left]

/-- A field of two digits is read back. -/
theorem field_padded {number : Nat} (small : number < 100) :
    field (padded 2 number ++ rest) = some (number, rest) := by
  have areDigits : ∀ c ∈ padded 2 number, c.isDigit = true := fun c => isDigit_of_mem_padded
  have someDigits := padded_ne_nil 2 number
  rw [field, bind_eq (skipBlank_digits areDigits someDigits),
    bind_eq (digits_eq areDigits someDigits (.inl (length_padded (by decide) small))), decimal_padded]
  rfl

/-- A separator other than white space is read. -/
theorem separator_eq {mark : Char} (notBlank : Text.isSpace mark = false) :
    separator mark (mark :: rest) = some ((), rest) := by
  rw [separator, bind_eq (skipBlank_eq (by simpa using notBlank)), expect_eq]

/-- The mark between date and time is read. -/
theorem dateEnd_eq : dateEnd ('T' :: rest) = some ((), rest) := rfl

/-- A year is read back, also from the form with a sign. -/
theorem year_yearText (number : Int) :
    year (yearText number ++ '-' :: rest) = some (number, '-' :: rest) := by
  have areDigits : ∀ c ∈ padded 4 number.natAbs, c.isDigit = true := fun c => isDigit_of_mem_padded
  have someDigits := padded_ne_nil 4 number.natAbs
  have signed : takeWhile Char.isDigit (padded 4 number.natAbs ++ '-' :: rest) =
      some (padded 4 number.natAbs, '-' :: rest) := takeWhile_eq areDigits rfl
  rw [yearText]
  split
  next plain =>
    have length := length_padded (by decide : 0 < 4) (show number.natAbs < 10 ^ 4 by omega)
    have taken : digits 4 (padded 4 number.natAbs ++ '-' :: rest) = _ :=
      digits_eq areDigits someDigits (.inl length)
    rw [year, bind_eq (skipBlank_digits areDigits someDigits), bind_eq (peek?_eq _)]
    -- The reader looks for a sign first, and a digit is none.
    generalize isFirst : (padded 4 number.natAbs ++ '-' :: rest).head? = first
    have isDigit : first.any Char.isDigit = true := by
      obtain ⟨c, others, isCons⟩ := List.exists_cons_of_ne_nil someDigits
      rw [← isFirst, isCons]
      exact areDigits c (isCons ▸ List.mem_cons_self)
    split
    next => cases isDigit
    next => cases isDigit
    next =>
      rw [bind_eq taken, decimal_padded]
      exact congrArg some (Prod.ext (by simp only; omega) rfl)
  next =>
    split
    next negative =>
      rw [List.cons_append, year, bind_eq (skipBlank_eq rfl), bind_eq (peek?_eq _)]
      simp only [List.head?_cons]
      rw [bind_eq (next_eq _ _), bind_eq signed, bind_eq (check_eq (by simpa using someDigits) _),
        decimal_padded]
      exact congrArg some (Prod.ext (by simp only; omega) rfl)
    next positive =>
      rw [List.cons_append, year, bind_eq (skipBlank_eq rfl), bind_eq (peek?_eq _)]
      simp only [List.head?_cons]
      rw [bind_eq (next_eq _ _), bind_eq signed, bind_eq (check_eq (by simpa using someDigits) _),
        decimal_padded]
      exact congrArg some (Prod.ext (by simp only; omega) rfl)

/-- A fraction is read as the nanoseconds that its digits stand for. -/
theorem fraction_digits {width number : Nat} (positive : 0 < width) (fits : width ≤ 9)
    (small : number < 10 ^ width) :
    fraction ('.' :: (padded width number ++ 'Z' :: rest)) =
      some (number * 10 ^ (9 - width), 'Z' :: rest) := by
  have areDigits : ∀ c ∈ padded width number, c.isDigit = true := fun c => isDigit_of_mem_padded
  have length := length_padded positive small
  have someDigits := padded_ne_nil width number
  have taken : digits 9 (padded width number ++ 'Z' :: rest) =
      some (padded width number, 'Z' :: rest) :=
    digits_eq areDigits someDigits (.inr ⟨length.trans_le fits, rfl⟩)
  have noMore : takeWhile Char.isDigit ('Z' :: rest) = some ([], 'Z' :: rest) := rfl
  rw [fraction, bind_eq (accept_eq _ _), if_pos rfl, bind_eq taken, bind_eq noMore, ofFraction,
    decimal_padded, length]
  rfl

/-- A fraction is read back from its shortest form. -/
theorem fraction_fractionText {nanosecond : Nat} (small : nanosecond < 1000000000) :
    fraction (fractionText nanosecond ++ 'Z' :: rest) = some (nanosecond, 'Z' :: rest) := by
  rw [fractionText]
  split_ifs with isZero isMilli isMicro
  · rw [isZero]
    rfl
  · rw [List.cons_append, fraction_digits (by decide) (by decide) (by omega)]
    simp; omega
  · rw [List.cons_append, fraction_digits (by decide) (by decide) (by omega)]
    simp; omega
  · rw [List.cons_append, fraction_digits (by decide) (by decide) (by omega)]
    simp

/-- The mark at the end is read as no offset. -/
theorem offset_utc : offset ['Z'] = some (0, []) := rfl

end Parts

/-- A written date and time of day is read field by field. -/
theorem instant_secondsText (seconds : Int) {nanosecond part : Nat} (fits : nanosecond < 2000000000)
    (isPart : part < 1000000000) :
    instant (secondsText seconds nanosecond ++ fractionText part ++ ['Z']) =
      let time := (seconds % 86400).toNat
      (instant? (Date.ofDayNumber (seconds / 86400)) (time / 3600) (time / 60 % 60)
        (time % 60 + nanosecond / 1000000000) part 0).map (·, []) := by
  have isValid := Date.ofDayNumber_isValid (seconds / 86400)
  simp only [Date.isValid, Bool.and_eq_true, decide_eq_true_eq] at isValid
  obtain ⟨⟨⟨-, isMonth⟩, -⟩, isDay⟩ := isValid
  have isShort := monthLength_le (Date.ofDayNumber (seconds / 86400)).year
    (Date.ofDayNumber (seconds / 86400)).month
  simp only [secondsText, List.append_assoc, List.cons_append]
  rw [instant, bind_eq (year_yearText _), bind_eq (separator_eq rfl),
    bind_eq (field_padded (by omega)), bind_eq (separator_eq rfl),
    bind_eq (field_padded (by omega)), bind_eq dateEnd_eq,
    bind_eq (field_padded (by omega)), bind_eq (separator_eq rfl), bind_eq (field_padded (by omega)),
    bind_eq (separator_eq rfl), bind_eq (field_padded (by omega)),
    bind_eq (fraction_fractionText isPart), bind_eq (skipBlank_eq rfl), bind_eq offset_utc,
    bind_eq (skipBlank_eq rfl)]
  generalize instant? _ _ _ _ _ _ = found
  cases found <;> rfl

/-- The date and the time of day of a clock time, with a leap second as the sixtieth, give it back. At
other times the second after the last whole one comes out. -/
theorem instant?_parts (instant : Instant) :
    let time := (instant.second % 86400).toNat
    instant? (Date.ofDayNumber (instant.second / 86400)) (time / 3600) (time / 60 % 60)
      (time % 60 + instant.nanosecond / 1000000000) (instant.nanosecond % 1000000000) 0 =
        if instant.IsClockTime then some instant
        else Instant.of? (instant.second + 1) (instant.nanosecond - 1000000000) := by
  have isValid := Date.ofDayNumber_isValid (instant.second / 86400)
  have dayInRange := inRange_day instant.inRange
  have isShort := instant.isShort
  simp only [instant?, Date.dayNumber_ofDayNumber, isValid, dayInRange]
  rw [if_pos (by simp only [Bool.true_and, Bool.and_eq_true, decide_eq_true_eq]; omega)]
  by_cases isClockTime : instant.IsClockTime
  · rw [if_pos isClockTime, Instant.of?_eq_some_iff]
    rw [Instant.IsClockTime] at isClockTime
    constructor <;> split <;> omega
  · rw [if_neg isClockTime]
    rw [Instant.IsClockTime] at isClockTime
    refine congrArg₂ Instant.of? ?_ ?_ <;> split <;> omega

/-- A clock time is read back from its written form. Another instant has the written form of the one
a second later. -/
theorem read?_write (instant : Instant) :
    read? (write instant) =
      if instant.IsClockTime then some instant
      else Instant.of? (instant.second + 1) (instant.nanosecond - 1000000000) := by
  have isShort := instant.isShort
  rw [read?, whole?, wholeOf?, write, String.toList_ofList,
    instant_secondsText instant.second (by omega) (by omega)]
  simp only [instant?_parts]
  generalize (if instant.IsClockTime then _ else _ : Option Instant) = found
  cases found <;> rfl

section Clock

variable {input rest : List Char}

/-- No more digits are taken than were asked for. -/
theorem length_le_of_digits {most : Nat} {chars : List Char}
    (taken : digits most input = some (chars, rest)) : chars.length ≤ most := by
  rw [digits] at taken
  split at taken <;> cases taken
  exact (List.takeWhile_prefix _).length_le.trans (List.length_take_le _ _)

/-- A fraction is less than a second. -/
theorem lt_of_fraction {nanosecond : Nat} (taken : fraction input = some (nanosecond, rest)) :
    nanosecond < 1000000000 := by
  obtain ⟨isThere, _, -, taken⟩ := bind_eq_some_iff.1 taken
  split at taken
  next =>
    obtain ⟨chars, _, isTaken, taken⟩ := bind_eq_some_iff.1 taken
    cases taken
    have few := length_le_of_digits isTaken
    calc ofFraction chars < 10 ^ chars.length * 10 ^ (9 - chars.length) :=
          Nat.mul_lt_mul_of_pos_right (Text.decimal_lt chars) (Nat.pow_pos (by decide))
      _ = 1000000000 := by rw [← Nat.pow_add, Nat.add_sub_cancel' few]
  next =>
    cases taken
    decide

/-- Offsets are whole minutes. -/
theorem minutes_of_offset {seconds : Int} (taken : offset input = some (seconds, rest)) :
    seconds % 60 = 0 := by
  obtain ⟨ahead, _, -, taken⟩ := bind_eq_some_iff.1 taken
  split at taken
  next =>
    obtain ⟨_, _, -, taken⟩ := bind_eq_some_iff.1 taken
    cases taken
    rfl
  next =>
    obtain ⟨sign, _, -, taken⟩ := bind_eq_some_iff.1 taken
    split at taken
    next =>
      cases taken
      rfl
    next =>
      cases taken
      rfl
    next =>
      simp only [bind_eq_some_iff] at taken
      obtain ⟨_, _, -, hours, _, -, _, _, -, minutes, _, -, taken⟩ := taken
      cases taken
      split <;> omega

/-- Second sixty comes after the fifty-ninth, and offsets are whole minutes. -/
theorem isClockTime_of_instant? {date : Date} {hour minute second nanosecond : Nat} {offset : Int}
    {instant : Instant} (small : nanosecond < 1000000000) (minutes : offset % 60 = 0)
    (found : instant? date hour minute second nanosecond offset = some instant) :
    instant.IsClockTime := by
  simp only [instant?] at found
  split at found
  next =>
    obtain ⟨isSecond, isNanosecond⟩ := Instant.of?_eq_some_iff.1 found
    rw [Instant.IsClockTime, isSecond, isNanosecond]
    split <;> omega
  next => cases found

/-- Whatever is read is the time of a clock. -/
theorem isClockTime_of_read? {text : String} {time : Instant} (isRead : read? text = some time) :
    time.IsClockTime := by
  rw [read?, whole?, wholeOf?] at isRead
  split at isRead <;> cases isRead
  next taken =>
  simp only [instant, bind_eq_some_iff] at taken
  obtain ⟨year, _, -, -, _, -, month, _, -, -, _, -, day, _, -, -, _, -, hour, _, -, -, _, -, minute,
    _, -, -, _, -, second, _, -, nanosecond, _, isFraction, -, _, -, offset, _, isOffset, -, _, -,
    taken⟩ := taken
  generalize found : instant? _ _ _ _ _ _ = result at taken
  cases result with
  | none => cases taken
  | some instant =>
    cases taken
    exact isClockTime_of_instant? (lt_of_fraction isFraction) (minutes_of_offset isOffset) found

/-- An instant is read back from its written form exactly if it is a clock time. -/
theorem read?_write_eq_some_iff {instant : Instant} :
    read? (write instant) = some instant ↔ instant.IsClockTime := by
  constructor
  · exact isClockTime_of_read?
  · intro isClockTime
    rw [read?_write, if_pos isClockTime]

end Clock

example : (read? "2017-01-01t00:29:60.5 +00:30").map write = some "2016-12-31T23:59:60.500Z" := by
  decide +kernel

end Rfc3339

end AttributeRelease.Time
