import AttributeRelease.Proofs.Text.Reader

/-!
# Reading before closing marks

A pattern is put between marks before it is read. Readers that go over the pattern alone and over
the pattern with the closing marks after it stay in step: where both succeed they give the same value,
and what is left differs by the marks. There is one exception. A comment that nothing ends runs over
the marks too, and after that nothing is left on either side.

`Alike` says this of two readers. They are mostly the same reader, but groups may be read with
different limits on how deep they are nested.
-/

namespace AttributeRelease.Text.Reader

/-- The marks after a pattern. -/
def closing : List Char := [')', '$']

/-- An input, and the same input before the closing marks, unless these were lost in a comment. -/
def Closed (input closed : List Char) : Prop := closed = input ++ closing ∨ closed = input

/-- Two readers, on an input and on one before the closing marks, give the same value if both give
one, and leave inputs of that kind. -/
def AlikeAt {α : Type} (input : List Char) (reader other : Reader α) : Prop :=
  ∀ closed, Closed input closed → ∀ value rest value' rest', reader input = some (value, rest) →
    other closed = some (value', rest') → value' = value ∧ Closed rest rest'

/-- Two readers give the same values before the closing marks as without them. -/
def Alike {α : Type} (reader other : Reader α) : Prop := ∀ input, AlikeAt input reader other

variable {α β σ : Type}

namespace Closed

/-- An input is as it is without the closing marks. -/
theorem self (input : List Char) : Closed input input := .inr rfl

/-- Inputs of that kind begin with the same character. -/
theorem cons_iff {c : Char} {rest closed : List Char} :
    Closed (c :: rest) closed ↔ ∃ closedRest, closed = c :: closedRest ∧ Closed rest closedRest := by
  constructor
  · rintro (rfl | rfl)
    · exact ⟨rest ++ closing, rfl, .inl rfl⟩
    · exact ⟨rest, rfl, .inr rfl⟩
  · rintro ⟨_, rfl, rfl | rfl⟩
    · exact .inl rfl
    · exact .inr rfl

/-- Leaving out symbols at the front keeps inputs in step, unless this stops between the marks. -/
theorem dropWhile {passes : Char → Bool} (marks : passes ')' = true → passes '$' = true)
    {input closed : List Char} (inStep : Closed input closed) :
    Closed (input.dropWhile passes) (closed.dropWhile passes) := by
  induction input generalizing closed with
  | nil =>
    rcases inStep with rfl | rfl
    · cases first : passes ')' with
      | true => exact .inr (by simp [closing, first, marks first])
      | false => exact .inl (by simp [closing, first])
    · exact .self []
  | cons c rest ih =>
    obtain ⟨closedRest, rfl, restInStep⟩ := cons_iff.1 inStep
    cases passed : passes c with
    | true => simpa only [List.dropWhile_cons, passed, if_true] using ih restInStep
    | false => simpa [List.dropWhile_cons, passed] using inStep

/-- What is taken off the front does not depend on the marks if taking stops at them. -/
theorem takeWhile_eq {passes : Char → Bool} (stops : passes ')' = false)
    {input closed : List Char} (inStep : Closed input closed) :
    closed.takeWhile passes = input.takeWhile passes := by
  induction input generalizing closed with
  | nil => rcases inStep with rfl | rfl <;> simp [closing, stops]
  | cons c rest ih =>
    obtain ⟨closedRest, rfl, restInStep⟩ := cons_iff.1 inStep
    simp only [List.takeWhile_cons, ih restInStep]

/-- What is taken off the front does not depend on the marks either if something is left of the
input alone. -/
theorem takeWhile_eq_of_ne_nil {passes : Char → Bool} {input closed : List Char}
    (inStep : Closed input closed) (left : input.dropWhile passes ≠ []) :
    closed.takeWhile passes = input.takeWhile passes := by
  rcases inStep with rfl | rfl
  · rw [List.takeWhile_append, if_neg]
    intro whole
    refine left (List.dropWhile_eq_nil_iff.2 (List.takeWhile_eq_self_iff.1 ?_))
    exact (List.takeWhile_prefix _).eq_of_length whole
  · rfl

/-- Whether an input goes on with a run of symbols does not depend on the marks if the first of them
is not in the run. -/
theorem isPrefixOf_eq {wanted : List Char} (noMark : ')' ∉ wanted) {input closed : List Char}
    (inStep : Closed input closed) : wanted.isPrefixOf closed = wanted.isPrefixOf input := by
  induction wanted generalizing input closed with
  | nil => simp
  | cons symbol others ih =>
    rw [List.mem_cons, not_or] at noMark
    cases input with
    | nil =>
      rcases inStep with rfl | rfl
      · have differs : (symbol == ')') = false := by simpa using Ne.symm noMark.1
        rw [List.nil_append, closing, List.isPrefixOf_cons_cons, differs]
        rfl
      · rfl
    | cons c rest =>
      obtain ⟨closedRest, rfl, restInStep⟩ := cons_iff.1 inStep
      simp only [List.isPrefixOf_cons_cons, ih noMark.2 restInStep]

/-- Taking symbols off the front that are there keeps inputs in step. -/
theorem drop {count : Nat} {input closed : List Char} (inStep : Closed input closed)
    (enough : count ≤ input.length) : Closed (input.drop count) (closed.drop count) := by
  rcases inStep with rfl | rfl
  · exact .inl (List.drop_append_of_le_length enough)
  · exact .self _

/-- What depends on the first symbol only does not depend on the marks, if it does not tell the first
mark from the end. -/
theorem head?_eq {of : Option Char → β} (atMark : of (some ')') = of none)
    {input closed : List Char} (inStep : Closed input closed) : of closed.head? = of input.head? := by
  cases input with
  | nil =>
    rcases inStep with rfl | rfl
    · exact atMark
    · rfl
  | cons c rest =>
    obtain ⟨_, rfl, _⟩ := cons_iff.1 inStep
    rfl

end Closed

/-- A check passes exactly if its condition holds, and reads nothing. -/
theorem check_eq_some_iff {condition : Bool} {input : List Char} {result : Unit × List Char} :
    check condition input = some result ↔ condition = true ∧ result = ((), input) := by
  cases condition with
  | true =>
    constructor
    · rintro ⟨⟩
      exact ⟨rfl, rfl⟩
    · rintro ⟨_, rfl⟩
      rfl
  | false => exact ⟨nofun, nofun⟩

/-- An iteration goes on with a state, or ends with a value. -/
theorem go_cons_eq_some_iff {step : σ → Reader (σ ⊕ α)} {symbol : Char}
    {bound input : List Char} {state : σ} {result : α × List Char} :
    iterate.go step (symbol :: bound) state input = some result ↔
      (∃ next rest, step state input = some (.inl next, rest) ∧
        iterate.go step bound next rest = some result) ∨
      step state input = some (.inr result.1, result.2) := by
  rw [iterate.go, bind_eq_some_iff]
  constructor
  · rintro ⟨next | value, rest, stepped, goesOn⟩
    · exact .inl ⟨next, rest, stepped, goesOn⟩
    · cases goesOn
      exact .inr stepped
  · rintro (⟨next, rest, stepped, goesOn⟩ | stepped)
    · exact ⟨.inl next, rest, stepped, goesOn⟩
    · exact ⟨.inr result.1, result.2, stepped, rfl⟩

/-- Readers are alike at the end of the input if they give the same there, also before the marks. -/
theorem alikeAt_nil {reader other : Reader α} (inStep : ∀ value rest value' rest',
    reader [] = some (value, rest) → other closing = some (value', rest') →
      value' = value ∧ Closed rest rest')
    (same : ∀ value rest value' rest', reader [] = some (value, rest) →
      other [] = some (value', rest') → value' = value ∧ Closed rest rest') :
    AlikeAt [] reader other := by
  rintro closed (rfl | rfl)
  · exact inStep
  · exact same

namespace Alike

/-- A value is given alike. -/
theorem pure (value : α) : Alike (pure value) (pure value) := by
  rintro input closed inStep _ _ _ _ ⟨⟩ ⟨⟩
  exact ⟨rfl, inStep⟩

/-- A reader that fails gives nothing that could differ. -/
theorem fail (other : Reader α) : Alike Reader.fail other := by
  rintro input closed inStep _ _ _ _ ⟨⟩

/-- Beside a reader that fails nothing is given that could differ. -/
theorem toFail (reader : Reader α) : Alike reader Reader.fail := by
  rintro input closed inStep _ _ _ _ _ ⟨⟩

/-- A condition is checked alike. -/
theorem check (condition : Bool) : Alike (check condition) (Reader.check condition) := by
  cases condition with
  | true => exact .pure ()
  | false => exact .fail _

/-- One reader after the other, of which the second is only looked at on what the first can leave. -/
theorem bindAt {input : List Char} {reader other : Reader α} {next otherNext : α → Reader β}
    (first : AlikeAt input reader other)
    (second : ∀ value rest, reader input = some (value, rest) →
      AlikeAt rest (next value) (otherNext value)) :
    AlikeAt input (reader >>= next) (other >>= otherNext) := by
  intro closed inStep value rest value' rest' read otherRead
  obtain ⟨_, _, readFirst, readSecond⟩ := bind_eq_some_iff.1 read
  obtain ⟨_, _, otherFirst, otherSecond⟩ := bind_eq_some_iff.1 otherRead
  obtain ⟨rfl, middleInStep⟩ := first closed inStep _ _ _ _ readFirst otherFirst
  exact second _ _ readFirst _ middleInStep _ _ _ _ readSecond otherSecond

/-- One reader after the other. -/
theorem bind {reader other : Reader α} {next otherNext : α → Reader β} (first : Alike reader other)
    (second : ∀ value, Alike (next value) (otherNext value)) :
    Alike (reader >>= next) (other >>= otherNext) :=
  fun input => bindAt (first input) fun value rest _ => second value rest

/-- Values that are read alike can be changed. -/
theorem map {reader other : Reader α} (change : α → β) (alike : Alike reader other) :
    Alike (change <$> reader) (change <$> other) := by
  rw [map_eq_pure_bind, map_eq_pure_bind]
  exact alike.bind fun value => .pure _

/-- The next character is read alike, as the closing marks give no form. -/
theorem next : Alike next Reader.next := by
  rintro (_ | ⟨c, rest⟩) closed inStep _ _ _ _ read otherRead
  · cases read
  · obtain ⟨closedRest, rfl, restInStep⟩ := Closed.cons_iff.1 inStep
    cases read
    cases otherRead
    exact ⟨rfl, restInStep⟩

/-- An expected character is read alike. -/
theorem expect (wanted : Char) : Alike (expect wanted) (Reader.expect wanted) :=
  next.bind fun _ => .check _

/-- Before a symbol both readers see the same, whatever is looked for. -/
theorem acceptAt (wanted c : Char) (rest : List Char) :
    AlikeAt (c :: rest) (accept wanted) (accept wanted) := by
  intro closed inStep _ _ _ _ read otherRead
  obtain ⟨closedRest, rfl, restInStep⟩ := Closed.cons_iff.1 inStep
  simp only [accept] at read otherRead
  split at read
  next same =>
    rw [if_pos same] at otherRead
    cases read
    cases otherRead
    exact ⟨rfl, restInStep⟩
  next different =>
    rw [if_neg different] at otherRead
    cases read
    cases otherRead
    exact ⟨rfl, inStep⟩

/-- A character other than the mark is accepted alike. -/
theorem accept {wanted : Char} (notMark : ')' ≠ wanted) :
    Alike (accept wanted) (Reader.accept wanted) := by
  rintro (_ | ⟨c, rest⟩)
  · refine alikeAt_nil ?_ ?_ <;> rintro _ _ _ _ ⟨⟩ read
    · simp only [Reader.accept, closing, if_neg notMark] at read
      cases read
      exact ⟨rfl, .inl rfl⟩
    · cases read
      exact ⟨rfl, .self []⟩
  · exact acceptAt wanted c rest

/-- A step that goes on after looking ahead must not tell the marks from the end. -/
theorem lookAhead {γ : Type} {look : List Char → γ} {next otherNext : γ → Reader α}
    (alike : ∀ seen, Alike (next seen) (otherNext seen))
    (same : ∀ input closed, Closed input closed →
      otherNext (look closed) = otherNext (look input)) :
    Alike ((fun input => some (look input, input)) >>= next)
      ((fun input => some (look input, input)) >>= otherNext) := by
  intro input closed inStep value rest value' rest' read otherRead
  change otherNext (look closed) closed = _ at otherRead
  rw [same input closed inStep] at otherRead
  exact alike _ _ _ inStep _ _ _ _ read otherRead

/-- A look at the next character goes on alike if the mark counts as the end. -/
theorem peek {next otherNext : Option Char → Reader α}
    (alike : ∀ c, Alike (next c) (otherNext c)) (atMark : otherNext (some ')') = otherNext none) :
    Alike (peek? >>= next) (peek? >>= otherNext) := by
  exact lookAhead alike fun _ _ inStep => inStep.head?_eq atMark

/-- Looking ahead at any part of the input for a test that has to pass. -/
theorem checkAhead {γ : Type} {look : List Char → γ} {passes : γ → Bool} :
    Alike ((fun input => some (look input, input)) >>= fun found => Reader.check (passes found))
      ((fun input => some (look input, input)) >>= fun found => Reader.check (passes found)) := by
  intro input closed inStep value rest value' rest' read otherRead
  obtain ⟨_, _, ⟨⟩, checked⟩ := bind_eq_some_iff.1 read
  obtain ⟨_, _, ⟨⟩, otherChecked⟩ := bind_eq_some_iff.1 otherRead
  cases (check_eq_some_iff.1 checked).2
  cases (check_eq_some_iff.1 otherChecked).2
  exact ⟨rfl, inStep⟩

/-- A look ahead whose answer is only checked goes on alike. -/
theorem checkAheadThen {γ : Type} {look : List Char → γ} {passes : γ → Bool}
    {next otherNext : Reader α} (alike : Alike next otherNext) :
    Alike ((fun input => some (look input, input)) >>= fun seen =>
        Reader.check (passes seen) >>= fun _ => next)
      ((fun input => some (look input, input)) >>= fun seen =>
        Reader.check (passes seen) >>= fun _ => otherNext) := by
  simpa only [bind_assoc] using checkAhead.bind fun _ => alike

/-- Characters of which none is the mark are accepted alike. -/
theorem acceptAll {wanted : List Char} (noMark : ')' ∉ wanted) :
    Alike (acceptAll wanted) (Reader.acceptAll wanted) := by
  intro input closed inStep _ _ _ _ read otherRead
  simp only [Reader.acceptAll, inStep.isPrefixOf_eq noMark] at read otherRead
  cases isNext : wanted.isPrefixOf input with
  | true =>
    rw [isNext] at read otherRead
    cases read
    cases otherRead
    exact ⟨rfl, inStep.drop (List.isPrefixOf_iff_prefix.1 isNext).length_le⟩
  | false =>
    rw [isNext] at read otherRead
    cases read
    cases otherRead
    exact ⟨rfl, inStep⟩

/-- As many characters are read alike. -/
theorem takeExactly (count : Nat) : Alike (takeExactly count) (Reader.takeExactly count) := by
  intro input closed inStep _ _ _ _ read otherRead
  simp only [Reader.takeExactly] at read otherRead
  split at read
  next => cases read
  next enough =>
    have enough : count ≤ input.length := by
      rw [List.length_take] at enough
      omega
    split at otherRead
    next => cases otherRead
    next =>
      cases read
      cases otherRead
      refine ⟨?_, inStep.drop enough⟩
      rcases inStep with rfl | rfl
      · exact List.take_append_of_le_length enough
      · rfl

/-- Looking ahead with a reader, which takes nothing then. -/
theorem ahead {reader other : Reader α} (alike : Alike reader other) :
    Alike (fun input => (reader input).map fun result => (result.1, input))
      (fun input => (other input).map fun result => (result.1, input)) := by
  intro input closed inStep value rest value' rest' read otherRead
  obtain ⟨⟨seen, _⟩, looked, ⟨⟩⟩ := Option.map_eq_some_iff.1 read
  obtain ⟨⟨otherSeen, _⟩, otherLooked, ⟨⟩⟩ := Option.map_eq_some_iff.1 otherRead
  exact ⟨(alike input closed inStep _ _ _ _ looked otherLooked).1, inStep⟩

/-- Characters are read alike while they pass a test that the mark fails. -/
theorem takeWhile {passes : Char → Bool} (stops : passes ')' = false) :
    Alike (takeWhile passes) (Reader.takeWhile passes) := by
  rintro input closed inStep _ _ _ _ ⟨⟩ ⟨⟩
  exact ⟨inStep.takeWhile_eq stops, inStep.dropWhile fun passed => by simp [stops] at passed⟩

/-- What is taken does not matter if it is left out of account. -/
theorem skipWhile {passes : Char → Bool} (marks : passes ')' = true → passes '$' = true)
    {next otherNext : Reader α} (alike : Alike next otherNext) :
    Alike (Reader.takeWhile passes >>= fun _ => next)
      (Reader.takeWhile passes >>= fun _ => otherNext) :=
  fun _ _ inStep _ _ _ _ read otherRead =>
    alike _ _ (inStep.dropWhile marks) _ _ _ _ read otherRead

/-- Up to a symbol that has to come, the marks play no part. -/
theorem takeUntil {mark : Char} (notMark : mark ∉ closing) {next otherNext : List Char → Reader α}
    (alike : ∀ taken, Alike (next taken) (otherNext taken)) :
    Alike (Reader.takeWhile (· != mark) >>= fun taken => Reader.expect mark >>= fun _ => next taken)
      (Reader.takeWhile (· != mark) >>= fun taken =>
        Reader.expect mark >>= fun _ => otherNext taken) := by
  intro input closed inStep value rest value' rest' read otherRead
  have passes : ('$' != mark) = true := by
    rw [bne_iff_ne]
    rintro rfl
    exact notMark (by decide)
  have inStepAfter : Closed (input.dropWhile (· != mark)) (closed.dropWhile (· != mark)) :=
    inStep.dropWhile fun _ => passes
  have goesOn := (expect mark).bind fun _ => alike (input.takeWhile (· != mark))
  have readAfter : (Reader.expect mark >>= fun _ => next (input.takeWhile (· != mark)))
      (input.dropWhile (· != mark)) = some (value, rest) := read
  have left : input.dropWhile (· != mark) ≠ [] := by
    intro none
    rw [none] at readAfter
    cases readAfter
  refine goesOn _ _ inStepAfter _ _ _ _ readAfter ?_
  rw [← inStep.takeWhile_eq_of_ne_nil left]
  exact otherRead

/-- Readers that are alike step by step are alike if they are repeated, however often they may be. -/
theorem go {step otherStep : σ → Reader (σ ⊕ α)}
    (alike : ∀ state, Alike (step state) (otherStep state)) (bound otherBound : List Char)
    (state : σ) :
    Alike (iterate.go step bound state) (iterate.go otherStep otherBound state) := by
  -- Only a step that goes on asks how many more there may be.
  induction bound generalizing otherBound state with
  | nil =>
    cases otherBound <;>
    · refine (alike state).bind fun outcome => ?_
      cases outcome with
      | inl => exact .fail _
      | inr result => exact .pure result
  | cons _ bound ih =>
    cases otherBound with
    | nil =>
      refine (alike state).bind fun outcome => ?_
      cases outcome with
      | inl => exact .toFail _
      | inr result => exact .pure result
    | cons _ otherBound =>
      refine (alike state).bind fun outcome => ?_
      cases outcome with
      | inl next => exact ih otherBound next
      | inr result => exact .pure result

/-- An iteration goes alike if its steps do. -/
theorem iterate {step otherStep : σ → Reader (σ ⊕ α)}
    (alike : ∀ state, Alike (step state) (otherStep state)) (start : σ) :
    Alike (iterate step start) (Reader.iterate otherStep start) :=
  fun input closed => go alike input closed start input closed

/-- A walk through a list reads alike if its steps do. -/
theorem mapM {γ : Type} {step otherStep : γ → Reader α}
    (alike : ∀ element, Alike (step element) (otherStep element)) (list : List γ) :
    Alike (list.mapM step) (list.mapM otherStep) := by
  induction list with
  | nil => exact .pure []
  | cons head rest ih =>
    rw [List.mapM_cons, List.mapM_cons]
    exact (alike head).bind fun first => ih.bind fun others => .pure _

end Alike

end AttributeRelease.Text.Reader
