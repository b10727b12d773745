import AttributeRelease.Config.Loading
import AttributeRelease.Proofs.Outcome
import Mathlib.Data.List.Basic

/-!
# Expansion is one pass

`Expands` says without a cursor what becomes of a text. Its lines are told apart; in each line, the
mentions of variables are found from left to right, each after the end of the one before it; those
that start before the first hash sign are replaced by values, and nothing else changes. The first
variable that is not set is reported instead. `expand_eq_iff` says that the expansion comes to this,
and to nothing else.
-/

namespace AttributeRelease.Expansion

open Outcome

section Lines

variable {text line rest : List Char} {parts : List (List Char)}

/-- The lines of a text. A line ends with a line feed, and a carriage return before that belongs to the
end. The last line need not be ended if there is anything in it. -/
inductive IsLines : List Char → List (List Char) → Prop
  | nil : IsLines [] []
  | last {line : List Char} (notNil : line ≠ []) (noFeed : '\n' ∉ line) : IsLines line [line]
  | ended {line rest : List Char} {others : List (List Char)} (noFeed : '\n' ∉ line)
      (noReturn : line.getLast? ≠ some '\r') (areOthers : IsLines rest others) :
      IsLines (line ++ '\n' :: rest) (line :: others)
  | endedWithReturn {line rest : List Char} {others : List (List Char)} (noFeed : '\n' ∉ line)
      (areOthers : IsLines rest others) :
      IsLines (line ++ '\r' :: '\n' :: rest) (line :: others)

/-- No character of a line without line feeds is one. -/
theorem beq_feed_eq_false (noFeed : '\n' ∉ line) : ∀ c ∈ line, (c == '\n') = false := by
  rintro c member
  exact beq_false_of_ne fun isFeed => noFeed (isFeed ▸ member)

/-- A text without line feeds is one line. -/
theorem lines_of_noFeed (notNil : line ≠ []) (noFeed : '\n' ∉ line) : lines line = [line] := by
  have parts : line.splitOn '\n' = [line] :=
    List.splitOnP_eq_singleton (beq_feed_eq_false noFeed)
  rw [lines, parts]
  cases line with
  | nil => exact absurd rfl notNil
  | cons head tail => rfl

/-- A text begins with its first line, and goes on with the lines behind the line feed. -/
theorem lines_append (noFeed : '\n' ∉ line) (rest : List Char) :
    lines (line ++ '\n' :: rest) = withoutReturn line :: lines rest := by
  have parts : (line ++ '\n' :: rest).splitOn '\n' = line :: rest.splitOn '\n' :=
    List.splitOnP_append_cons_of_forall_mem (beq_feed_eq_false noFeed) _ (beq_self_eq_true _) _
  obtain ⟨first, others, isCons⟩ : ∃ first others, rest.splitOn '\n' = first :: others :=
    List.exists_cons_of_ne_nil (List.splitOnP_ne_nil _ _)
  rw [lines, lines, parts, isCons, List.dropLast_cons_cons, List.getLast?_cons_cons, List.map_cons]
  split <;> rfl

/-- The lines of a text are found where they are. -/
theorem lines_eq_of_isLines (areLines : IsLines text parts) : lines text = parts := by
  induction areLines with
  | nil => rfl
  | last notNil noFeed => exact lines_of_noFeed notNil noFeed
  | ended noFeed noReturn _ ih =>
    rw [lines_append noFeed, ih, withoutReturn, if_neg noReturn]
  | @endedWithReturn line rest others noFeed _ ih =>
    have withFeed : '\n' ∉ line ++ ['\r'] := by simpa using noFeed
    have split : line ++ '\r' :: '\n' :: rest = (line ++ ['\r']) ++ '\n' :: rest := by simp
    rw [split, lines_append withFeed, ih, withoutReturn, List.getLast?_concat, if_pos rfl,
      List.dropLast_concat]

/-- What a text is split into are its lines. -/
theorem isLines_lines (text : List Char) : IsLines text (lines text) := by
  by_cases hasFeed : '\n' ∈ text
  · obtain ⟨line, rest, split, noFeed⟩ := List.eq_append_cons_of_mem hasFeed
    have _shorter : rest.length < text.length := by
      rw [split, List.length_append, List.length_cons]
      omega
    rw [split, lines_append noFeed]
    by_cases hasReturn : line.getLast? = some '\r'
    · obtain ⟨shown, rfl⟩ := List.getLast?_eq_some_iff.1 hasReturn
      rw [withoutReturn, if_pos hasReturn, List.dropLast_concat, List.append_assoc]
      exact .endedWithReturn (fun member => noFeed (by simp [member])) (isLines_lines rest)
    · rw [withoutReturn, if_neg hasReturn]
      exact .ended noFeed hasReturn (isLines_lines rest)
  · by_cases isNil : text = []
    · subst isNil
      exact .nil
    · rw [lines_of_noFeed isNil hasFeed]
      exact .last isNil hasFeed
termination_by text.length

/-- A text has exactly the lines that it is split into. -/
theorem isLines_iff : IsLines text parts ↔ lines text = parts :=
  ⟨lines_eq_of_isLines, fun same => same ▸ isLines_lines text⟩

end Lines

section Found

variable {line text before : List Char} {mention other : Mention} {mentions others : List Mention}
  {cursor : Nat}

/-- A mention stands in a line: its name is not empty and has no closing brace in it. -/
structure Mention.IsIn (mention : Mention) (line : List Char) : Prop where
  named : mention.name ≠ []
  noBrace : '\x7d' ∉ mention.name
  stands : ∃ before after, line = before ++ mention.text ++ after ∧ before.length = mention.start

/-- A name ends at the first closing brace. -/
theorem takeWhile_dropWhile_brace {name : List Char} (noBrace : '\x7d' ∉ name) (after : List Char) :
    (name ++ '\x7d' :: after).takeWhile (· != '\x7d') = name ∧
      (name ++ '\x7d' :: after).dropWhile (· != '\x7d') = '\x7d' :: after := by
  have goesOn : ∀ c ∈ name, (c != '\x7d') = true := by
    rintro c member
    exact bne_iff_ne.2 fun isBrace => noBrace (isBrace ▸ member)
  rw [List.takeWhile_append_of_pos goesOn, List.dropWhile_append_of_pos goesOn]
  simp

/-- A text begins with the mention of a name exactly if the name stands in braces behind a dollar
sign, is not empty and has no closing brace. -/
theorem mention?_eq_some_iff {name after : List Char} :
    mention? text = some (name, after) ↔
      name ≠ [] ∧ '\x7d' ∉ name ∧ text = '$' :: '\x7b' :: (name ++ '\x7d' :: after) := by
  constructor
  · intro found
    unfold mention? at found
    split at found
    next rest =>
      split at found
      next stopped rests isStopped =>
        dsimp only at found
        split at found
        next => cases found
        next named =>
          simp only [Option.some.injEq, Prod.mk.injEq] at found
          obtain ⟨rfl, rfl⟩ := found
          have isBrace : stopped = '\x7d' := by
            have stops := List.head?_dropWhile_not (· != '\x7d') rest
            simpa [isStopped] using stops
          have whole := List.takeWhile_append_dropWhile (p := (· != '\x7d')) (l := rest)
          rw [isStopped, isBrace] at whole
          refine ⟨by simpa using named, fun member => ?_, by rw [whole]⟩
          simpa using List.all_eq_true.1 List.all_takeWhile _ member
      next => cases found
    next => cases found
  · rintro ⟨named, noBrace, rfl⟩
    obtain ⟨taken, dropped⟩ := takeWhile_dropWhile_brace noBrace after
    simp only [mention?, dropped, taken]
    rw [if_neg (by simpa using named)]

/-- A mention stands in a line exactly if the line from there on begins with it. -/
theorem Mention.isIn_iff :
    mention.IsIn line ↔ ∃ after, mention? (line.drop mention.start) = some (mention.name, after) := by
  simp only [mention?_eq_some_iff]
  constructor
  · rintro ⟨named, noBrace, before, after, rfl, length⟩
    refine ⟨after, named, noBrace, ?_⟩
    rw [← length, List.append_assoc, List.drop_left, Mention.text]
    simp
  · rintro ⟨after, named, noBrace, split⟩
    have inside : mention.start ≤ line.length := by
      by_contra beyond
      rw [List.drop_eq_nil_of_le (by omega)] at split
      cases split
    refine ⟨named, noBrace, line.take mention.start, after, ?_, List.length_take_of_le inside⟩
    rw [List.append_assoc, Mention.text, List.cons_append, List.cons_append, List.append_assoc,
      List.singleton_append, ← split, List.take_append_drop]

/-- At most one mention stands at a place. -/
theorem Mention.IsIn.eq_of_start_eq (isIn : mention.IsIn line) (otherIsIn : other.IsIn line)
    (same : mention.start = other.start) : mention = other := by
  obtain ⟨after, found⟩ := Mention.isIn_iff.1 isIn
  obtain ⟨otherAfter, otherFound⟩ := Mention.isIn_iff.1 otherIsIn
  rw [same, otherFound, Option.some.injEq, Prod.mk.injEq] at found
  exact Mention.ext same found.1.symm

/-- The mentions that are found in a line from a cursor on: always the next one, and then those that
start where it is over or later. -/
inductive Found (line : List Char) : Nat → List Mention → Prop
  | none {cursor : Nat} (noMore : ∀ mention : Mention, mention.IsIn line → mention.start < cursor) :
      Found line cursor []
  | next {cursor : Nat} {first : Mention} {rest : List Mention} (isIn : first.IsIn line)
      (past : cursor ≤ first.start)
      (leftmost : ∀ mention : Mention, mention.IsIn line → cursor ≤ mention.start →
        first.start ≤ mention.start)
      (others : Found line first.stop rest) : Found line cursor (first :: rest)

/-- There is one way to find the mentions of a line. -/
theorem Found.unique (found : Found line cursor mentions) (otherFound : Found line cursor others) :
    mentions = others := by
  induction found generalizing others with
  | none noMore =>
    cases otherFound with
    | none => rfl
    | next isIn past => exact absurd past (Nat.not_le.2 (noMore _ isIn))
  | next isIn past leftmost _ ih =>
    cases otherFound with
    | none noMore => exact absurd past (Nat.not_le.2 (noMore _ isIn))
    | next otherIsIn otherPast otherLeftmost otherRest =>
      have sameStart := Nat.le_antisymm (leftmost _ otherIsIn otherPast)
        (otherLeftmost _ isIn past)
      cases isIn.eq_of_start_eq otherIsIn sameStart
      rw [ih otherRest]

/-- Over places where no mention starts, the search goes on. -/
theorem Found.of_le {start : Nat} (found : Found line cursor mentions) (earlier : start ≤ cursor)
    (noneBetween : ∀ mention : Mention, mention.IsIn line → start ≤ mention.start →
      cursor ≤ mention.start) : Found line start mentions := by
  cases found with
  | none noMore =>
    refine .none fun mention isIn => ?_
    by_contra isPast
    have later := noneBetween mention isIn (Nat.not_lt.1 isPast)
    exact Nat.not_lt.2 later (noMore mention isIn)
  | next isIn past leftmost others =>
    refine .next isIn (Nat.le_trans earlier past) (fun mention mentionIsIn mentionPast => ?_) others
    exact leftmost mention mentionIsIn (noneBetween mention mentionIsIn mentionPast)

/-- Behind a mention the search goes on where it stops. -/
theorem mentionsFrom_of_found {position : Nat} {c : Char} {rest name after : List Char}
    (found : mention? (c :: rest) = some (name, after)) :
    mentionsFrom position (c :: rest) =
      ⟨position, name⟩ :: mentionsFrom (Mention.mk position name).stop after := by
  rw [mentionsFrom]
  split
  next name' after' found' =>
    rw [found, Option.some.injEq, Prod.mk.injEq] at found'
    obtain ⟨rfl, rfl⟩ := found'
    rfl
  next absent => cases found.symm.trans absent

/-- Where no mention begins the search goes on with the next character. -/
theorem mentionsFrom_of_none {position : Nat} {c : Char} {rest : List Char}
    (absent : mention? (c :: rest) = none) :
    mentionsFrom position (c :: rest) = mentionsFrom (position + 1) rest := by
  rw [mentionsFrom]
  split
  next found => cases absent.symm.trans found
  next => rfl

/-- The scan finds the mentions of a line, part of which it has passed. -/
theorem found_mentionsFrom (position : Nat) (text : List Char) :
    ∀ passed : List Char, passed.length = position →
      Found (passed ++ text) position (mentionsFrom position text) := by
  induction position, text using mentionsFrom.induct with
  | case1 position =>
    rintro passed rfl
    rw [mentionsFrom]
    refine .none fun mention isIn => ?_
    obtain ⟨after, found⟩ := Mention.isIn_iff.1 isIn
    by_contra isPast
    rw [List.append_nil, List.drop_eq_nil_of_le (Nat.not_lt.1 isPast)] at found
    cases found
  | case2 position c rest name after found _ mention ih =>
    rintro passed rfl
    obtain ⟨named, noBrace, isMention⟩ := mention?_eq_some_iff.1 found
    have split : passed ++ c :: rest = passed ++ mention.text ++ after := by
      rw [isMention]
      simp [mention, Mention.text]
    have isIn : mention.IsIn (passed ++ c :: rest) := ⟨named, noBrace, passed, after, split, rfl⟩
    -- It starts where the search is, so no other one can come before it.
    rw [mentionsFrom_of_found found]
    refine .next isIn (Nat.le_refl _) (fun _ _ isPast => isPast) ?_
    rw [split]
    exact ih _ List.length_append
  | case3 position c rest found ih =>
    rintro passed rfl
    have noneHere : ∀ mention : Mention, mention.IsIn (passed ++ c :: rest) →
        mention.start ≠ passed.length := by
      rintro mention isIn isHere
      obtain ⟨after, foundHere⟩ := Mention.isIn_iff.1 isIn
      rw [isHere, List.drop_left, found] at foundHere
      cases foundHere
    rw [mentionsFrom_of_none found]
    have others := ih (passed ++ [c]) List.length_append
    rw [List.append_assoc] at others
    exact others.of_le (Nat.le_succ _) fun mention isIn isPast =>
      Nat.lt_of_le_of_ne isPast (noneHere mention isIn).symm

end Found

section Replaces

variable {environment : String → Option String} {line text : List Char} {mention : Mention}
  {mentions rest : List Mention} {cursor : Nat} {comment? : Option Nat} {result : List Char}

/-- Mentions in a text that starts at a position of a line are replaced by the values of the variables,
and everything else is copied. -/
inductive Replaces (environment : String → Option String) :
    Nat → List Char → List Mention → List Char → Prop
  | done {position : Nat} {text : List Char} : Replaces environment position text [] text
  | step {position : Nat} {copied after result : List Char} {mention : Mention}
      {rest : List Mention} {value : String} (stands : position + copied.length = mention.start)
      (isSet : environment mention.variableName = some value)
      (others : Replaces environment mention.stop after rest result) :
      Replaces environment position (copied ++ mention.text ++ after) (mention :: rest)
        (copied ++ value.toList ++ result)

/-- A mention in a comment is passed over. -/
theorem run_replaceFrom_of_comment (inComment : comment?.any (· ≤ mention.start) = true) :
    (replaceFrom (m := Id) environment line comment? cursor (mention :: rest)).run.run =
      (replaceFrom (m := Id) environment line comment? cursor rest).run.run := by
  rw [replaceFrom, if_pos inComment]

/-- A mention outside of comments is replaced by its value. -/
theorem run_replaceFrom_of_notComment (notComment : comment?.any (· ≤ mention.start) = false) :
    (replaceFrom (m := Id) environment line comment? cursor (mention :: rest)).run.run =
      match environment mention.variableName with
      | some value =>
        (replaceFrom (m := Id) environment line comment? mention.stop rest).run.run.map
          ((line.drop cursor).take (mention.start - cursor) ++ value.toList ++ ·)
      | none => .error mention.variableName := by
  rw [replaceFrom, if_neg (by simp [notComment])]
  refine (run_lift_bind (α := Option String) (environment mention.variableName) _).trans ?_
  rw [Id.run]
  cases environment mention.variableName with
  | none => rfl
  | some value =>
    refine (run_bind (replaceFrom (m := Id) environment line comment? mention.stop rest) _).trans ?_
    cases (replaceFrom (m := Id) environment line comment? mention.stop rest).run.run <;> rfl

/-- The mentions of a list that do not start in the comment of a line. -/
def outsideComment (comment? : Option Nat) (mentions : List Mention) : List Mention :=
  mentions.filter fun mention => !comment?.any (· ≤ mention.start)

/-- A mention in a comment is not among those outside of comments. -/
theorem outsideComment_cons_of_comment (inComment : comment?.any (· ≤ mention.start) = true) :
    outsideComment comment? (mention :: rest) = outsideComment comment? rest := by
  simp [outsideComment, inComment]

/-- A mention that is not in a comment is among those outside of comments. -/
theorem outsideComment_cons_of_notComment
    (notComment : comment?.any (· ≤ mention.start) = false) :
    outsideComment comment? (mention :: rest) = mention :: outsideComment comment? rest := by
  simp [outsideComment, notComment]

/-- Where nothing is mentioned the text stays as it is. -/
theorem replaces_nil_iff : Replaces environment cursor text [] result ↔ text = result := by
  constructor
  · rintro ⟨⟩
    rfl
  · rintro rfl
    exact .done

/-- How a text is parted at a mention is known from where the mention starts. -/
theorem replaces_cons_iff {copied after : List Char}
    (stands : cursor + copied.length = mention.start) :
    Replaces environment cursor (copied ++ mention.text ++ after) (mention :: rest) result ↔
      ∃ value tail, environment mention.variableName = some value ∧
        Replaces environment mention.stop after rest tail ∧
        result = copied ++ value.toList ++ tail := by
  constructor
  · intro replaces
    generalize split : copied ++ mention.text ++ after = text at replaces
    cases replaces with
    | @step _ others otherAfter tail _ _ value otherStands isSet replaced =>
      have sameLength : copied.length = others.length := by omega
      rw [List.append_assoc, List.append_assoc] at split
      obtain ⟨rfl, sameRest⟩ := List.append_inj split sameLength
      obtain rfl := List.append_cancel_left sameRest
      exact ⟨value, tail, isSet, replaced, rfl⟩
  · rintro ⟨value, tail, isSet, replaced, rfl⟩
    exact .step stands isSet replaced

/-- A line from the cursor on is the text before a mention, the mention, and what is left behind
it. -/
theorem Mention.IsIn.drop_eq (isIn : mention.IsIn line) (past : cursor ≤ mention.start) :
    line.drop cursor =
        (line.drop cursor).take (mention.start - cursor) ++ mention.text ++ line.drop mention.stop ∧
      cursor + ((line.drop cursor).take (mention.start - cursor)).length = mention.start := by
  obtain ⟨before, after, rfl, length⟩ := isIn.stands
  have copiedLength : (before.drop cursor).length = mention.start - cursor := by
    rw [List.length_drop, length]
  have rest : (before ++ mention.text ++ after).drop mention.stop = after :=
    List.drop_left' (by rw [List.length_append, length, Mention.stop])
  have left : (before ++ mention.text ++ after).drop cursor =
      before.drop cursor ++ (mention.text ++ after) := by
    rw [List.append_assoc, List.drop_append_of_le_length (length ▸ past)]
  rw [rest, left, List.take_left' copiedLength, copiedLength, List.append_assoc]
  exact ⟨rfl, Nat.add_sub_cancel' past⟩

/-- What the scan leaves behind the cursor is what the mentions that are left are replaced in. -/
theorem run_replaceFrom_eq_ok_iff {position : Nat} (found : Found line position mentions)
    (passed : cursor ≤ position) :
    (replaceFrom (m := Id) environment line comment? cursor mentions).run.run = .ok result ↔
      Replaces environment cursor (line.drop cursor) (outsideComment comment? mentions) result := by
  induction found generalizing cursor result with
  | none noMore =>
    rw [outsideComment, List.filter_nil, replaces_nil_iff]
    change Except.ok (line.drop cursor) = .ok result ↔ _
    rw [Except.ok.injEq]
  | @next position first rest isIn past leftmost others ih =>
    cases inComment : comment?.any (· ≤ first.start) with
    | true =>
      -- The cursor stays, and what is passed over is copied with what comes next.
      have stillPassed : cursor ≤ first.stop := by
        rw [Mention.stop]
        omega
      rw [run_replaceFrom_of_comment inComment, outsideComment_cons_of_comment inComment,
        ih stillPassed]
    | false =>
      obtain ⟨split, stands⟩ := isIn.drop_eq (Nat.le_trans passed past)
      rw [run_replaceFrom_of_notComment inComment, outsideComment_cons_of_notComment inComment]
      generalize (line.drop cursor).take (first.start - cursor) = copied at split stands ⊢
      rw [split, replaces_cons_iff stands]
      cases environment first.variableName with
      | none => simp
      | some value =>
        simp only [map_eq_ok_iff, ih (Nat.le_refl _), Option.some.injEq, exists_and_left,
          exists_eq_left', eq_comm (a := result)]

/-- The first variable that is mentioned and not set. -/
def firstUnset (environment : String → Option String) (mentions : List Mention) : Option String :=
  (mentions.map Mention.variableName).find? fun name => (environment name).isNone

/-- The first mention without a value is the first unset one. -/
theorem firstUnset_cons_of_unset (unset : environment mention.variableName = none) :
    firstUnset environment (mention :: rest) = some mention.variableName := by
  rw [firstUnset, List.map_cons, List.find?_cons_of_pos (by simp [unset])]

/-- A mention with a value leaves the first unset one to those behind it. -/
theorem firstUnset_cons_of_set {value : String}
    (isSet : environment mention.variableName = some value) :
    firstUnset environment (mention :: rest) = firstUnset environment rest := by
  rw [firstUnset, List.map_cons, List.find?_cons_of_neg (by simp [isSet])]
  rfl

/-- Replacing fails over the first variable outside of comments that is not set. -/
theorem run_replaceFrom_eq_error_iff {name : String} :
    (replaceFrom (m := Id) environment line comment? cursor mentions).run.run = .error name ↔
      firstUnset environment (outsideComment comment? mentions) = some name := by
  induction mentions generalizing cursor with
  | nil => exact ⟨nofun, nofun⟩
  | cons first rest ih =>
    cases inComment : comment?.any (· ≤ first.start) with
    | true =>
      rw [run_replaceFrom_of_comment inComment, outsideComment_cons_of_comment inComment, ih]
    | false =>
      rw [run_replaceFrom_of_notComment inComment, outsideComment_cons_of_notComment inComment]
      cases isSet : environment first.variableName with
      | none => rw [firstUnset_cons_of_unset isSet, Except.error.injEq, Option.some.injEq]
      | some value => rw [map_eq_error_iff, ih, firstUnset_cons_of_set isSet]

end Replaces

section Expands

variable {environment : String → Option String} {line : List Char} {due mentions : List Mention}
  {cursor : Nat} {result : List Char} {name : String}

/-- The mentions of a line that are replaced: all that are found and start before its first hash sign.
Without such a sign, that is all that are found. -/
def Due (line : List Char) (due : List Mention) : Prop :=
  ∃ found, Found line 0 found ∧ due = found.filter fun mention => mention.start < line.idxOf '#'

/-- All mentions that are found stand in the line. -/
theorem Found.isIn (found : Found line cursor mentions) :
    ∀ mention ∈ mentions, mention.IsIn line := by
  induction found with
  | none => simp
  | next isIn _ _ _ ih => exact List.forall_mem_cons.2 ⟨isIn, ih⟩

/-- A mention begins inside of its line. -/
theorem Mention.IsIn.start_lt {mention : Mention} (isIn : mention.IsIn line) :
    mention.start < line.length := by
  obtain ⟨before, after, rfl, length⟩ := isIn.stands
  simp only [List.length_append, Mention.text, List.length_cons]
  omega

/-- Outside of comments are the mentions that begin before the hash sign. -/
theorem outsideComment_eq_filter (found : Found line cursor mentions) :
    outsideComment (line.idxOf? '#') mentions =
      mentions.filter fun mention => mention.start < line.idxOf '#' := by
  refine List.filter_congr fun mention member => ?_
  have inside := (found.isIn mention member).start_lt
  rw [List.idxOf_eq_getD_idxOf?]
  cases line.idxOf? '#' with
  | none => simpa using inside
  | some place =>
    change (!decide (place ≤ mention.start)) = decide (mention.start < place)
    rw [← decide_not, decide_eq_decide, Nat.not_le]

/-- The mentions of a line that the scan finds and does not pass over. -/
def dueIn (line : List Char) : List Mention :=
  outsideComment (line.idxOf? '#') (mentionsFrom 0 line)

/-- The mentions due in a line are those found before its hash sign. -/
theorem due_iff : Due line due ↔ due = dueIn line := by
  have found : Found line 0 (mentionsFrom 0 line) := found_mentionsFrom 0 line [] rfl
  rw [dueIn, outsideComment_eq_filter found]
  constructor
  · rintro ⟨others, othersFound, rfl⟩
    rw [found.unique othersFound]
  · rintro rfl
    exact ⟨_, found, rfl⟩

/-- A line expands to a text exactly if the mentions due in it are replaced by their values. -/
theorem run_expandLine_eq_ok_iff :
    (expandLine (m := Id) environment line).run.run = .ok result ↔
      Replaces environment 0 line (dueIn line) result :=
  run_replaceFrom_eq_ok_iff (found_mentionsFrom 0 line [] rfl) (Nat.le_refl 0)

/-- Expanding a line fails over the first variable due that is not set. -/
theorem run_expandLine_eq_error_iff :
    (expandLine (m := Id) environment line).run.run = .error name ↔
      firstUnset environment (dueIn line) = some name :=
  run_replaceFrom_eq_error_iff

/-- The first unset mention is in the first list, or else in the second. -/
theorem firstUnset_append (first second : List Mention) :
    firstUnset environment (first ++ second) =
      (firstUnset environment first).or (firstUnset environment second) := by
  rw [firstUnset, List.map_append, List.find?_append]
  rfl

/-- Expanding lines fails over the first variable due in any of them that is not set. -/
theorem mapM_expandLine_eq_error_iff {lines : List (List Char)} :
    (lines.mapM fun line => (expandLine (m := Id) environment line).run.run) = .error name ↔
      firstUnset environment (lines.flatMap dueIn) = some name := by
  induction lines with
  | nil => exact ⟨nofun, nofun⟩
  | cons line rest ih =>
    rw [List.mapM_cons, List.flatMap_cons, firstUnset_append]
    cases expanded : (expandLine (m := Id) environment line).run.run with
    | error first =>
      rw [run_expandLine_eq_error_iff.1 expanded]
      simp [eq_comm]
    | ok result =>
      have allSet : firstUnset environment (dueIn line) = none := by
        cases unset : firstUnset environment (dueIn line) with
        | none => rfl
        | some name => cases expanded.symm.trans (run_expandLine_eq_error_iff.2 unset)
      rw [allSet, Option.none_or, ← ih, ok_bind, bind_eq_error_iff]
      simp

/-- What becomes of a text: a text in which the due mentions of every line are replaced, each end of
a line is a line feed, and the last line is ended if it was; or an error for the first variable with a
due mention that is not set. -/
inductive Expands (environment : String → Option String) (text : List Char) :
    Except LoadError String → Prop
  | replaced {lines results : List (List Char)} (areLines : IsLines text lines)
      (each : List.Forall₂ (fun line result =>
        ∃ due, Due line due ∧ Replaces environment 0 line due result) lines results) :
      Expands environment text
        (.ok (String.ofList (['\n'].intercalate results ++
          if text.getLast? = some '\n' then ['\n'] else [])))
  | unset {lines : List (List Char)} {dues : List (List Mention)} {name : String}
      (areLines : IsLines text lines) (each : List.Forall₂ Due lines dues)
      (isFirst : firstUnset environment dues.flatten = some name) :
      Expands environment text (.error (.unsetVariable name))

/-- Lines that each end in a line feed are the lines with line feeds between them, and one more. -/
theorem flatMap_feed {results : List (List Char)} (notNil : results ≠ []) :
    results.flatMap (· ++ ['\n']) = ['\n'].intercalate results ++ ['\n'] := by
  induction results with
  | nil => exact absurd rfl notNil
  | cons first rest ih =>
    cases rest with
    | nil => simp [List.intercalate]
    | cons second others =>
      rw [List.flatMap_cons, ih (List.cons_ne_nil _ _)]
      simp [List.intercalate]

/-- The end of a line that the last one did not have is taken away again. -/
theorem together_eq {text : List Char} {lines results : List (List Char)}
    (areLines : IsLines text lines) (sameLength : lines.length = results.length) :
    together text results =
      ['\n'].intercalate results ++ if text.getLast? = some '\n' then ['\n'] else [] := by
  by_cases isNil : results = []
  · have textNil : text = [] := by
      cases areLines <;> simp_all
    simp [together, isNil, textNil, List.intercalate]
  · rw [together, flatMap_feed isNil, List.getLast?_concat, List.dropLast_concat]
    by_cases isEnded : text.getLast? = some '\n' <;> simp [isEnded]

/-- A text is expanded line by line, and the results are put together again. -/
theorem run_expand (text : String) :
    (expand (m := Id) environment text).run.run =
      ((lines text.toList).mapM fun line => (expandLine (m := Id) environment line).run.run).map
        fun results => String.ofList (together text.toList results) := by
  rw [expand, run_bind, run_mapM]
  cases (lines text.toList).mapM fun line => (expandLine (m := Id) environment line).run.run <;> rfl

/-- Lines expand exactly if each of them does. -/
theorem mapM_expandLine_eq_ok_iff {lines results : List (List Char)} :
    (lines.mapM fun line => (expandLine (m := Id) environment line).run.run) = .ok results ↔
      List.Forall₂ (fun line result =>
        ∃ due, Due line due ∧ Replaces environment 0 line due result) lines results := by
  simp only [mapM_eq_ok_iff, run_expandLine_eq_ok_iff, due_iff, exists_eq_left]

/-- What is due in lines is told by the lines. -/
theorem forall₂_due_iff {lines : List (List Char)} {dues : List (List Mention)} :
    List.Forall₂ Due lines dues ↔ dues = lines.map dueIn := by
  induction lines generalizing dues with
  | nil => exact List.forall₂_nil_left_iff
  | cons line rest ih => simp [List.forall₂_cons_left_iff, due_iff, ih]

/-- A text expands to one outcome only: what the cursor leaves when it has moved over the mentions of
every line once. -/
theorem expand_eq_iff (environment : String → Option String) (text : String)
    (outcome : Except LoadError String) :
    ((expand (m := Id) environment text).adapt LoadError.unsetVariable).run.run = outcome ↔
      Expands environment text.toList outcome := by
  rw [run_adapt, run_expand]
  constructor
  · rintro rfl
    have areLines : IsLines text.toList (lines text.toList) := isLines_lines _
    cases expanded : (lines text.toList).mapM fun line =>
        (expandLine (m := Id) environment line).run.run with
    | error name =>
      refine .unset areLines (forall₂_due_iff.2 rfl) ?_
      exact mapM_expandLine_eq_error_iff.1 expanded
    | ok results =>
      have each := mapM_expandLine_eq_ok_iff.1 expanded
      have outcome := Expands.replaced areLines each
      rwa [← together_eq areLines each.length_eq] at outcome
  · rintro (⟨areLines, each⟩ | ⟨areLines, each, isFirst⟩)
    · rw [isLines_iff.1 areLines, mapM_expandLine_eq_ok_iff.2 each,
        ← together_eq areLines each.length_eq]
      rfl
    · rw [forall₂_due_iff.1 each] at isFirst
      rw [isLines_iff.1 areLines, mapM_expandLine_eq_error_iff.2 isFirst]
      rfl

/-- A value may end a line where the text does not: the line feed in it stays. -/
theorem feedInValue_stays :
    (expand (m := Id) (fun name => if name = "V" then some "a\n" else none) "$\x7bV\x7d").run.run =
        .ok "a\n" ∧
      "$\x7bV\x7d".toList.getLast? ≠ some '\n' ∧ "a\n".toList.getLast? = some '\n' := by
  refine ⟨?_, by decide, by decide⟩
  cbv

/-- A value is not looked at again, and neither is what follows the hash sign. -/
example :
    (expand (m := Id) (fun name => if name = "A" then some "$\x7bB\x7d" else none)
      "$\x7bA\x7d # $\x7bC\x7d\r\n").run.run = .ok "$\x7bB\x7d # $\x7bC\x7d\n" := by
  cbv

end Expands

end AttributeRelease.Expansion
