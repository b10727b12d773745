import AttributeRelease.Proofs.Config.Expansion
import AttributeRelease.Proofs.Tree.Toml

/-!
# What becomes of a setting

A text in a line expands as it does on its own, if what stands before it has no part of a mention and
no hash sign in it, and what stands behind it cannot end a mention (`run_expandLine_within`). So in a
setting it is the text between the quotes that expands. To the expansion, however, a hash sign in this
text begins a comment, which it does not where the setting is read.
-/

namespace AttributeRelease.Expansion

open Outcome

section Within

variable {environment : String → Option String} {before content after result : List Char}
  {mention : Mention} {mentions due : List Mention} {cursor position count : Nat}

/-- A symbol that is not in the first part of a list is in the second. -/
theorem exists_right_of_notMem {left right first last : List Char} {c : Char} (notMem : c ∉ left)
    (split : left ++ right = first ++ c :: last) :
    ∃ others, first = left ++ others ∧ right = others ++ c :: last := by
  rcases List.append_eq_append_iff.1 split with ⟨others, rfl, same⟩ | ⟨others, rfl, same⟩
  · exact ⟨others, rfl, same⟩
  · rcases List.cons_eq_append_iff.1 same with ⟨rfl, rfl⟩ | ⟨_, rfl, _⟩
    · exact ⟨[], by simp, rfl⟩
    · simp at notMem

/-- A symbol that is not in the second part of a list is in the first. -/
theorem exists_left_of_notMem {left right first last : List Char} {c : Char} (notMem : c ∉ right)
    (split : left ++ right = first ++ c :: last) :
    ∃ others, left = first ++ c :: others ∧ last = others ++ right := by
  rcases List.append_eq_append_iff.1 split with ⟨others, rfl, rfl⟩ | ⟨others, rfl, same⟩
  · simp at notMem
  · rcases List.cons_eq_append_iff.1 same with ⟨rfl, rfl⟩ | ⟨others, rfl, rfl⟩
    · simp at notMem
    · exact ⟨others, rfl, rfl⟩

namespace Mention

/-- A mention in a line that has more characters before it. -/
def shift (count : Nat) (mention : Mention) : Mention := ⟨count + mention.start, mention.name⟩

/-- A mention that is moved stops as much further behind. -/
theorem stop_shift : (mention.shift count).stop = count + mention.stop :=
  Nat.add_assoc count mention.start mention.text.length

/-- The mentions in a line that has a text in it are those of the text. -/
theorem isIn_within_iff (noDollar : '$' ∉ before) (noBrace : '\x7d' ∉ after) :
    mention.IsIn (before ++ content ++ after) ↔
      ∃ inner : Mention, inner.IsIn content ∧ mention = inner.shift before.length := by
  constructor
  · rintro ⟨named, nameHasNoBrace, outerBefore, outerAfter, split, length⟩
    rw [List.append_assoc, List.append_assoc, text, List.cons_append] at split
    obtain ⟨innerBefore, rfl, inside⟩ := exists_right_of_notMem noDollar split
    -- If a part of the mention were behind the text, the brace at its end would be.
    have ends : content ++ after =
        (innerBefore ++ '$' :: '\x7b' :: mention.name) ++ '\x7d' :: outerAfter := by
      simpa using inside
    obtain ⟨innerAfter, rfl, -⟩ := exists_left_of_notMem noBrace ends
    refine ⟨⟨innerBefore.length, mention.name⟩,
      ⟨named, nameHasNoBrace, innerBefore, innerAfter, by simp [text], rfl⟩, Mention.ext ?_ rfl⟩
    rw [← length, List.length_append, shift]
  · rintro ⟨inner, ⟨named, nameHasNoBrace, innerBefore, innerAfter, rfl, length⟩, rfl⟩
    refine ⟨named, nameHasNoBrace, before ++ innerBefore, innerAfter ++ after, ?_, ?_⟩
    · simp [text, shift]
    · rw [List.length_append, length, shift]

end Mention

/-- The search in a line finds what the search in the text finds. -/
theorem Found.within (noDollar : '$' ∉ before) (noBrace : '\x7d' ∉ after)
    (found : Found content cursor mentions) :
    Found (before ++ content ++ after) (before.length + cursor)
      (mentions.map (Mention.shift before.length)) := by
  induction found with
  | none noMore =>
    refine .none fun mention isIn => ?_
    obtain ⟨inner, innerIsIn, rfl⟩ := (Mention.isIn_within_iff noDollar noBrace).1 isIn
    exact Nat.add_lt_add_left (noMore inner innerIsIn) _
  | @next cursor first rest isIn past leftmost _ ih =>
    refine .next ((Mention.isIn_within_iff noDollar noBrace).2 ⟨first, isIn, rfl⟩)
      (Nat.add_le_add_left past _) ?_ (Mention.stop_shift ▸ ih)
    intro mention mentionIsIn mentionPast
    obtain ⟨inner, innerIsIn, rfl⟩ := (Mention.isIn_within_iff noDollar noBrace).1 mentionIsIn
    exact Nat.add_le_add_left (leftmost inner innerIsIn (Nat.le_of_add_le_add_left mentionPast)) _

/-- A position is before the first hash sign of the whole line exactly if it is so in the text
within. -/
theorem start_lt_idxOf_within {start : Nat} (noHash : '#' ∉ before)
    (inside : start < content.length) :
    before.length + start < (before ++ content ++ after).idxOf '#' ↔ start < content.idxOf '#' := by
  rw [List.append_assoc, List.idxOf_append_of_notMem noHash]
  by_cases hasHash : '#' ∈ content
  · rw [List.idxOf_append_of_mem hasHash]
    omega
  · rw [List.idxOf_append_of_notMem hasHash, List.idxOf_eq_length hasHash]
    omega

/-- What is due in a text is due in the line around it, if no mention can begin before it or end
behind it. -/
theorem due_within (noDollar : '$' ∉ before) (noHash : '#' ∉ before) (noBrace : '\x7d' ∉ after)
    (isDue : Due content due) :
    Due (before ++ content ++ after) (due.map (Mention.shift before.length)) := by
  obtain ⟨mentions, found, rfl⟩ := isDue
  have inLine := found.within noDollar noBrace
  have noneBefore (mention : Mention) (isIn : mention.IsIn (before ++ content ++ after)) :
      before.length ≤ mention.start := by
    obtain ⟨inner, _, rfl⟩ := (Mention.isIn_within_iff noDollar noBrace).1 isIn
    exact Nat.le_add_right _ _
  have fromStart := inLine.of_le (Nat.zero_le _) fun mention isIn _ => noneBefore mention isIn
  refine ⟨_, fromStart, ?_⟩
  rw [List.filter_map]
  refine congrArg _ (List.filter_congr fun mention member => ?_)
  have inside := (found.isIn mention member).start_lt
  exact decide_eq_decide.2 (start_lt_idxOf_within noHash inside).symm

/-- Mentions are replaced alike in a text and in a line that has it within. -/
theorem Replaces.within (replaces : Replaces environment position content mentions result) :
    Replaces environment (before.length + position) (content ++ after)
      (mentions.map (Mention.shift before.length)) (result ++ after) := by
  induction replaces with
  | done => exact .done
  | @step position copied rest result mention _ value stands isSet _ ih =>
    have shifted : before.length + position + copied.length =
        (mention.shift before.length).start := by
      rw [Nat.add_assoc, stands, Mention.shift]
    rw [List.append_assoc _ rest, List.append_assoc _ result]
    exact .step shifted isSet (Mention.stop_shift ▸ ih)

/-- What stands before the text is copied. -/
theorem Replaces.copy
    (replaces : Replaces environment before.length content mentions result) :
    Replaces environment 0 (before ++ content) mentions (before ++ result) := by
  cases replaces with
  | done => exact .done
  | step stands isSet others =>
    rw [← List.append_assoc, ← List.append_assoc, ← List.append_assoc, ← List.append_assoc]
    exact .step (by simpa using stands) isSet others

/-- Which variable is the first unset one does not depend on where its mention stands. -/
theorem firstUnset_shift :
    firstUnset environment (mentions.map (Mention.shift count)) =
      firstUnset environment mentions := by
  rw [firstUnset, List.map_map]
  rfl

/-- A line expands as the text in it does, between what stands around it. -/
theorem run_expandLine_within (noDollar : '$' ∉ before) (noHash : '#' ∉ before)
    (noBrace : '\x7d' ∉ after) :
    (expandLine (m := Id) environment (before ++ content ++ after)).run.run =
      (expandLine (m := Id) environment content).run.run.map (before ++ · ++ after) := by
  have sameDue : dueIn (before ++ content ++ after) =
      (dueIn content).map (Mention.shift before.length) :=
    (due_iff.1 (due_within noDollar noHash noBrace (due_iff.2 rfl))).symm
  cases expanded : (expandLine (m := Id) environment content).run.run with
  | ok result =>
    have replaces := run_expandLine_eq_ok_iff.1 expanded
    rw [Except.map, run_expandLine_eq_ok_iff, sameDue, List.append_assoc, List.append_assoc]
    exact .copy replaces.within
  | error name =>
    rw [Except.map, run_expandLine_eq_error_iff, sameDue, firstUnset_shift]
    exact run_expandLine_eq_error_iff.1 expanded

/-- A text of one line without an end expands as the line. -/
theorem run_expand_of_noFeed {line : List Char} (notNil : line ≠ []) (noFeed : '\n' ∉ line) :
    (expand (m := Id) environment (String.ofList line)).run.run =
      (expandLine (m := Id) environment line).run.run.map String.ofList := by
  have notEnded : line.getLast? ≠ some '\n' := fun ends => noFeed (List.mem_of_getLast? ends)
  rw [run_expand, String.toList_ofList, lines_of_noFeed notNil noFeed, List.mapM_cons, List.mapM_nil]
  cases (expandLine (m := Id) environment line).run.run with
  | error name => rfl
  | ok result =>
    have same : together line [result] = result := by
      have sameLength : [line].length = [result].length := rfl
      rw [together_eq (.last notNil noFeed) sameLength, if_neg notEnded]
      simp
    exact congrArg (fun text => Except.ok (String.ofList text)) same

end Within

section Length

variable {text result : List Char} {mentions : List Mention} {position : Nat}

/-- How many characters mentions have together. -/
def lengthOf (mentions : List Mention) : Nat := (mentions.flatMap Mention.text).length

/-- A mention more is as many characters more as it has. -/
theorem lengthOf_cons (mention : Mention) (rest : List Mention) :
    lengthOf (mention :: rest) = mention.text.length + lengthOf rest := by
  rw [lengthOf, List.flatMap_cons, List.length_append, lengthOf]

/-- Only no mentions have no characters. -/
theorem lengthOf_eq_zero_iff : lengthOf mentions = 0 ↔ mentions = [] := by
  cases mentions with
  | nil => exact ⟨fun _ => rfl, fun _ => rfl⟩
  | cons first rest =>
    have positive : 0 < first.text.length := Nat.succ_pos _
    rw [lengthOf_cons]
    simp only [reduceCtorEq, iff_false]
    omega

/-- The mentions that pass a test and those that do not have all characters together. -/
theorem lengthOf_filter_add (p : Mention → Bool) (mentions : List Mention) :
    lengthOf (mentions.filter p) + lengthOf (mentions.filter fun mention => !p mention) =
      lengthOf mentions := by
  induction mentions with
  | nil => rfl
  | cons first rest ih =>
    cases passes : p first <;> simp [passes, lengthOf_cons] <;> omega

/-- If every variable is empty, a text becomes shorter by what is replaced in it. -/
theorem length_add_lengthOf
    (replaces : Replaces (fun _ => some "") position text mentions result) :
    result.length + lengthOf mentions = text.length := by
  induction replaces with
  | done => rfl
  | step stands isSet _ ih =>
    cases isSet
    simp only [lengthOf_cons, List.length_append, String.toList_empty, List.length_nil]
    omega

end Length

end AttributeRelease.Expansion

namespace AttributeRelease.Toml.Setting

open Expansion Outcome

variable {environment : String → Option String} {setting : Setting} {mentions : List Mention}
  {outcome : Except LoadError String}

/-- What the expansion makes of the line. -/
def expanded (setting : Setting) (environment : String → Option String) : Except LoadError String :=
  ((expand (m := Id) environment (String.ofList setting.line)).adapt LoadError.unsetVariable).run.run

/-- What becomes of a setting if certain mentions in its text are looked up: the line with values in
their place, or an error for the first variable that is not set. -/
inductive Expands (setting : Setting) (environment : String → Option String)
    (mentions : List Mention) : Except LoadError String → Prop
  | replaced {content : List Char}
      (replaces : Replaces environment 0 setting.content mentions content) :
      Expands setting environment mentions (.ok (String.ofList (setting.lineWith content)))
  | unset {name : String} (isFirst : firstUnset environment mentions = some name) :
      Expands setting environment mentions (.error (.unsetVariable name))

/-- What is neither part of a bare key nor of what follows the key does not stand in the opening of
a setting. -/
theorem notMem_opening (setting : Setting) {c : Char} (notBare : isBare c = false)
    (notBehind : c ∉ [' ', '=', ' ', '"']) : c ∉ setting.opening := by
  rw [opening, List.mem_append, not_or]
  exact ⟨fun member => ne_of_isBare (setting.bare c member) notBare rfl, notBehind⟩

/-- A setting stands in one line. -/
theorem feed_notMem_line (setting : Setting) : '\n' ∉ setting.line := by
  have notInContent : '\n' ∉ setting.content := fun member => by
    have isUnescaped := setting.unescaped _ member
    revert isUnescaped
    decide
  have notInOpening := setting.notMem_opening (c := '\n') rfl (by decide)
  simp [line, lineWith, notInOpening, notInContent]

/-- A setting is expanded by expanding its text. -/
theorem expanded_eq (setting : Setting) (environment : String → Option String) :
    setting.expanded environment =
      ((expandLine (m := Id) environment setting.content).run.run.map
        fun content => String.ofList (setting.lineWith content)).mapError .unsetVariable := by
  have notNil : setting.line ≠ [] := by simp [line, lineWith]
  rw [expanded, run_adapt, run_expand_of_noFeed notNil setting.feed_notMem_line, line, lineWith,
    run_expandLine_within (setting.notMem_opening rfl (by decide))
      (setting.notMem_opening rfl (by decide)) (by decide)]
  cases (expandLine (m := Id) environment setting.content).run.run <;> rfl

/-- What is made of a setting is what becomes of it if the mentions due in its text are looked
up. -/
theorem expanded_eq_iff_expands_dueIn :
    setting.expanded environment = outcome ↔
      setting.Expands environment (dueIn setting.content) outcome := by
  rw [expanded_eq]
  constructor
  · rintro rfl
    cases expanded : (expandLine (m := Id) environment setting.content).run.run with
    | ok content => exact .replaced (run_expandLine_eq_ok_iff.1 expanded)
    | error name => exact .unset (run_expandLine_eq_error_iff.1 expanded)
  · rintro (replaces | isFirst)
    · rw [run_expandLine_eq_ok_iff.2 replaces]
      rfl
    · rw [run_expandLine_eq_error_iff.2 isFirst]
      rfl

/-- The line of a setting tells its text. -/
theorem lineWith_injective (setting : Setting) : Function.Injective setting.lineWith := by
  intro content other same
  exact List.append_cancel_left (List.append_cancel_right same)

/-- A setting that becomes a line with another text has that text for the mentions replaced. -/
theorem replaces_of_expands {content : List Char}
    (expands : setting.Expands environment mentions
      (.ok (String.ofList (setting.lineWith content)))) :
    Replaces environment 0 setting.content mentions content := by
  generalize isOutcome : Except.ok (String.ofList (setting.lineWith content)) = outcome at expands
  cases expands with
  | replaced replaces =>
    have sameLine := String.ofList_injective (Except.ok.inj isOutcome)
    rwa [setting.lineWith_injective sameLine]
  | unset isFirst => cases isOutcome

/-- The mentions that start before the first hash sign in the text of a setting. -/
def beforeHash (setting : Setting) (mentions : List Mention) : List Mention :=
  mentions.filter fun mention => mention.start < setting.content.idxOf '#'

/-- A mention that is not replaced shows when every variable is empty: the line is too long. -/
theorem forall_before_hash
    (expands : setting.Expands (fun _ => some "") mentions outcome)
    (expandsBefore : setting.Expands (fun _ => some "") (setting.beforeHash mentions) outcome) :
    ∀ mention ∈ mentions, mention.start < setting.content.idxOf '#' := by
  cases expandsBefore with
  | unset isFirst => cases List.find?_some isFirst
  | replaced replacesBefore =>
    have length := length_add_lengthOf (replaces_of_expands expands)
    have lengthBefore := length_add_lengthOf replacesBefore
    have parted := lengthOf_filter_add
      (fun mention => mention.start < setting.content.idxOf '#') mentions
    rw [beforeHash] at lengthBefore
    have noneLeft : (mentions.filter fun mention =>
        !decide (mention.start < setting.content.idxOf '#')) = [] :=
      lengthOf_eq_zero_iff.1 (by omega)
    simpa using noneLeft

/-- The mentions in the text of a setting are replaced as far as its first hash sign, although this
sign belongs to the text where the setting is read. So all of them are replaced, for all variables, in
those settings that have none after that sign, and only in those. -/
theorem expanded_eq_iff (setting : Setting) {mentions : List Mention}
    (found : Found setting.content 0 mentions) :
    read? (String.ofList setting.line) =
        some (.table [(String.ofList setting.key, .text (String.ofList setting.content))]) ∧
      (∀ environment outcome, setting.expanded environment = outcome ↔
        setting.Expands environment (setting.beforeHash mentions) outcome) ∧
      ((∀ environment outcome, setting.expanded environment = outcome ↔
          setting.Expands environment mentions outcome) ↔
        ∀ mention ∈ mentions, mention.start < setting.content.idxOf '#') := by
  have untilHash (environment : String → Option String) (outcome : Except LoadError String) :
      setting.expanded environment = outcome ↔
        setting.Expands environment (setting.beforeHash mentions) outcome := by
    have isDue : setting.beforeHash mentions = dueIn setting.content :=
      due_iff.1 ⟨mentions, found, rfl⟩
    rw [isDue]
    exact expanded_eq_iff_expands_dueIn
  refine ⟨setting.read?_line, untilHash, fun replacesAll => ?_, fun allBefore => ?_⟩
  · exact forall_before_hash ((replacesAll _ _).1 rfl) ((untilHash _ _).1 rfl)
  · have all : setting.beforeHash mentions = mentions :=
      List.filter_eq_self.2 (by simpa using allBefore)
    rwa [all] at untilHash

/-- A fragment that does not vary, behind a host that does. -/
def metadataOfHost : Setting where
  key := "id".toList
  content := "https://$\x7bHOST\x7d/sp#metadata".toList
  named := by decide
  bare := List.all_eq_true.1 rfl
  unescaped := List.all_eq_true.1 rfl

def onCampus (name : String) : Option String :=
  if name = "HOST" then some "idp.example.org" else if name = "SITE" then some "campus" else none

/-- The host is looked up, and the fragment behind it stays. -/
theorem metadataOfHost_expanded :
    Found metadataOfHost.content 0 [⟨8, "HOST".toList⟩] ∧
      metadataOfHost.expanded onCampus = .ok "id = \"https://idp.example.org/sp#metadata\"" := by
  have scanned : mentionsFrom 0 metadataOfHost.content = [⟨8, "HOST".toList⟩] := by cbv
  have found : Found metadataOfHost.content 0 [⟨8, "HOST".toList⟩] :=
    scanned ▸ found_mentionsFrom 0 metadataOfHost.content [] rfl
  have parts : metadataOfHost.content =
      "https://".toList ++ (Mention.mk 8 "HOST".toList).text ++ "/sp#metadata".toList := by decide
  have replaces : Replaces onCampus 0 metadataOfHost.content [⟨8, "HOST".toList⟩]
      "https://idp.example.org/sp#metadata".toList := by
    rw [parts]
    exact (replaces_cons_iff (by decide)).2 ⟨"idp.example.org", _, by decide, .done, by decide⟩
  have beforeHash : ∀ mention ∈ [Mention.mk 8 "HOST".toList],
      mention.start < metadataOfHost.content.idxOf '#' := by decide
  exact ⟨found, ((expanded_eq_iff metadataOfHost found).2.2.2 beforeHash _ _).2
    (.replaced replaces)⟩

/-- A fragment that varies. -/
def fragmentOfSite : Setting where
  key := "id".toList
  content := "urn:sp#$\x7bSITE\x7d".toList
  named := by decide
  bare := List.all_eq_true.1 rfl
  unescaped := List.all_eq_true.1 rfl

/-- The site stays as it is mentioned, although it is set. -/
theorem fragmentOfSite_not_expanded :
    Found fragmentOfSite.content 0 [⟨7, "SITE".toList⟩] ∧
      fragmentOfSite.Expands onCampus [⟨7, "SITE".toList⟩] (.ok "id = \"urn:sp#campus\"") ∧
      fragmentOfSite.expanded onCampus = .ok "id = \"urn:sp#$\x7bSITE\x7d\"" ∧
      ¬ fragmentOfSite.Expands onCampus [⟨7, "SITE".toList⟩]
        (fragmentOfSite.expanded onCampus) := by
  have scanned : mentionsFrom 0 fragmentOfSite.content = [⟨7, "SITE".toList⟩] := by cbv
  have parts : fragmentOfSite.content =
      "urn:sp#".toList ++ (Mention.mk 7 "SITE".toList).text ++ [] := by decide
  have replaces_iff (result : List Char) :
      Replaces onCampus 0 fragmentOfSite.content [⟨7, "SITE".toList⟩] result ↔
        result = "urn:sp#campus".toList := by
    rw [parts, replaces_cons_iff (by decide)]
    constructor
    · rintro ⟨value, tail, isSet, nothingLeft, rfl⟩
      obtain rfl := replaces_nil_iff.1 nothingLeft
      cases isSet
      decide
    · rintro rfl
      exact ⟨"campus", [], by decide, .done, by decide⟩
  have noneDue : dueIn fragmentOfSite.content = [] := by
    rw [dueIn, scanned]
    decide
  have unchanged : fragmentOfSite.expanded onCampus = .ok (String.ofList fragmentOfSite.line) :=
    expanded_eq_iff_expands_dueIn.2 (noneDue ▸ .replaced .done)
  refine ⟨scanned ▸ found_mentionsFrom 0 fragmentOfSite.content [] rfl,
    .replaced ((replaces_iff _).2 rfl), unchanged, fun expands => ?_⟩
  rw [unchanged] at expands
  have replaced := (replaces_iff _).1 (replaces_of_expands expands)
  revert replaced
  decide

end AttributeRelease.Toml.Setting
