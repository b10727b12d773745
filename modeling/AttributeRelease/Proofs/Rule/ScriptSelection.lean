import AttributeRelease.Proofs.Outcome
import AttributeRelease.Rule.Evaluation

/-!
# Values that scripts select

A script sees values in their text forms and gives back a list of texts. Several values can have one
text form, so a text stands for all values that have it. `Matcher.select_script` says what comes of
the list: the values whose forms are listed, if every listed text is the form of a value, and an error
that names the first other text if not. A script that keeps to the texts it was given cannot fail in
this way.
-/

namespace AttributeRelease

open Outcome

/-- The texts of an attribute are the forms of its values. -/
theorem Attribute.mem_valueTexts {resolved : Attribute} {text : String} :
    text ∈ resolved.valueTexts ↔ ∃ value ∈ resolved.values, value.textForm = text := List.mem_map

namespace Script

variable {resolved : Attribute} {found : ValueSet} {text : String} {texts : List String}

/-- A text that is the form of no value is an error. -/
theorem valuesOfTexts_cons_of_foreign (foreign : text ∉ resolved.valueTexts) :
    valuesOfTexts resolved found (text :: texts) = .error (foreignText resolved text) := by
  have noneMeant : (resolved.values.filter fun value => value.textForm == text) = [] := by
    refine List.filter_eq_nil_iff.2 fun value member same => ?_
    exact foreign (Attribute.mem_valueTexts.2 ⟨value, member, eq_of_beq same⟩)
  rw [valuesOfTexts, noneMeant]
  rfl

/-- A text that is the form of values adds all of them. -/
theorem exists_valuesOfTexts_cons (known : text ∈ resolved.valueTexts) (found : ValueSet)
    (texts : List String) :
    ∃ more, valuesOfTexts resolved found (text :: texts) = valuesOfTexts resolved more texts ∧
      ∀ value, value ∈ more ↔
        value ∈ found ∨ value ∈ resolved.values ∧ value.textForm = text := by
  obtain ⟨value, member, isForm⟩ := Attribute.mem_valueTexts.1 known
  have someMeant : (resolved.values.filter fun value => value.textForm == text).isEmpty = false := by
    refine List.isEmpty_eq_false_iff_exists_mem.2 ⟨value, ?_⟩
    exact List.mem_filter.2 ⟨member, beq_iff_eq.2 isForm⟩
  refine ⟨(resolved.values.filter fun value => value.textForm == text).foldl .insert found, ?_,
    fun value => ?_⟩
  · rw [valuesOfTexts, someMeant]
    rfl
  · rw [ValueSet.mem_foldl_insert, List.mem_filter, beq_iff_eq]

/-- Listed texts give the values that have them as their forms, if all of them are forms. -/
theorem valuesOfTexts_eq_ok_iff {values : ValueSet} :
    valuesOfTexts resolved found texts = .ok values ↔
      (∀ text ∈ texts, text ∈ resolved.valueTexts) ∧
        ∀ value, value ∈ values ↔
          value ∈ found ∨ value ∈ resolved.values ∧ value.textForm ∈ texts := by
  induction texts generalizing found with
  | nil =>
    rw [valuesOfTexts, Except.ok.injEq, ValueSet.ext_mem_iff]
    simp [iff_comm]
  | cons text rest ih =>
    by_cases known : text ∈ resolved.valueTexts
    · obtain ⟨more, same, mem_more⟩ := exists_valuesOfTexts_cons known found rest
      rw [same, ih, List.forall_mem_cons, and_iff_right known]
      refine and_congr_right fun _ => forall_congr' fun value => ?_
      rw [mem_more, or_assoc, ← and_or_left, List.mem_cons]
    · rw [valuesOfTexts_cons_of_foreign known]
      exact iff_of_false nofun fun ⟨allKnown, _⟩ => known (allKnown text List.mem_cons_self)

/-- Listed texts fail with the first of them that is no form of a value. -/
theorem valuesOfTexts_eq_error_iff {e : ScriptError} :
    valuesOfTexts resolved found texts = .error e ↔
      ∃ before text after, texts = before ++ text :: after ∧
        (∀ earlier ∈ before, earlier ∈ resolved.valueTexts) ∧ text ∉ resolved.valueTexts ∧
        foreignText resolved text = e := by
  induction texts generalizing found with
  | nil => simp [valuesOfTexts]
  | cons text rest ih =>
    by_cases known : text ∈ resolved.valueTexts
    · obtain ⟨more, same, _⟩ := exists_valuesOfTexts_cons known found rest
      rw [same, ih]
      constructor
      · rintro ⟨before, first, after, rfl, allKnown, foreign, named⟩
        exact ⟨text :: before, first, after, rfl, List.forall_mem_cons.2 ⟨known, allKnown⟩,
          foreign, named⟩
      · rintro ⟨before, first, after, split, allKnown, foreign, named⟩
        cases before with
        | nil =>
          cases split
          exact absurd known foreign
        | cons _ before =>
          cases split
          exact ⟨before, first, after, rfl, (List.forall_mem_cons.1 allKnown).2, foreign, named⟩
    · rw [valuesOfTexts_cons_of_foreign known, Except.error.injEq]
      constructor
      · intro named
        exact ⟨[], text, rest, rfl, by simp, known, named⟩
      · rintro ⟨before, first, after, split, allKnown, foreign, named⟩
        cases before with
        | nil =>
          cases split
          exact named
        | cons _ before =>
          cases split
          exact absurd (allKnown text List.mem_cons_self) known

variable {script : Script} {request : Request}

/-- A script that gives texts selects the values of these. -/
theorem select_of_strings (ran : script.run (.ofAttribute request resolved) = .ok (.strings texts)) :
    script.select request resolved = (valuesOfTexts resolved ∅ texts).map .matched := by
  rw [select, ran]

/-- A script selects values if it gives a list of texts each of which is the form of a value. -/
theorem select_eq_ok_iff {selection : Selection} :
    script.select request resolved = .ok selection ↔
      ∃ texts values, script.run (.ofAttribute request resolved) = .ok (.strings texts) ∧
        (∀ text ∈ texts, text ∈ resolved.valueTexts) ∧
        (∀ value, value ∈ values ↔ value ∈ resolved.values ∧ value.textForm ∈ texts) ∧
        .matched values = selection := by
  constructor
  · intro selected
    cases ran : script.run (.ofAttribute request resolved) with
    | error e => simp [select, ran] at selected
    | ok result =>
      cases result with
      | strings texts =>
        rw [select_of_strings ran, map_eq_ok_iff] at selected
        obtain ⟨values, given, same⟩ := selected
        obtain ⟨allKnown, mem_values⟩ := valuesOfTexts_eq_ok_iff.1 given
        refine ⟨texts, values, rfl, allKnown, fun value => ?_, same⟩
        rw [mem_values, or_iff_right (ValueSet.not_mem_empty value)]
      | bool decided => simp [select, ran] at selected
      | other kind => simp [select, ran] at selected
  · rintro ⟨texts, values, ran, allKnown, mem_values, rfl⟩
    rw [select_of_strings ran, map_eq_ok_iff]
    refine ⟨values, valuesOfTexts_eq_ok_iff.2 ⟨allKnown, fun value => ?_⟩, rfl⟩
    rw [mem_values, or_iff_right (ValueSet.not_mem_empty value)]

/-- Why a script whose run has an outcome selects no values: its own error, a result that is no list
of texts, or the first listed text that is the form of no value. -/
inductive SelectionFails (resolved : Attribute) :
    Except ScriptError ScriptResult → ScriptError → Prop where
  | script (e : ScriptError) : SelectionFails resolved (.error e) e
  | bool (decided : Bool) : SelectionFails resolved (.ok (.bool decided))
      (.unexpectedResult "matcher script must return a list of values, got bool")
  | other (kind : String) : SelectionFails resolved (.ok (.other kind))
      (.unexpectedResult ("matcher script must return a list of values, got " ++ kind))
  | foreign {before after : List String} {text : String}
      (known : ∀ earlier ∈ before, earlier ∈ resolved.valueTexts)
      (foreign : text ∉ resolved.valueTexts) :
      SelectionFails resolved (.ok (.strings (before ++ text :: after))) (foreignText resolved text)

/-- A script fails to select exactly for one of the reasons there are. -/
theorem select_eq_error_iff {e : ScriptError} :
    script.select request resolved = .error e ↔
      SelectionFails resolved (script.run (.ofAttribute request resolved)) e := by
  constructor
  · intro failed
    cases ran : script.run (.ofAttribute request resolved) with
    | error cause =>
      rw [select, ran] at failed
      cases failed
      exact .script e
    | ok result =>
      cases result with
      | bool decided =>
        rw [select, ran] at failed
        cases failed
        exact .bool decided
      | strings texts =>
        rw [select_of_strings ran, map_eq_error_iff, valuesOfTexts_eq_error_iff] at failed
        obtain ⟨before, text, after, rfl, known, foreign, rfl⟩ := failed
        exact .foreign known foreign
      | other kind =>
        rw [select, ran] at failed
        cases failed
        exact .other kind
  · intro fails
    generalize ran : script.run (.ofAttribute request resolved) = outcome at fails
    cases fails with
    | script => rw [select, ran]
    | bool => rw [select, ran]
    | other => rw [select, ran]
    | foreign known foreign =>
      rw [select_of_strings ran, map_eq_error_iff]
      exact valuesOfTexts_eq_error_iff.2 ⟨_, _, _, rfl, known, foreign, rfl⟩

end Script

namespace Matcher

/-- What a script selects of an attribute. It selects values if it gives a list of texts each of which
is the form of a value, and then all values whose forms are listed, whatever their kinds and however
the list is ordered. Otherwise it fails; there is nothing to which it does not apply. A script that
gives back some of the texts that it was given selects values, and one that gives back all of them
selects what any value passes. -/
theorem select_script (script : Script) (request : Request) (resolved : Attribute) :
    (∀ values, (Matcher.script script).select request resolved = .ok (.matched values) ↔
      ∃ texts, script.run (.ofAttribute request resolved) = .ok (.strings texts) ∧
        (∀ text ∈ texts, ∃ value ∈ resolved.values, value.textForm = text) ∧
        ∀ value, value ∈ values ↔ value ∈ resolved.values ∧ value.textForm ∈ texts) ∧
    (Matcher.script script).select request resolved ≠ .ok .notApplicable ∧
    (∀ e, (Matcher.script script).select request resolved = .error e ↔
      Script.SelectionFails resolved (script.run (.ofAttribute request resolved)) e) ∧
    ∀ view, (Bindings.ofAttribute request resolved).selected = some view →
      (∀ texts, script.run (.ofAttribute request resolved) = .ok (.strings texts) →
        texts ⊆ view.values →
          ∃ values, (Matcher.script script).select request resolved = .ok (.matched values)) ∧
      (script.run (.ofAttribute request resolved) = .ok (.strings view.values) →
        (Matcher.script script).select request resolved = any.select request resolved) := by
  have isSelect : (Matcher.script script).select request resolved =
      script.select request resolved := by rw [select]
  rw [isSelect]
  refine ⟨fun values => ?_, fun selected => ?_, fun e => Script.select_eq_error_iff, ?_⟩
  · simp only [Script.select_eq_ok_iff, Attribute.mem_valueTexts, Selection.matched.injEq]
    constructor
    · rintro ⟨texts, others, ran, known, mem_values, rfl⟩
      exact ⟨texts, ran, known, mem_values⟩
    · rintro ⟨texts, ran, known, mem_values⟩
      exact ⟨texts, values, ran, known, mem_values, rfl⟩
  · obtain ⟨_, _, _, _, _, ⟨⟩⟩ := Script.select_eq_ok_iff.1 selected
  · rintro view ⟨⟩
    constructor
    · intro texts ran given
      obtain ⟨values, mem_values⟩ : ∃ values : ValueSet, ∀ value, value ∈ values ↔
          value ∈ resolved.values ∧ value.textForm ∈ texts :=
        ⟨resolved.valuesWhere fun value => texts.contains value.textForm, fun value => by
          rw [Attribute.mem_valuesWhere, List.contains_iff_mem]⟩
      exact ⟨values, Script.select_eq_ok_iff.2
        ⟨texts, values, ran, fun text member => given member, mem_values, rfl⟩⟩
    · intro ran
      rw [select, Selection.all, Script.select_eq_ok_iff]
      refine ⟨resolved.valueTexts, resolved.valueSet, ran, fun text => id, fun value => ?_, rfl⟩
      rw [Attribute.mem_valueSet, iff_self_and]
      exact fun member => Attribute.mem_valueTexts.2 ⟨value, member, rfl⟩

/-- Two values with one text form, and one with another. -/
def addresses : Attribute :=
  .ofValues "mail" [.string "jo@uni.example", .withScope "jo" "uni.example", .string "jo"]

/-- A script that gives back all the texts that it was given. -/
def givingBack : Script where
  source := "attribute.values"
  run bindings := .ok (.strings ((bindings.selected.map (·.values)).getD []))

/-- A script that lists one text twice. -/
def listingTwice : Script where
  source := "['jo@uni.example', 'jo@uni.example']"
  run _ := .ok (.strings ["jo@uni.example", "jo@uni.example"])

/-- The script that gives back all texts selects everything, and the other one both values with its
text. -/
theorem addresses_selected_by_scripts :
    (Bindings.ofAttribute .blank addresses).selected = some ⟨"mail", addresses.valueTexts⟩ ∧
      givingBack.run (.ofAttribute .blank addresses) = .ok (.strings addresses.valueTexts) ∧
      (Matcher.script givingBack).select .blank addresses = any.select .blank addresses ∧
      ["jo@uni.example", "jo@uni.example"] ⊆ addresses.valueTexts ∧
      ∃ values, (Matcher.script listingTwice).select .blank addresses = .ok (.matched values) ∧
        .string "jo@uni.example" ∈ values ∧ .withScope "jo" "uni.example" ∈ values ∧
        .string "jo" ∉ values := by
  have shown : (Bindings.ofAttribute .blank addresses).selected =
      some ⟨"mail", addresses.valueTexts⟩ := rfl
  have allGiven : givingBack.run (.ofAttribute .blank addresses) =
      .ok (.strings addresses.valueTexts) := rfl
  have given : ["jo@uni.example", "jo@uni.example"] ⊆ addresses.valueTexts := by decide
  have all := ((select_script givingBack .blank addresses).2.2.2 _ shown).2 allGiven
  obtain ⟨selectsIff, _, _, keeps⟩ := select_script listingTwice .blank addresses
  obtain ⟨values, selected⟩ := (keeps _ shown).1 _ rfl given
  obtain ⟨_, ⟨⟩, _, mem_values⟩ := (selectsIff values).1 selected
  refine ⟨shown, allGiven, all, given, values, selected, ?_⟩
  simp only [mem_values]
  decide

end Matcher

end AttributeRelease
