import AttributeRelease.Proofs.Outcome
import AttributeRelease.Proofs.Request.Lookup
import AttributeRelease.Proofs.Rule.Node
import AttributeRelease.Rule.Inquiry

/-!
# Inquiries give what evaluation gives

As long as lookups serve a request, it does not matter which of them were made before: an inquiry has
the outcome that evaluation has, where the metadata of the request is at hand. The lookups that it
passes on serve the request too, also when it fails.
-/

namespace AttributeRelease

variable {request : Request}

namespace Inquiry

variable {ε ε' α β : Type}

/-- The inquiry has an outcome for all lookups that serve a request, and passes on such lookups. -/
def Gives (request : Request) (inquiry : Inquiry ε α) (outcome : Except ε α) : Prop :=
  ∀ lookups : Lookups, lookups.Serves request →
    (inquiry.run lookups).1 = outcome ∧ (inquiry.run lookups).2.Serves request

/-- An inquiry that asks nothing gives its value. -/
theorem gives_pure (value : α) : Gives request (pure value : Inquiry ε α) (.ok value) :=
  fun _ serves => ⟨rfl, serves⟩

/-- An inquiry that was decided beforehand gives its outcome. -/
theorem gives_ofOutcome (outcome : Except ε α) : Gives request (ofOutcome outcome) outcome :=
  fun _ serves => ⟨rfl, serves⟩

/-- Asking for the metadata of a party gives what the request says. -/
theorem gives_metadata? (party : Party) :
    Gives request (metadata? party : Inquiry ε _) (.ok (request.metadata? party)) := by
  intro lookups serves
  obtain ⟨answered, stillServes⟩ := serves.lookUp party
  exact ⟨congrArg Except.ok answered, stillServes⟩

/-- An inquiry gives its outcome with errors reported otherwise. -/
theorem Gives.adapt {inquiry : Inquiry ε α} {outcome : Except ε α}
    (given : Gives request inquiry outcome) (report : ε → ε') :
    Gives request (inquiry.adapt report) (outcome.mapError report) := by
  intro lookups serves
  obtain ⟨rfl, stillServes⟩ := given lookups serves
  exact ⟨rfl, stillServes⟩

/-- A failure of the first of two inquiries ends both; the second one starts with the lookups that the
first one passes on. -/
theorem bind_run (first : Inquiry ε α) (next : α → Inquiry ε β) (lookups : Lookups) :
    (first >>= next).run lookups =
      match first.run lookups with
      | (.ok value, after) => (next value).run after
      | (.error e, after) => (.error e, after) := by
  change ExceptT.bindCont next (first.run lookups).1 (first.run lookups).2 = _
  rcases first.run lookups with ⟨_ | _, after⟩ <;> rfl

/-- Inquiries one after the other give their outcomes one after the other. -/
theorem Gives.bind {first : Inquiry ε α} {next : α → Inquiry ε β} {outcome : Except ε α}
    {others : α → Except ε β} (given : Gives request first outcome)
    (nextGiven : ∀ value, Gives request (next value) (others value)) :
    Gives request (first >>= next) (outcome >>= others) := by
  intro lookups serves
  obtain ⟨rfl, stillServes⟩ := given lookups serves
  rw [bind_run]
  generalize first.run lookups = ended at stillServes ⊢
  match ended with
  | (.error e, after) => exact ⟨rfl, stillServes⟩
  | (.ok value, after) => exact nextGiven value after stillServes

end Inquiry

open Inquiry

/-- Inquiring about a check of metadata gives whether it holds. -/
theorem MetadataCheck.inquire_gives {ε : Type} (check : MetadataCheck) :
    Gives request (check.inquire : Inquiry ε Bool) (.ok (check.holds request)) := by
  have holds_eq : check.holds request =
      (request.metadata? check.party).any fun entity => check.holdsFor entity := by
    cases check <;> rfl
  rw [holds_eq]
  exact (gives_metadata? check.party).bind fun _ => gives_pure _

/-- Inquiring about what is requested gives what it selects. -/
theorem RequestedMatch.inquire_gives {ε : Type} (sought : RequestedMatch) (resolved : Attribute) :
    Gives request (sought.inquire resolved : Inquiry ε ValueSet)
      (.ok (sought.select request resolved)) :=
  (gives_metadata? .requester).bind fun _ => gives_pure _

/-- Inquiring about a conjunction that is under way gives its outcome if its rules do. -/
theorem inquireAndWith_gives {rules : List Rule}
    (given : ∀ rule ∈ rules, Gives request (rule.inquire request) (rule.evaluate request))
    (found : Tristate) :
    Gives request (inquireAndWith request found rules) (evaluateAndWith request found rules) := by
  induction rules generalizing found with
  | nil => exact gives_pure found
  | cons rule rest ih =>
    obtain ⟨headGiven, restGiven⟩ := List.forall_mem_cons.1 given
    rw [inquireAndWith, evaluateAndWith]
    exact headGiven.bind fun outcome => ih restGiven (found.and outcome)

/-- Inquiring about a conjunction gives its outcome if its rules do. -/
theorem inquireAnd_gives {rules : List Rule}
    (given : ∀ rule ∈ rules, Gives request (rule.inquire request) (rule.evaluate request)) :
    Gives request (inquireAnd request rules) (evaluateAnd request rules) := by
  cases rules with
  | nil => exact gives_pure _
  | cons rule rest =>
    obtain ⟨headGiven, restGiven⟩ := List.forall_mem_cons.1 given
    rw [inquireAnd, evaluateAnd]
    exact headGiven.bind fun outcome => inquireAndWith_gives restGiven outcome

/-- Inquiring about a disjunction gives its outcome if its rules do. -/
theorem inquireOr_gives {rules : List Rule}
    (given : ∀ rule ∈ rules, Gives request (rule.inquire request) (rule.evaluate request))
    (found : Tristate) :
    Gives request (inquireOr request found rules) (evaluateOr request found rules) := by
  induction rules generalizing found with
  | nil => exact gives_pure found
  | cons rule rest ih =>
    obtain ⟨headGiven, restGiven⟩ := List.forall_mem_cons.1 given
    rw [inquireOr, evaluateOr]
    refine headGiven.bind fun outcome => ?_
    by_cases isTrue : (found.or outcome).isTrue = true
    · simp only [isTrue, if_true]
      exact gives_pure _
    · simp only [isTrue]
      exact ih restGiven _

/-- Inquiring about matchers gives their selections if each of them does. -/
theorem inquireAll_gives {matchers : List Matcher} {resolved : Attribute}
    (given : ∀ matcher ∈ matchers,
      Gives request (matcher.inquire request resolved) (matcher.select request resolved)) :
    Gives request (inquireAll request resolved matchers) (selectAll request resolved matchers) := by
  induction matchers with
  | nil => exact gives_pure []
  | cons matcher rest ih =>
    obtain ⟨headGiven, restGiven⟩ := List.forall_mem_cons.1 given
    rw [inquireAll, selectAll]
    exact headGiven.bind fun selection => (ih restGiven).bind fun others => gives_pure _

namespace Node

/-- Inquiring about a rule or a matcher gives its outcome or selection for a request. -/
def InquiryGives (request : Request) : Node → Prop
  | rule r => Gives request (r.inquire request) (r.evaluate request)
  | matcher m => ∀ resolved, Gives request (m.inquire request resolved) (m.select request resolved)

/-- Inquiring about any rule or matcher gives its outcome or selection. -/
theorem inquiryGives (request : Request) (node : Node) : node.InquiryGives request := by
  induction node using induction with
  | step node partsGive =>
    match node with
    | rule .any | rule .none | rule (.fact _ _) | rule (.valueCount _) => exact gives_pure _
    | rule (.and rules) =>
      exact inquireAnd_gives fun part member => partsGive (rule part) (List.mem_map_of_mem member)
    | rule (.or rules) =>
      exact inquireOr_gives (fun part member =>
        partsGive (rule part) (List.mem_map_of_mem member)) _
    | rule (.not part) =>
      have given : Gives request (part.inquire request) (part.evaluate request) :=
        partsGive (rule part) List.mem_cons_self
      exact given.bind fun _ => gives_pure _
    | rule (.attributeValues id part) =>
      rw [InquiryGives, Rule.inquire, Rule.evaluate]
      cases request.attribute? id with
      | none => exact gives_pure _
      | some resolved =>
        have given := partsGive (matcher part) List.mem_cons_self resolved
        exact given.bind fun _ => gives_pure _
    | rule (.metadata check) => exact check.inquire_gives.bind fun _ => gives_pure _
    | rule (.script script) => exact gives_ofOutcome _
    | matcher .any | matcher (.value _) | matcher (.scope _) => exact fun _ => gives_pure _
    | matcher (.script script) => exact fun _ => gives_ofOutcome _
    | matcher (.and matchers) | matcher (.or matchers) =>
      intro resolved
      have given : Gives request (inquireAll request resolved matchers)
          (selectAll request resolved matchers) :=
        inquireAll_gives fun part member =>
          partsGive (matcher part) (List.mem_map_of_mem member) resolved
      exact given.bind fun _ => gives_pure _
    | matcher (.not part) =>
      intro resolved
      have given := partsGive (matcher part) List.mem_cons_self resolved
      exact given.bind fun _ => gives_pure _
    | matcher (.metadata check) =>
      exact fun resolved => check.inquire_gives.bind fun _ => gives_pure _
    | matcher (.requested sought) =>
      exact fun resolved => (sought.inquire_gives resolved).bind fun _ => gives_pure _
    | matcher (.fromRule part) =>
      intro resolved
      have given : Gives request (part.inquire request) (part.evaluate request) :=
        partsGive (rule part) List.mem_cons_self
      exact given.bind fun _ => gives_pure _

end Node

/-- Inquiring about a rule gives its outcome. -/
theorem Rule.inquire_gives (rule : Rule) :
    Gives request (rule.inquire request) (rule.evaluate request) :=
  (Node.rule rule).inquiryGives request

/-- Inquiring about a matcher gives its selection. -/
theorem Matcher.inquire_gives (matcher : Matcher) (resolved : Attribute) :
    Gives request (matcher.inquire request resolved) (matcher.select request resolved) :=
  (Node.matcher matcher).inquiryGives request resolved

end AttributeRelease
