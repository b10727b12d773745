import AttributeRelease.Engine.Session
import AttributeRelease.Proofs.Engine.Entries
import AttributeRelease.Proofs.Rule.Inquiry

/-!
# Filtering a request again

Nothing of a session but its request decides what a pass over it gives. The work area and the released
attributes are replaced by each pass, and the lookups that were kept answer as the request does. So a
pass after any number of others, failed ones among them, is the first pass over the request.
-/

namespace AttributeRelease

open Outcome Inquiry

variable {request : Request}

/-- Asking as a rule does gives what applying it comes to. -/
theorem AttributeRule.inquire_gives (rule : AttributeRule) (area : WorkArea) :
    Gives request (rule.inquire request area) (rule.apply request area) := by
  rw [AttributeRule.inquire, AttributeRule.apply]
  cases request.attribute? rule.attributeId with
  | none => exact gives_pure area
  | some resolved => exact (rule.matcher.inquire_gives resolved).bind fun _ => gives_pure _

/-- The work area after rules that were all applied, or else the failure of the first that was not. -/
def Policy.completed : WorkArea × Option FilterError → Except FilterError WorkArea
  | (area, none) => .ok area
  | (_, some e) => .error e

/-- Rules are completed one after the other, up to the first that fails. -/
theorem Policy.completed_applyRules_cons (policy : Policy) (rule : AttributeRule)
    (rest : List AttributeRule) (area : WorkArea) :
    completed (policy.applyRules request (rule :: rest) area) =
      (rule.apply request area).mapError (.evaluation policy.id (some rule.attributeId)) >>=
        fun area => completed (policy.applyRules request rest area) := by
  rw [applyRules]
  cases rule.apply request area <;> rfl

/-- Asking as the rules of a policy do gives what applying them comes to. -/
theorem Policy.inquireRules_gives (policy : Policy) (rules : List AttributeRule) (area : WorkArea) :
    Gives request (policy.inquireRules request rules area)
      (completed (policy.applyRules request rules area)) := by
  induction rules generalizing area with
  | nil => exact gives_pure area
  | cons rule rest ih =>
    rw [completed_applyRules_cons, inquireRules]
    exact ((rule.inquire_gives area).adapt _).bind ih

namespace Engine

/-- A policy is applied if its requirement is true, and then the others are. -/
theorem applyPolicies_cons_eq_bind (policy : Policy) (rest : List Policy) (area : WorkArea) :
    applyPolicies request (policy :: rest) area =
      (policy.requirement.evaluate request).mapError (.evaluation policy.id none) >>= fun outcome =>
        if outcome.isTrue then
          Policy.completed (policy.applyRules request policy.rules area) >>=
            applyPolicies request rest
        else applyPolicies request rest area := by
  rw [applyPolicies_cons]
  cases policy.requirement.evaluate request with
  | error e => rfl
  | ok outcome =>
    cases outcome with
    | true =>
      simp only [Policy.apply]
      rcases policy.applyRules request policy.rules area with ⟨_, _ | _⟩ <;> rfl
    | false => rfl
    | fail => rfl

/-- Asking as policies do gives what applying them comes to. -/
theorem inquirePolicies_gives (policies : List Policy) (area : WorkArea) :
    Gives request (inquirePolicies request policies area)
      (applyPolicies request policies area) := by
  induction policies generalizing area with
  | nil => exact gives_pure area
  | cons policy rest ih =>
    rw [applyPolicies_cons_eq_bind, inquirePolicies]
    refine (policy.requirement.inquire_gives.adapt _).bind fun outcome => ?_
    split
    · exact (policy.inquireRules_gives policy.rules area).bind ih
    · exact ih area

/-- Asking as an engine does gives what it evaluates to. -/
theorem inquire_gives (engine : Engine) :
    Gives request (engine.inquire request) (engine.evaluate request) :=
  inquirePolicies_gives engine.policies .empty

/-- A pass depends on the request only, and not on what an earlier pass left behind. -/
theorem filter_eq_filter_ofRequest (engine : Engine) (context : FilterContext) :
    engine.filter context = engine.filter (.ofRequest context.request) :=
  rfl

end Engine

namespace Session

/-- The session is about a request, and what is kept in it serves this request. -/
structure IsFor (session : Session) (request : Request) : Prop where
  request_eq : session.context.request = request
  serves : session.lookups.Serves request

/-- A session starts for the request that it is given. -/
theorem start_isFor (request : Request) : (start request).IsFor request :=
  ⟨rfl, Lookups.start_serves request⟩

variable {session : Session}

/-- One pass does to the context what the engine does, and leaves lookups that serve its request. -/
theorem IsFor.filter (isFor : session.IsFor request) (engine : Engine) :
    (session.filter engine).1.context = (engine.filter (.ofRequest request)).1 ∧
      (session.filter engine).2 = (engine.filter (.ofRequest request)).2 ∧
      (session.filter engine).1.IsFor request := by
  obtain ⟨rfl, serves⟩ := isFor
  obtain ⟨given, stillServes⟩ := engine.inquire_gives session.lookups serves
  rw [← engine.filter_eq_filter_ofRequest, Session.filter, Engine.filter, ← given]
  generalize (engine.inquire _).run session.lookups = ended at stillServes ⊢
  match ended with
  | (.ok area, lookups) => exact ⟨rfl, rfl, rfl, stillServes⟩
  | (.error e, lookups) => exact ⟨rfl, rfl, rfl, stillServes⟩

/-- A session stays for its request, whatever is done with it. -/
theorem IsFor.use (isFor : session.IsFor request) (next : Use) :
    (session.use next).IsFor request := by
  cases next with
  | filter engine => exact (isFor.filter engine).2.2
  | lookUp party => exact ⟨isFor.request_eq, (isFor.serves.lookUp party).2⟩

/-- However it is used, a session stays with its request. -/
theorem IsFor.after (isFor : session.IsFor request) (uses : List Use) :
    (session.after uses).IsFor request := by
  induction uses generalizing session with
  | nil => exact isFor
  | cons next rest ih => exact ih (isFor.use next)

/-- Reusing a session leaks nothing. After any number of passes of any engines, failed ones among
them, and of lookups between them, the request is what it was; and a pass then fails, fills the work
area and releases attributes as it does in a new session, which is as the engine filters the request.
-/
theorem filter_after (request : Request) (uses : List Use) (engine : Engine) :
    (((start request).after uses).filter engine).1.context.request = request ∧
      (((start request).after uses).filter engine).1.lookups.facts = request.facts ∧
      (((start request).after uses).filter engine).2 = ((start request).filter engine).2 ∧
      (((start request).after uses).filter engine).1.context.workArea =
        ((start request).filter engine).1.context.workArea ∧
      (((start request).after uses).filter engine).1.context.released =
        ((start request).filter engine).1.context.released ∧
      ((start request).filter engine).1.context = (engine.filter (.ofRequest request)).1 ∧
      ((start request).filter engine).2 = (engine.filter (.ofRequest request)).2 := by
  have reached : ((start request).after uses).IsFor request := (start_isFor request).after uses
  obtain ⟨context, failure, stillFor⟩ := reached.filter engine
  obtain ⟨freshContext, freshFailure, _⟩ := (start_isFor request).filter engine
  refine ⟨stillFor.request_eq, stillFor.serves.facts, ?_, ?_, ?_, freshContext, freshFailure⟩
  · rw [failure, freshFailure]
  · rw [context, freshContext]
  · rw [context, freshContext]

end Session

end AttributeRelease
