import AttributeRelease.Proofs.Rule.Knowledge

/-!
# When a missing fact becomes known

What a rule or a matcher gains when a missing fact becomes known depends on its form. If no
conjunction of matchers in it asks about the fact, all that was decided without the fact stays as it
was. If this is so at least under negations, what was true stays true and what was selected stays
selected.
-/

namespace AttributeRelease

/-- A fact that may come late, with what it says. -/
inductive LateFact where
  | principal (name : String)
  | authenticationMethod (method : String)
  | proxiedRequesters (ids : List String)

namespace LateFact

/-- What rules call the fact. -/
def kind : LateFact → FactKind
  | principal _ => .principal
  | authenticationMethod _ => .authenticationMethod
  | proxiedRequesters _ => .proxiedRequester

/-- The fact is not among those that are known. -/
def Missing (facts : Facts) : LateFact → Prop
  | principal _ => facts.principal = none
  | authenticationMethod _ => facts.authenticationMethod = none
  | proxiedRequesters _ => facts.proxiedRequesters = none

/-- What is known once the fact is. -/
def addTo (facts : Facts) : LateFact → Facts
  | principal name => { facts with principal := some name }
  | authenticationMethod method => { facts with authenticationMethod := some method }
  | proxiedRequesters ids => { facts with proxiedRequesters := some ids }

variable {late : LateFact} {facts : Facts}

/-- A fact that comes late replaces no other, and nothing that was known of itself. -/
theorem extends_addTo (missing : late.Missing facts) : (late.addTo facts).Extends facts := by
  cases late with
  | principal name =>
    exact { Facts.Extends.refl facts with
      principal := fun _ known => nomatch missing.symm.trans known }
  | authenticationMethod method =>
    exact { Facts.Extends.refl facts with
      authenticationMethod := fun _ known => nomatch missing.symm.trans known }
  | proxiedRequesters ids =>
    exact { Facts.Extends.refl facts with
      proxiedRequesters := fun _ known => nomatch missing.symm.trans known }

/-- A late fact makes no difference to tests of other facts. -/
theorem evaluate_addTo_of_ne {kind : FactKind} (other : kind ≠ late.kind) (test : StringMatch) :
    kind.evaluate (late.addTo facts) test = kind.evaluate facts test := by
  cases late <;> cases kind <;> first | rfl | exact absurd rfl other

/-- A late fact does not change who the parties are. -/
theorem partyId_addTo (party : Party) : (late.addTo facts).partyId party = facts.partyId party := by
  cases late <;> cases party <;> rfl

end LateFact

/-- The same request with the fact known. -/
def Request.learn (request : Request) (late : LateFact) : Request :=
  { request with facts := late.addTo request.facts }

/-- A late fact does not change the metadata of the parties. -/
theorem Request.metadata?_learn {request : Request} {late : LateFact} (party : Party) :
    (request.learn late).metadata? party = request.metadata? party :=
  congrArg (·.bind request.resolve) (LateFact.partyId_addTo party)

/-- A request extends what it was before it learned a missing fact. -/
theorem Request.extends_learn {request : Request} {late : LateFact}
    (missing : late.Missing request.facts) : (request.learn late).Extends request :=
  ⟨LateFact.extends_addTo missing, rfl, Request.metadata?_learn⟩

variable {trend : Trend}

namespace Node

/-- The node asks about a fact nowhere. -/
def IgnoresFact (kind : FactKind) (node : Node) : Prop :=
  ∀ inner ∈ node.nodes, inner.factKind? ≠ some kind

/-- No conjunction of matchers in the node asks about a fact, so that nothing in it turns a failure
for want of that fact into an answer. -/
def KeepsFailures (kind : FactKind) (node : Node) : Prop :=
  ∀ inner ∈ node.nodes, inner.isConjunction = true → inner.IgnoresFact kind

/-- Whatever the node negates keeps failures for want of a fact. -/
def NegatesKept (kind : FactKind) (node : Node) : Prop :=
  ∀ inner ∈ node.nodes, ∀ part ∈ inner.negated?, part.KeepsFailures kind

instance (kind : FactKind) (node : Node) : Decidable (node.IgnoresFact kind) :=
  inferInstanceAs (Decidable (∀ inner ∈ node.nodes, _))

instance (kind : FactKind) (node : Node) : Decidable (node.KeepsFailures kind) :=
  inferInstanceAs (Decidable (∀ inner ∈ node.nodes, _))

instance (kind : FactKind) (node : Node) : Decidable (node.NegatesKept kind) :=
  inferInstanceAs (Decidable (∀ inner ∈ node.nodes, _))

/-- What a node must be like for a trend when a fact becomes known. -/
def Follows (kind : FactKind) (node : Node) : Trend → Prop
  | .steady => node.KeepsFailures kind
  | .growing => node.NegatesKept kind

/-- The parts of a node follow what it follows. -/
theorem Follows.part {kind : FactKind} {node part : Node} (follows : node.Follows kind trend)
    (member : part ∈ node.parts) : part.Follows kind trend := by
  cases trend with
  | steady => exact (forall_mem_nodes_iff.1 follows).2 part member
  | growing => exact (forall_mem_nodes_iff.1 follows).2 part member

/-- What is negated has to keep failures in either case. -/
theorem Follows.negated {kind : FactKind} {node part : Node} (follows : node.Follows kind trend)
    (negated : node.negated? = some part) : part.Follows kind .steady := by
  cases trend with
  | steady => exact follows.part (mem_parts_of_negated negated)
  | growing => exact follows node node.self_mem_nodes part negated

variable {late : LateFact}

/-- What ignores a fact gives the same once the fact is known. -/
theorem gains_of_ignoresFact {request : Request} {node : Node}
    (noScript : ∀ inner ∈ node.nodes, inner.isScript = false)
    (ignores : node.IgnoresFact late.kind) : node.Gains trend request (request.learn late) := by
  have alike : ∀ inner ∈ node.nodes,
      inner.ReadsAlike request (request.learn late) :=
    fun inner member =>
      { noScript := noScript inner member
        facts := fun kind asks test =>
          (LateFact.evaluate_addTo_of_ne (by rintro rfl; exact ignores inner member asks) test).symm
        attributes := fun _ _ => rfl }
  exact gains_of_readsAlike (fun party => (Request.metadata?_learn party).symm) noScript alike

/-- Once a missing fact is known, a node gains what its form admits. -/
theorem gains_of_follows (trend : Trend) {request : Request} (missing : late.Missing request.facts)
    (node : Node) (noScript : ∀ inner ∈ node.nodes, inner.isScript = false)
    (follows : node.Follows late.kind trend) :
    node.Gains trend request (request.learn late) := by
  induction node using induction generalizing trend with
  | step node ih =>
    have partNoScript := (forall_mem_nodes_iff.1 noScript).2
    by_cases kept : node.isConjunction = true ∧ trend = .steady
    · obtain ⟨isConjunction, rfl⟩ := kept
      exact gains_of_ignoresFact noScript (follows node node.self_mem_nodes isConjunction)
    · apply gains_of_parts (Request.extends_learn missing) noScript
      · intro isConjunction
        cases trend with
        | steady => exact absurd ⟨isConjunction, rfl⟩ kept
        | growing => rfl
      · intro part member
        exact ih part member trend (partNoScript part member) (follows.part member)
      · intro part negated
        have member : part ∈ node.parts := mem_parts_of_negated negated
        exact ih part member .steady (partNoScript part member) (follows.negated negated)

end Node

end AttributeRelease
