import AttributeRelease.Request.Lookup

/-!
# Lookups that serve a request

If the source of metadata is the one of a request, then what is looked up for it is the metadata that
the request itself has, whatever was looked up before. An answer that was kept is the one that the
source would give again.
-/

namespace AttributeRelease.Lookups

@[simp] theorem keep_source (lookups : Lookups) (party : Party) (answer : Option Entity) :
    (lookups.keep party answer).source = lookups.source := by
  cases party <;> rfl

@[simp] theorem keep_facts (lookups : Lookups) (party : Party) (answer : Option Entity) :
    (lookups.keep party answer).facts = lookups.facts := by
  cases party <;> rfl

@[simp] theorem keep_calls (lookups : Lookups) (party : Party) (answer : Option Entity) :
    (lookups.keep party answer).calls = lookups.calls := by
  cases party <;> rfl

/-- What is kept for a party is found for it, and nothing else changes. -/
theorem kept_keep (lookups : Lookups) (party other : Party) (answer : Option Entity) :
    (lookups.keep party answer).kept other =
      if other = party then some answer else lookups.kept other := by
  cases party <;> cases other <;> rfl

/-- The lookups answer as the request does: they ask its source for its parties, and what they kept
is what it says. -/
structure Serves (lookups : Lookups) (request : Request) : Prop where
  source : ∀ calls id, lookups.source calls id = request.resolve id
  facts : lookups.facts = request.facts
  kept : ∀ party answer, lookups.kept party = some answer → answer = request.metadata? party

/-- Lookups serve the request that they start from. -/
theorem start_serves (request : Request) :
    (start (fun _ => request.resolve) request.facts).Serves request where
  source _ _ := rfl
  facts := rfl
  kept party answer kept := by cases party <;> cases kept

variable {lookups : Lookups} {request : Request} {party : Party}

/-- Lookups serve a request as before if they keep an answer of it. -/
theorem Serves.keep {answer : Option Entity} (serves : lookups.Serves request)
    (same : answer = request.metadata? party) : (lookups.keep party answer).Serves request where
  source calls id := by rw [keep_source, serves.source]
  facts := by rw [keep_facts, serves.facts]
  kept other found kept := by
    rw [kept_keep] at kept
    split at kept
    · cases kept
      subst other
      exact same
    · exact serves.kept other found kept

/-- How often the source was asked does not matter to whom lookups serve. -/
theorem Serves.withCalls (serves : lookups.Serves request) (calls : Nat) :
    ({ lookups with calls } : Lookups).Serves request :=
  ⟨serves.source, serves.facts, serves.kept⟩

/-- A lookup gives the metadata that the request has, and so will the lookups after it. -/
theorem Serves.lookUp (serves : lookups.Serves request) (party : Party) :
    (lookups.lookUp party).1 = request.metadata? party ∧
      (lookups.lookUp party).2.Serves request := by
  rw [Lookups.lookUp]
  cases kept : lookups.kept party with
  | some answer => exact ⟨serves.kept party answer kept, serves⟩
  | none =>
    have metadata_eq : request.metadata? party = (lookups.facts.partyId party).bind request.resolve :=
      by rw [Request.metadata?, serves.facts]
    cases named : lookups.facts.partyId party with
    | none =>
      have unknown : none = request.metadata? party := by rw [metadata_eq, named, Option.bind_none]
      exact ⟨unknown, serves.keep unknown⟩
    | some id =>
      have answered : lookups.source lookups.calls id = request.metadata? party := by
        rw [metadata_eq, named, Option.bind_some, serves.source]
      exact ⟨answered, (serves.keep answered).withCalls _⟩

end AttributeRelease.Lookups
