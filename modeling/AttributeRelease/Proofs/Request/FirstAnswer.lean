import AttributeRelease.Proofs.Request.Lookup
import Mathlib.Data.Finset.Card
import Mathlib.Data.List.TakeWhile

/-!
# The first answer stays

A source of metadata may change its answers from call to call. What it answers when a party is first
looked up is kept for the request, and so is that it had no answer. `Lookups.Follows` says what
lookups hold after a history of parties: the first answer for each party in it, and one call for each
of these parties whose id is known. A lookup makes this true of the history with its party added.
-/

namespace AttributeRelease.Lookups

variable {source : MetadataSource} {facts : Facts} {lookups : Lookups} {parties : List Party}
  {party other : Party}

/-- The parties in a history whose ids are known. They are two even if they have the same id. -/
def knownParties (facts : Facts) (parties : List Party) : Finset Party :=
  parties.toFinset.filter fun party => (facts.partyId party).isSome

/-- What the source says when a party is first looked up in a history: it is asked for the id of this
party, after one call for each known party that came before. -/
def firstAnswer (source : MetadataSource) (facts : Facts) (parties : List Party) (party : Party) :
    Option Entity :=
  (facts.partyId party).bind (source (knownParties facts (parties.takeWhile (· ≠ party))).card)

/-- A party that came before is known or not as it was. -/
theorem knownParties_append_of_mem (member : party ∈ parties) :
    knownParties facts (parties ++ [party]) = knownParties facts parties := by
  rw [knownParties, knownParties, List.toFinset_append, Finset.union_eq_left.2]
  simpa using member

/-- A new party is one more that is known, if its id is. -/
theorem card_knownParties_append (fresh : party ∉ parties) :
    (knownParties facts (parties ++ [party])).card =
      (knownParties facts parties).card + if (facts.partyId party).isSome then 1 else 0 := by
  have inserted : (parties ++ [party]).toFinset = insert party parties.toFinset := by
    rw [List.toFinset_append, Finset.union_comm]
    rfl
  rw [knownParties, knownParties, inserted, Finset.filter_insert]
  split
  · refine Finset.card_insert_of_notMem fun member => fresh ?_
    exact List.mem_toFinset.1 (Finset.mem_filter.1 member).1
  · rfl

/-- There are two parties at most. -/
theorem card_knownParties_le (facts : Facts) (parties : List Party) :
    (knownParties facts parties).card ≤ 2 := by
  have amongBoth : knownParties facts parties ⊆ {.requester, .issuer} := by
    intro party _
    cases party <;> decide
  exact (Finset.card_le_card amongBoth).trans Finset.card_le_two

/-- Before a new party come all others. -/
theorem takeWhile_ne_eq_self (fresh : party ∉ parties) :
    parties.takeWhile (· ≠ party) = parties := by
  refine List.takeWhile_eq_self_iff.2 fun earlier member => ?_
  exact decide_eq_true fun same => fresh (same ▸ member)

/-- A history that goes on does not change the first answer for a party that it has reached. -/
theorem firstAnswer_append (reached : party ∈ parties ∨ other = party) :
    firstAnswer source facts (parties ++ [other]) party =
      firstAnswer source facts parties party := by
  suffices sameBefore :
      (parties ++ [other]).takeWhile (· ≠ party) = parties.takeWhile (· ≠ party) by
    rw [firstAnswer, firstAnswer, sameBefore]
  by_cases member : party ∈ parties
  · obtain ⟨before, after, rfl, fresh⟩ := List.eq_append_cons_of_mem member
    have goesOn := List.takeWhile_eq_self_iff.1 (takeWhile_ne_eq_self fresh)
    rw [List.append_assoc, List.takeWhile_append_of_pos goesOn, List.takeWhile_append_of_pos goesOn]
    simp
  · obtain rfl := reached.resolve_left member
    have goesOn := List.takeWhile_eq_self_iff.1 (takeWhile_ne_eq_self member)
    rw [List.takeWhile_append_of_pos goesOn, takeWhile_ne_eq_self member]
    simp

/-- The first answer for a new party is that of the next call. -/
theorem firstAnswer_of_fresh (fresh : party ∉ parties) :
    firstAnswer source facts parties party =
      (facts.partyId party).bind (source (knownParties facts parties).card) := by
  rw [firstAnswer, takeWhile_ne_eq_self fresh]

/-- What lookups hold after a history of parties. -/
structure Follows (lookups : Lookups) (source : MetadataSource) (facts : Facts)
    (parties : List Party) : Prop where
  source_eq : lookups.source = source
  facts_eq : lookups.facts = facts
  kept_eq : ∀ party, lookups.kept party =
    if party ∈ parties then some (firstAnswer source facts parties party) else none
  calls_eq : lookups.calls = (knownParties facts parties).card

/-- In the beginning lookups hold nothing. -/
theorem start_follows (source : MetadataSource) (facts : Facts) :
    (start source facts).Follows source facts [] where
  source_eq := rfl
  facts_eq := rfl
  kept_eq party := by cases party <;> rfl
  calls_eq := rfl

/-- An answer that is kept is the first one, also after its party was looked up again. -/
theorem Follows.kept_again (follows : lookups.Follows source facts parties)
    (member : party ∈ parties) (other : Party) :
    lookups.kept other =
      if other ∈ parties ++ [party] then
        some (firstAnswer source facts (parties ++ [party]) other) else none := by
  rw [follows.kept_eq]
  by_cases otherMember : other ∈ parties
  · simp [otherMember, firstAnswer_append]
  · have different : other ≠ party := fun same => otherMember (same ▸ member)
    simp [otherMember, different]

/-- Keeping the first answer for a party changes nothing for the other one. -/
theorem Follows.kept_first (follows : lookups.Follows source facts parties) (party other : Party) :
    (lookups.keep party (firstAnswer source facts parties party)).kept other =
      if other ∈ parties ++ [party] then
        some (firstAnswer source facts (parties ++ [party]) other) else none := by
  rw [kept_keep, follows.kept_eq]
  by_cases same : other = party
  · subst other
    simp [firstAnswer_append]
  · by_cases otherMember : other ∈ parties
    · simp [same, otherMember, firstAnswer_append]
    · simp [same, otherMember]

/-- One lookup gives the first answer for its party. The source is called only for a party that is not
in the history and has an id. -/
theorem Follows.lookUp (follows : lookups.Follows source facts parties) (party : Party) :
    (lookups.lookUp party).1 = firstAnswer source facts parties party ∧
      (lookups.lookUp party).2.Follows source facts (parties ++ [party]) := by
  rw [Lookups.lookUp, follows.kept_eq party]
  by_cases member : party ∈ parties
  · rw [if_pos member]
    refine ⟨rfl, follows.source_eq, follows.facts_eq, follows.kept_again member, ?_⟩
    rw [knownParties_append_of_mem member, follows.calls_eq]
  · rw [if_neg member]
    have first : firstAnswer source facts parties party =
        (facts.partyId party).bind (source lookups.calls) := by
      rw [firstAnswer_of_fresh member, follows.calls_eq]
    have counted : (knownParties facts (parties ++ [party])).card =
        lookups.calls + if (facts.partyId party).isSome then 1 else 0 := by
      rw [card_knownParties_append member, follows.calls_eq]
    have kept := follows.kept_first party
    have sameSource : ∀ answer, (lookups.keep party answer).source = source := fun answer =>
      (keep_source lookups party answer).trans follows.source_eq
    have sameFacts : ∀ answer, (lookups.keep party answer).facts = facts := fun answer =>
      (keep_facts lookups party answer).trans follows.facts_eq
    rw [follows.facts_eq, follows.source_eq]
    cases named : facts.partyId party with
    | none =>
      rw [named, Option.bind_none] at first
      rw [first] at kept ⊢
      refine ⟨rfl, sameSource none, sameFacts none, kept, ?_⟩
      rw [keep_calls, counted, named]
      rfl
    | some id =>
      rw [named, Option.bind_some] at first
      rw [first] at kept ⊢
      refine ⟨rfl, sameSource _, sameFacts _, kept, ?_⟩
      rw [counted, named]
      rfl

/-- After one more party lookups are as looking it up leaves them. -/
theorem after_append (lookups : Lookups) (parties : List Party) (party : Party) :
    lookups.after (parties ++ [party]) = ((lookups.after parties).lookUp party).2 := by
  rw [after, List.foldl_append]
  rfl

/-- Lookups hold what their history says. -/
theorem after_follows (source : MetadataSource) (facts : Facts) (parties : List Party) :
    ((start source facts).after parties).Follows source facts parties := by
  induction parties using List.reverseRecOn with
  | nil => exact start_follows source facts
  | append_singleton before party ih =>
    rw [after_append]
    exact (ih.lookUp party).2

/-- Metadata is looked up once for each party. After every sequence of lookups, the source has been
called as often as there are parties among them whose ids are known, so never more than twice. Every
lookup of a party gives the answer that the first one of this party gave: what the source said about
the id of the party then, if there is one. -/
theorem after_asks_each_party_once (source : MetadataSource) (facts : Facts) :
    (∀ parties : List Party,
      ((start source facts).after parties).calls = (knownParties facts parties).card ∧
        ((start source facts).after parties).calls ≤ 2) ∧
    ∀ (before : List Party) (party : Party),
      (((start source facts).after before).lookUp party).1 =
          (((start source facts).after (before.takeWhile (· ≠ party))).lookUp party).1 ∧
        (((start source facts).after (before.takeWhile (· ≠ party))).lookUp party).1 =
          (facts.partyId party).bind
            (source (knownParties facts (before.takeWhile (· ≠ party))).card) := by
  refine ⟨fun parties => ?_, fun before party => ?_⟩
  · have counted := (after_follows source facts parties).calls_eq
    exact ⟨counted, counted ▸ card_knownParties_le facts parties⟩
  · have answer := ((after_follows source facts before).lookUp party).1
    have first :=
      ((after_follows source facts (before.takeWhile (· ≠ party))).lookUp party).1
    rw [firstAnswer, List.takeWhile_idem] at first
    exact ⟨answer.trans first.symm, first⟩

/-- Both parties have the same id and are looked up once each. The source has no answer for its first
call, and the issuer stays without metadata when the source has learnt of it. -/
example :
    let source : MetadataSource := fun calls id =>
      if calls = 0 then none else some ⟨id, [], [], none, [], []⟩
    let facts : Facts := { Facts.none with issuer := some "idp", requester := some "idp" }
    let lookups := (start source facts).after [.issuer, .requester, .issuer]
    lookups.calls = 2 ∧ (lookups.lookUp .issuer).1 = none ∧
      (lookups.lookUp .requester).1.isSome = true := by
  decide

end AttributeRelease.Lookups
