import AttributeRelease.Proofs.Attribute.Form
import AttributeRelease.Proofs.Tree.Record
import AttributeRelease.Request.Basic

/-!
# Request files

Which facts and attributes a request file denotes: those that stand in its one table, in which no
known name is written twice and whatever is not known can at least be read. What is written of facts
and attributes is read back, in any order of the fields and in either layout.
-/

namespace AttributeRelease

open AttributeRelease.Tree

namespace Facts

/-- The names of the facts. -/
def fieldNames : List String :=
  ["issuer", "requester", "principal", "authentication_method", "proxied_requesters"]

/-- Facts are those that stand in a table, in which missing ones are null or absent. -/
structure StandIn (facts : Facts) (fields : Fields Tree) : Prop where
  accepted : fields.Accepted .openEnded fieldNames
  issuer : fields.Gives "issuer" (nullable? text?) (some .none) facts.issuer
  requester : fields.Gives "requester" (nullable? text?) (some .none) facts.requester
  principal : fields.Gives "principal" (nullable? text?) (some .none) facts.principal
  authenticationMethod :
    fields.Gives "authentication_method" (nullable? text?) (some .none) facts.authenticationMethod
  proxiedRequesters :
    fields.Gives "proxied_requesters" (nullable? texts?) (some .none) facts.proxiedRequesters

/-- A table denotes the facts that stand in it. -/
theorem ofHolder?_table_eq_some_iff {fields : Fields Tree} {facts : Facts} :
    ofHolder? (.table fields) = some facts ↔ facts.StandIn fields := by
  simp only [ofHolder?, Option.bind_eq_bind, Option.bind_eq_some_iff,
    Fields.fields?_table_eq_some_iff, Option.pure_def, Option.some.injEq]
  constructor
  · rintro ⟨_, ⟨accepted, rfl⟩, _, issuer, _, requester, _, principal, _, authenticationMethod, _,
      proxiedRequesters, rfl⟩
    exact ⟨accepted, (accepted.defaulted_iff (by decide)).1 issuer,
      (accepted.defaulted_iff (by decide)).1 requester,
      (accepted.defaulted_iff (by decide)).1 principal,
      (accepted.defaulted_iff (by decide)).1 authenticationMethod,
      (accepted.defaulted_iff (by decide)).1 proxiedRequesters⟩
  · rintro ⟨accepted, issuer, requester, principal, authenticationMethod, proxiedRequesters⟩
    exact ⟨_, ⟨accepted, rfl⟩, _, (accepted.defaulted_iff (by decide)).2 issuer,
      _, (accepted.defaulted_iff (by decide)).2 requester,
      _, (accepted.defaulted_iff (by decide)).2 principal,
      _, (accepted.defaulted_iff (by decide)).2 authenticationMethod,
      _, (accepted.defaulted_iff (by decide)).2 proxiedRequesters, rfl⟩

/-- The proxies of a request are read from the part that is written for them. -/
theorem exists_reads_proxiedRequesters (facts : Facts) :
    ∃ part, ("proxied_requesters", part) ∈ facts.toFields ∧
      Reads (nullable? texts?) part facts.proxiedRequesters := by
  obtain ⟨issuer, requester, principal, authenticationMethod, proxiedRequesters⟩ := facts
  cases proxiedRequesters with
  | none => exact ⟨.null, by simp [toFields], reads_null _⟩
  | some proxies =>
    exact ⟨.ofTexts proxies, by simp [toFields], (reads_texts proxies).nullable Tree.noConfusion⟩

/-- What is written for a fact can be printed. -/
theorem printable_of_mem_toFields (limit : Nat) (facts : Facts) :
    ∀ field ∈ facts.toFields, Json.Printable (limit + 1) field.2 := by
  have text (fact : Option String) : Json.Printable (limit + 1) (ofText? fact) := by
    cases fact with
    | none => exact .null _
    | some value => exact .text _ value
  simp only [toFields, List.forall_mem_cons]
  refine ⟨text _, text _, text _, text _, ?_, List.forall_mem_nil _⟩
  cases facts.proxiedRequesters with
  | none => exact .null _
  | some proxies =>
    refine .list fun item member => ?_
    obtain ⟨proxy, -, rfl⟩ := List.mem_map.1 member
    exact .text _ proxy

end Facts

namespace Request

/-- Facts and attributes stand side by side in the table of a request file. Anything else in it can be
read, and is passed over. -/
structure StandIn (facts : Facts) (attributes : List Attribute) (fields : Fields Tree) : Prop where
  legible : ∀ field ∈ fields, field.1 ≠ "attributes" → field.2.isLegible = true
  facts : facts.StandIn fields
  accepted : fields.Accepted .openEnded ["attributes"]
  attributes : fields.Gives "attributes" (listOf? Attribute.ofTree?) (some []) attributes

/-- A tree denotes the facts and attributes that stand in it, if it is a table. -/
theorem ofTree?_eq_some_iff {tree : Tree} {facts : Facts} {attributes : List Attribute} :
    ofTree? tree = some (facts, attributes) ↔
      ∃ fields, tree = .table fields ∧ StandIn facts attributes fields := by
  cases tree with
  | table fields =>
    simp only [ofTree?, Option.bind_eq_bind, Option.bind_eq_some_iff, Option.guard_eq_some',
      Facts.ofHolder?_table_eq_some_iff, Fields.fields?_table_eq_some_iff, Option.pure_def,
      Option.some.injEq, Prod.mk.injEq, List.all_eq_true, Bool.or_eq_true, beq_iff_eq]
    constructor
    · rintro ⟨_, legible, _, standIn, _, ⟨accepted, rfl⟩, _, isRead, rfl, rfl⟩
      exact ⟨fields, rfl, fun field member differs => (legible field member).resolve_left differs,
        standIn, accepted, (accepted.defaulted_iff (by decide)).1 isRead⟩
    · rintro ⟨_, ⟨⟩, legible, standIn, accepted, gives⟩
      exact ⟨(), fun field member => or_iff_not_imp_left.2 (legible field member), _, standIn, _,
        ⟨accepted, rfl⟩, _, (accepted.defaulted_iff (by decide)).2 gives, rfl, rfl⟩
  | _ => simp [ofTree?]

/-- A request file denotes the facts and attributes that stand in its table. -/
theorem ofJson?_eq_some_iff {text : String} {facts : Facts} {attributes : List Attribute} :
    ofJson? text = some (facts, attributes) ↔
      ∃ fields, Json.scan? text = some (.table fields) ∧ StandIn facts attributes fields := by
  simp only [ofJson?, Option.bind_eq_some_iff, ofTree?_eq_some_iff]
  constructor
  · rintro ⟨_, isRead, fields, rfl, standIn⟩
    exact ⟨fields, isRead, standIn⟩
  · rintro ⟨fields, isRead, standIn⟩
    exact ⟨_, isRead, fields, rfl, standIn⟩

/-- The tree of a request file. -/
def fileTree (facts : Facts) (attributes : List Attribute) : Tree :=
  .table (("attributes", .list (attributes.map Attribute.toTree)) :: facts.toFields)

/-- The tree of a request file can be printed. -/
theorem printable_fileTree (limit : Nat) (facts : Facts) (attributes : List Attribute) :
    Json.Printable (limit + 6) (fileTree facts attributes) := by
  refine .table (List.forall_mem_cons.2 ⟨.list fun item member => ?_, ?_⟩)
  · obtain ⟨resolved, -, rfl⟩ := List.mem_map.1 member
    exact resolved.printable_toTree limit
  · exact fun field member => facts.printable_of_mem_toFields (limit + 4) field member

/-- What is written of facts and attributes is read back, whatever the order of the fields in it. -/
theorem reads_fileTree (facts : Facts) {attributes : List Attribute}
    (hasClockTimes : ∀ resolved ∈ attributes, resolved.HasClockTimes) :
    Reads ofTree? (fileTree facts attributes) (facts, attributes) := by
  have values := reads_list fun resolved member =>
    Attribute.reads_toTree (hasClockTimes resolved member)
  refine reads_record (by simp [Facts.toFields]) fun fields isWritten => ?_
  refine ofTree?_eq_some_iff.2 ⟨fields, rfl, ?legible, ?facts, isWritten.accepted _,
    isWritten.gives List.mem_cons_self values _⟩
  case legible =>
    intro field member differs
    obtain ⟨part, isPart, reorders⟩ := isWritten.exists_written field member
    rcases List.mem_cons.1 isPart with isAttributes | isFact
    · exact absurd (Prod.ext_iff.1 isAttributes).1 differs
    · exact reorders.isLegible (facts.printable_of_mem_toFields 0 _ isFact).isLegible
  case facts =>
    obtain ⟨part, isProxied, reads⟩ := facts.exists_reads_proxiedRequesters
    exact ⟨isWritten.accepted _, isWritten.gives (by simp [Facts.toFields]) (reads_textOrNull _) _,
      isWritten.gives (by simp [Facts.toFields]) (reads_textOrNull _) _,
      isWritten.gives (by simp [Facts.toFields]) (reads_textOrNull _) _,
      isWritten.gives (by simp [Facts.toFields]) (reads_textOrNull _) _,
      isWritten.gives (List.mem_cons_of_mem _ isProxied) reads _⟩

/-- A printed request file is read back. -/
theorem ofJson?_write (facts : Facts) {attributes : List Attribute}
    (hasClockTimes : ∀ resolved ∈ attributes, resolved.HasClockTimes) (layout : Json.Layout) :
    ofJson? (Json.write layout 0 (fileTree facts attributes)) = some (facts, attributes) := by
  have isRead := Json.scan?_write (printable_fileTree 121 facts attributes) layout ""
    (List.forall_mem_nil _)
  rw [String.append_empty] at isRead
  rw [ofJson?, isRead]
  exact (reads_fileTree facts hasClockTimes).eq

end Request

end AttributeRelease
