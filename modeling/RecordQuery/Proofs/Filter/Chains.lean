import RecordQuery.Filter

/-!
# Chains of related records

A filter matches a record exactly if a chain of related records leads to a value of which its
condition holds. Where no relation on the way has more than one record, that value is the one by
which the record is ordered along the same path.
-/

namespace RecordQuery

/-- The names lead along relations from one record to another. -/
inductive Record.Chain : Record → List String → Record → Prop where
  | here (record : Record) : Chain record [] record
  | hop {record next reached : Record} {name : String} {names : List String} :
      next ∈ record.related name → Chain next names reached → Chain record (name :: names) reached

/-- No name on the way has more than one related record, and the last name has none at the record
that is reached. -/
def Record.IsToOne (leaf : String) : List String → Record → Prop
  | [], record => record.related leaf = []
  | hop :: rest, record =>
    (record.related hop).length ≤ 1 ∧ ∀ next ∈ record.related hop, IsToOne leaf rest next

theorem Condition.holds_missing (condition : Condition) : condition.holds .missing = false := by
  cases condition with
  | exact operand => cases operand <;> rfl
  | startsWith | endsWith | contains | wildcard | atLeast | atMost | above | below | within => rfl

variable {condition : Condition} {leaf : String} {hops : List String} {record : Record}

theorem FieldPath.valueAt_nil (h : record.related leaf = []) :
    valueAt record leaf [] = record.value leaf := by
  rw [valueAt, h]
  split
  · rename_i hmissing
    exact hmissing.symm
  · rfl

namespace Filter

theorem matchesAlong_iff : matchesAlong condition leaf hops record = true ↔
    ∃ reached, record.Chain hops reached ∧ condition.holds (reached.value leaf) = true := by
  induction hops generalizing record with
  | nil =>
    constructor
    · intro h
      exact ⟨record, .here record, h⟩
    · rintro ⟨reached, hchain, h⟩
      cases hchain
      exact h
  | cons hop rest ih =>
    rw [matchesAlong, List.any_eq_true]
    constructor
    · rintro ⟨next, hnext, h⟩
      obtain ⟨reached, hchain, hholds⟩ := ih.mp h
      exact ⟨reached, .hop hnext hchain, hholds⟩
    · rintro ⟨reached, hchain, hholds⟩
      cases hchain with
      | hop hnext hchain => exact ⟨_, hnext, ih.mpr ⟨reached, hchain, hholds⟩⟩

/-- On a path without branches filtering and ordering read the same value; where the path ends
early, the value is missing and no condition holds of it. -/
theorem matchesAlong_eq_holds (h : record.IsToOne leaf hops) :
    matchesAlong condition leaf hops record =
      condition.holds (FieldPath.valueAt record leaf hops) := by
  induction hops generalizing record with
  | nil => rw [matchesAlong, FieldPath.valueAt_nil h]
  | cons hop rest ih =>
    obtain ⟨hone, hrest⟩ := h
    rw [matchesAlong, FieldPath.valueAt]
    cases hrelated : record.related hop with
    | nil => exact (Condition.holds_missing condition).symm
    | cons next others =>
      rw [hrelated] at hone hrest
      obtain rfl : others = [] := List.eq_nil_of_length_eq_zero (by simpa using hone)
      rw [List.any_cons, List.any_nil, Bool.or_false]
      exact ih (hrest next List.mem_cons_self)

theorem isMatch_of_condition? {filter : Filter} (h : filter.condition? = some condition)
    (record : Record) :
    filter.isMatch record = matchesAlong condition filter.path.leaf filter.path.hops record := by
  unfold condition? at h
  unfold isMatch
  split at h
  · obtain rfl := Option.some.inj h
    rfl
  · exact absurd h (by simp)

/-- A valid filter matches a record exactly if some chain of related records along its path ends at
a record whose value the condition holds of. On a path without branches that is the value by which
the record is ordered. -/
theorem isMatch_follows_chains {filter : Filter} (hvalid : filter.condition? = some condition)
    (record : Record) :
    (filter.isMatch record = true ↔
      ∃ reached, record.Chain filter.path.hops reached ∧
        condition.holds (reached.value filter.path.leaf) = true) ∧
    (record.IsToOne filter.path.leaf filter.path.hops →
      filter.isMatch record = condition.holds (filter.path.valueOf record)) := by
  rw [isMatch_of_condition? hvalid]
  refine ⟨matchesAlong_iff, ?_⟩
  intro hone
  exact matchesAlong_eq_holds hone

/-- The second of two teams matches and the first gives the order; with one team both agree, and
with none there is nothing to match. -/
theorem isMatch_follows_chains_of_teams :
    letI : RegexLibrary := .permissive
    let schemas : Schemas := .ofList [⟨"Team", [⟨"lead", .relation "Person"⟩]⟩,
      ⟨"Person", [⟨"age", .integer⟩]⟩]
    let filter := Filter.parse schemas ⟨"Club", [⟨"teams", .relation "Team"⟩]⟩
      "teams__lead__age" ">=18"
    let lead (age : Int64) : Record := .node [("age", .number (.signed age))] [] none
    let team (age : Int64) : Record := .node [] [("lead", [lead age])] none
    let club (teams : List Record) : Record := .node [] [("teams", teams)] none
    let condition : Condition := .atLeast (.signed 18)
    filter.condition? = some condition ∧
      filter.isMatch (club [team 17, team 40]) = true ∧
      condition.holds (filter.path.valueOf (club [team 17, team 40])) = false ∧
      (club [team 40]).IsToOne filter.path.leaf filter.path.hops ∧
      filter.isMatch (club [team 40]) =
        condition.holds (filter.path.valueOf (club [team 40])) ∧
      filter.isMatch (club []) = false := by
  let : RegexLibrary := .permissive
  intro schemas filter lead team club condition
  have hvalid : filter.condition? = some condition := by decide
  have hhops : filter.path.hops = ["teams", "lead"] := by decide
  have hleaf : filter.path.leaf = "age" := by decide
  have hchain : (club [team 17, team 40]).Chain ["teams", "lead"] (lead 40) :=
    .hop (List.mem_cons_of_mem _ List.mem_cons_self) (.hop List.mem_cons_self (.here _))
  have hone : (club [team 40]).IsToOne filter.path.leaf filter.path.hops := by
    rw [hhops, hleaf]
    simp [Record.IsToOne, Record.related, club, team, lead]
  have hmatch := (isMatch_follows_chains hvalid (club [team 17, team 40])).1
  refine ⟨hvalid, hmatch.mpr ⟨lead 40, hhops ▸ hchain, ?_⟩, by decide, hone,
    (isMatch_follows_chains hvalid (club [team 40])).2 hone, by decide⟩
  rw [hleaf]
  decide

end Filter

end RecordQuery
