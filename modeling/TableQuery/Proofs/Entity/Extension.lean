import Mathlib.Data.List.Nodup
import TableQuery.Entity.Extension
import TableQuery.Entity.Registry
import TableQuery.Proofs.Json.Names
import TableQuery.Proofs.Outcomes

/-!
# What configurations keep to

Nothing is wrong with a configuration iff its parts refer to each other as they should
(`EntityConfig.error?_eq_none_iff`): the names of columns are unique, and columns, dependencies of joins, custom filters
and suggestions name what is there. Configurations that extensions make keep to this
(`EntityConfig.consistent_of_extend`).

A configuration may be extended in one go or in stages. Extensions are applied one after the other, so that the second
stage starts where the first one ends (`EntityConfig.applyAll_append`); the check is about the configuration as a whole,
so that the one after the last stage is the only one that counts (`EntityConfig.extend_extend`).
-/

set_option autoImplicit false

namespace TableQuery

namespace EntityConfig

/-- The parts of a configuration refer to each other as they should. -/
structure Consistent (c : EntityConfig) : Prop where
  columnNames : (c.columns.map (·.name)).Nodup
  columnJoin : ∀ col ∈ c.columns, ∀ n ∈ col.join, (c.join? n).isSome
  dictionary : ∀ col ∈ c.columns, col.type.kind.isDict = true → col.dictionary?.isSome
  members : ∀ col ∈ c.columns, col.type.isList = true → col.source.isList = true
  dependsOn : ∀ j ∈ c.joins, ∀ d ∈ j.dependsOn, (c.join? d).isSome
  associatedColumn : ∀ f ∈ c.customFilters, f.associatedColumn ∈ c.columnNames
  suggestedColumns : ∀ names ∈ c.suggestedColumns, ∀ name ∈ names, ∃ n ∈ c.columnNames, name = .str n
  suggestedSort : ∀ s ∈ c.suggestedSort, ∃ n ∈ c.columnNames, s.column = .str n

variable {c : EntityConfig}

/-! ## The checks -/

theorem columnError?_eq_none {before : List String} {col : ColumnDef} :
    c.columnError? before col = none ↔ col.name ∉ before ∧ (∀ n ∈ col.join, (c.join? n).isSome) ∧
      (col.type.kind.isDict = true → col.dictionary?.isSome) ∧
        (col.type.isList = true → col.source.isList = true) := by
  have hjoin : col.join.filter (c.join? · |>.isNone) = none ↔ ∀ n ∈ col.join, (c.join? n).isSome := by
    cases col.join with
    | none => simp
    | some n => simp [Option.isSome_iff_ne_none]
  unfold columnError?
  split
  next hold => simpa using fun hnew => absurd (List.contains_iff_mem.1 hold) hnew
  next hnew =>
    rw [← hjoin]
    cases col.join.filter (c.join? · |>.isNone) with
    | some n => simp
    | none =>
      have hname : col.name ∉ before := by simpa using hnew
      cases col.type.kind.isDict <;> cases col.dictionary? <;> cases col.type.isList <;> cases col.source.isList <;>
        simp [hname]

theorem columnsError?_eq_none {before : List String} {columns : List ColumnDef} :
    c.columnsError? before columns = none ↔
      (columns.map (·.name)).Nodup ∧ ∀ col ∈ columns, c.columnError? before col = none := by
  induction columns generalizing before with
  | nil => simp [columnsError?]
  | cons col columns ih =>
    rw [columnsError?, Option.orElse_eq_or, Option.or_eq_none_iff, ih, List.map_cons, List.nodup_cons,
      List.forall_mem_cons]
    simp only [columnError?_eq_none, List.mem_cons, not_or, List.mem_map]
    constructor
    · rintro ⟨hcol, hnodup, hcolumns⟩
      refine ⟨⟨?_, hnodup⟩, hcol, fun col' hcol' => ?_⟩
      · rintro ⟨col', hcol', hname⟩
        exact (hcolumns col' hcol').1.1 hname
      · exact ⟨(hcolumns col' hcol').1.2, (hcolumns col' hcol').2⟩
    · rintro ⟨⟨hfresh, hnodup⟩, hcol, hcolumns⟩
      refine ⟨hcol, hnodup, fun col' hcol' => ⟨⟨fun hname => ?_, (hcolumns col' hcol').1⟩, (hcolumns col' hcol').2⟩⟩
      exact hfresh ⟨col', hcol', hname⟩

theorem joinsError?_eq_none : c.joinsError? = none ↔ ∀ j ∈ c.joins, ∀ d ∈ j.dependsOn, (c.join? d).isSome := by
  simp [joinsError?, List.findSome?_eq_none_iff, Option.isSome_iff_ne_none]

theorem suggestionError?_eq_none {unknown : Json → ConfigError} {name : Json} :
    c.suggestionError? unknown name = none ↔ ∃ n ∈ c.columnNames, name = .str n := by
  rw [← Json.isIn_str]
  unfold suggestionError?
  split
  next hcontainer =>
    cases name <;> simp_all [Json.isContainer, Json.isIn, Json.same, Json.number?]
  next => split <;> simp_all

/-- **Nothing is wrong with a configuration iff its parts fit together.** -/
theorem error?_eq_none_iff : c.error? = none ↔ c.Consistent := by
  rw [error?]
  simp only [Option.orElse_eq_or, Option.or_eq_none_iff, columnsError?_eq_none, columnError?_eq_none,
    joinsError?_eq_none, Option.map_eq_none_iff, List.find?_eq_none, List.findSome?_eq_none_iff,
    suggestionError?_eq_none]
  constructor
  · rintro ⟨⟨hnames, hcolumns⟩, hjoins, hcustom, hsuggested, hsort⟩
    exact
      { columnNames := hnames
        columnJoin := fun col hcol => (hcolumns col hcol).2.1
        dictionary := fun col hcol => (hcolumns col hcol).2.2.1
        members := fun col hcol => (hcolumns col hcol).2.2.2
        dependsOn := hjoins
        associatedColumn := fun f hf => by simpa using hcustom f hf
        suggestedColumns := fun names hnames name hname => hsuggested name (by rwa [Option.mem_def.1 hnames])
        suggestedSort := hsort }
  · intro h
    refine ⟨⟨h.columnNames, fun col hcol => ?_⟩, h.dependsOn, fun f hf => ?_, fun name hname => ?_, h.suggestedSort⟩
    · exact ⟨List.not_mem_nil, h.columnJoin col hcol, h.dictionary col hcol, h.members col hcol⟩
    · simpa using h.associatedColumn f hf
    · cases hsuggested : c.suggestedColumns with
      | none => rw [hsuggested] at hname; cases hname
      | some names =>
        rw [hsuggested] at hname
        exact h.suggestedColumns names hsuggested name hname

/-- A filter without parameters that lets every row pass. -/
def letsPass (name associatedColumn : String) : CustomFilterDef where
  name
  associatedColumn
  own := some { readParams := fun _ => .ok {}, compile := fun _ => .const true, explained := fun _ => .ok _ }

example : extend {} [.customFilter (letsPass "mine" "owner")] =
    .error (.unknownAssociatedColumn "mine" "owner") := rfl

/-! ## Extended configurations -/

theorem extend_eq_ok {base config : EntityConfig} {extensions : List Extension} :
    base.extend extensions = .ok config ↔ base.applyAll extensions = .ok config ∧ config.error? = none := by
  rw [extend, bind_eq_ok]
  constructor
  · rintro ⟨c, happly, hcheck⟩
    split at hcheck
    next => cases hcheck
    next herror =>
      cases hcheck
      exact ⟨happly, herror⟩
  · rintro ⟨happly, herror⟩
    exact ⟨config, happly, by rw [herror]⟩

/-- **The parts of an extended configuration fit together.** -/
theorem consistent_of_extend {base config : EntityConfig} {extensions : List Extension}
    (h : base.extend extensions = .ok config) : config.Consistent :=
  error?_eq_none_iff.1 (extend_eq_ok.1 h).2

theorem columnNames_nodup_of_extend {base config : EntityConfig} {extensions : List Extension}
    (h : base.extend extensions = .ok config) : (config.columns.map (·.name)).Nodup :=
  (consistent_of_extend h).columnNames

/-! ## Extensions in stages -/

variable {d : EntityConfig} {a : List Extension}

/-- **Extensions are applied one after the other**: those of a second list to what those of the first one make. -/
theorem applyAll_append (c : EntityConfig) (a b : List Extension) :
    c.applyAll (a ++ b) = (c.applyAll a).bind (·.applyAll b) := by
  induction a generalizing c with
  | nil => rfl
  | cons e a ih =>
    rw [List.cons_append, applyAll, applyAll]
    cases c.apply e with
    | error f => rfl
    | ok c' => exact ih c'

/-- **A configuration that is extended twice is the one that is extended by both lists at once.** If it can be extended
by the first list, the second list makes the same configuration of it, or fails with the same error, as both lists make
of the one that they start from. -/
theorem extend_extend (h : c.extend a = .ok d) (b : List Extension) : d.extend b = c.extend (a ++ b) := by
  obtain ⟨happly, -⟩ := extend_eq_ok.1 h
  have hboth : c.applyAll (a ++ b) = d.applyAll b := by
    rw [applyAll_append, happly]
    rfl
  rw [extend, extend, hboth]

/-- A first stage: users with their membership in a facility. -/
def memberStage : List Extension :=
  [Entity.column "name" (.plain .string) (Entity.user "name") true,
    .joined (.plain .bool) Entity.membersJoin "has_facility_admin" "hasFacilityAdmin" .null false]

/-- A second stage: the membership once more, what depends on it, and suggestions for the columns of both stages. -/
def staffStage : List Extension :=
  [.join Entity.membersJoin,
    .joined .momentNullable Entity.staffJoin "deactivated_at" "deactivatedAt" .null false,
    Entity.suggestColumns ["name", "deactivatedAt"]]

/-- Another join under the alias of the membership. -/
def otherMembers : List Extension :=
  [Entity.suggestColumns ["email"], .join { Entity.membersJoin with key := "others" }]

/-- Staff may be added in a second stage, with the columns and joins of both; a second join under one alias is refused
in a second stage as it is in one go, before it is found that a suggested column does not exist. -/
theorem extend_extend_memberStage : ∃ d config, extend {} memberStage = .ok d ∧ d.extend staffStage = .ok config ∧
    extend {} (memberStage ++ staffStage) = .ok config ∧
    config.columnNames = ["name", "hasFacilityAdmin", "deactivatedAt"] ∧
    config.joins.map (·.name) = ["members", "staff_members"] ∧
    d.extend otherMembers = .error (.conflictingJoins "members") ∧
    extend {} (memberStage ++ otherMembers) = .error (.conflictingJoins "members") := by
  obtain ⟨d, hd⟩ : ∃ d, extend {} memberStage = .ok d := ⟨_, rfl⟩
  obtain ⟨config, hconfig, hcolumns, hjoins⟩ : ∃ config, extend {} (memberStage ++ staffStage) = .ok config ∧
      config.columnNames = ["name", "hasFacilityAdmin", "deactivatedAt"] ∧
      config.joins.map (·.name) = ["members", "staff_members"] := ⟨_, rfl, rfl, rfl⟩
  have hother : extend {} (memberStage ++ otherMembers) = .error (.conflictingJoins "members") := rfl
  exact ⟨d, config, hd, (extend_extend hd staffStage).trans hconfig, hconfig, hcolumns, hjoins,
    (extend_extend hd otherMembers).trans hother, hother⟩

end EntityConfig

end TableQuery
