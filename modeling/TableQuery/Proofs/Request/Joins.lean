import TableQuery.Proofs.Entity.Dependencies
import TableQuery.Proofs.Entity.Extension
import TableQuery.Proofs.Request.Plan

/-!
# The joins of a request

The joins that an accepted request needs are joins of its configuration, unless a custom filter asks for another one
(`Request.mem_joins_or_known`). In a configuration whose parts fit together they can be made iff those of custom filters
are known and none of them leads to a circular join (`Request.joinAll_neededJoins`). The check of configurations looks
for neither, so that a configuration may be extended without complaint and still serve no request
(`Request.not_served_circularJoins`).
-/

set_option autoImplicit false

namespace TableQuery

open Sql (Query)

namespace JoinDefs

variable {defs : JoinDefs} {name : String}

theorem known_of_leadsTo (hdeps : ∀ j ∈ defs, ∀ d ∈ j.dependsOn, (defs.named? d).isSome)
    (hname : (defs.named? name).isSome) {n : String} (h : defs.LeadsTo name n) : (defs.named? n).isSome := by
  induction h with
  | refl => exact hname
  | tail _ hstep _ =>
    obtain ⟨j, hj, hd⟩ := hstep
    exact hdeps j (named?_mem hj) _ hd

theorem resolvable_iff (hdeps : ∀ j ∈ defs, ∀ d ∈ j.dependsOn, (defs.named? d).isSome) :
    defs.Resolvable name ↔ (defs.named? name).isSome ∧ ∀ n, defs.LeadsTo name n → ¬ defs.IsCircular n := by
  constructor
  · exact fun h => ⟨(h name .refl).1, fun n hn => (h n hn).2⟩
  · exact fun ⟨hname, hcircle⟩ n hn => ⟨known_of_leadsTo hdeps hname hn, hcircle n hn⟩

end JoinDefs

namespace Request

variable {config : EntityConfig} {maxPageSize payload : Json} {r : Request}

theorem mem_joins_or_known (hconfig : config.Consistent) (hr : r.Accepted config) :
    ∀ n ∈ r.neededJoins config, n ∈ r.filter.joins ∨ (JoinDefs.named? config.joins n).isSome := by
  intro n hn
  rw [neededJoins, List.mem_append, List.mem_append] at hn
  rcases hn with (hn | hn) | hn
  · obtain ⟨j, hj, rfl⟩ := List.mem_map.1 hn
    exact Or.inr (JoinDefs.isSome_named?.2 ⟨j, (List.mem_filter.1 hj).1, rfl⟩)
  · obtain ⟨c, hc, hjoin⟩ := List.mem_filterMap.1 hn
    exact Or.inr (hconfig.columnJoin c (mem_columns hr c hc) n hjoin)
  · exact Or.inl hn

/-- **Which requests can be served.** In an extended configuration the joins of an accepted request can be made iff
those that its custom filters ask for are known and none that it needs leads to a circular one. If they cannot, the
error names the unknown join, or tells the way from a needed join into a circle. -/
theorem joinAll_neededJoins {base : EntityConfig} {extensions : List Extension}
    (hconfig : base.extend extensions = .ok config) (hr : ofJson config maxPageSize payload = .ok (.ok r)) (q : Query)
    (hq : q.joins = []) :
    ((q.joinAll config.joins (r.neededJoins config)).2 = none ↔
      (∀ n ∈ r.filter.joins, (JoinDefs.named? config.joins n).isSome) ∧
        ∀ n ∈ r.neededJoins config, ∀ m, JoinDefs.LeadsTo config.joins n m → ¬ JoinDefs.IsCircular config.joins m) ∧
      ∀ error, (q.joinAll config.joins (r.neededJoins config)).2 = some error →
        (∃ n ∈ r.filter.joins, JoinDefs.named? config.joins n = none ∧ error = .unknownJoin n) ∨
          ∃ n ∈ r.neededJoins config, ∃ way last, [n] <+: way ++ [last] ∧ last ∈ way ∧
            (way ++ [last]).IsChain (JoinDefs.DependsOn config.joins) ∧ error = .circularJoin (way ++ [last]) := by
  have hconsistent := EntityConfig.consistent_of_extend hconfig
  obtain ⟨d, -, hcheck⟩ := ofJson_eq_ok.1 hr
  have hneeded := mem_joins_or_known hconsistent (accepted_of_check hcheck)
  have hjoined : q.joined = [] := by rw [Query.joined, hq, List.map_nil]
  have hall : (q.joinAll config.joins (r.neededJoins config)).2 =
      (JoinDefs.reachAll config.joins [] [] (r.neededJoins config)).2 := by rw [Query.joinAll, hjoined]
  rw [hall]
  refine ⟨?_, fun error herror => ?_⟩
  · rw [JoinDefs.reachAll_eq_none_iff .nil]
    simp only [JoinDefs.resolvable_iff hconsistent.dependsOn]
    constructor
    · intro h
      exact ⟨fun n hn => (h n (List.mem_append_right _ hn)).1, fun n hn => (h n hn).2⟩
    · rintro ⟨hknown, hcircle⟩ n hn
      exact ⟨(hneeded n hn).elim (hknown n) id, hcircle n hn⟩
  · obtain ⟨n, hn, hblocked⟩ := JoinDefs.reachAll_blocked [] [] _ (fun n _ => .singleton n) herror
    cases hblocked with
    | @unknown before name hway hchain hnone =>
      -- A known join leads to known ones, so that the unknown one is that of a custom filter itself.
      have hunknown : ¬ (JoinDefs.named? config.joins n).isSome := by
        intro hknown
        have hend := JoinDefs.known_of_leadsTo hconsistent.dependsOn hknown (JoinDefs.leadsTo_of_isChain hway hchain)
        rw [hnone] at hend
        cases hend
      have hname : name = n := by
        rcases Relation.ReflTransGen.cases_head (JoinDefs.leadsTo_of_isChain hway hchain) with rfl | ⟨m, ⟨j, hj, -⟩, -⟩
        · rfl
        · rw [hj] at hunknown
          exact absurd rfl hunknown
      exact Or.inl ⟨n, (hneeded n hn).resolve_right hunknown, hname ▸ hnone, hname ▸ rfl⟩
    | @circular way last hway hchain hmem => exact Or.inr ⟨n, hn, way, last, hway, hmem, hchain, rfl⟩

/-- A join that tells which attendants of meetings run a facility, after the join of the attendants. -/
def attendantMemberships : List Extension :=
  [.joined (.plain .bool) (Entity.joinOn .members "attendant_member" "user_id" ⟨"attendant", "id"⟩ ["attendant"])
    "has_facility_admin" "attendant.isAdmin" .null false]

/-- A request for the meetings that a user and an administrator attend. -/
def attendedByAdmin : Json :=
  .obj [("columns", .arr [columnEntry (.str "date"), columnEntry (.str "attendant.isAdmin")]),
    ("filter", .obj [("type", .str "op"), ("op", .str "&"), ("val", .arr [
      .obj [("type", .str "custom"), ("customFilter", .str "isAttendant"),
        ("params", .obj [("userIds", .arr [.str "0000000d-0000-4000-8000-000000000001"])])],
      .obj [("type", .str "global"), ("op", .str "%v%"), ("val", .str "anna")]])]),
    ("sort", .arr [sortEntry (.str "attendant.isAdmin") true]),
    ("paging", .obj [("number", .int 1), ("size", .int 10)])]

/-- The joins of this request can be made, although one of them leads to two others. -/
theorem joinAll_neededJoins_attendedByAdmin : ∃ config r,
    Entity.meetingAttendants.config.extend attendantMemberships = .ok config ∧
      ofJson config (.int 1000) attendedByAdmin = .ok (.ok r) ∧ "attendant_member" ∈ r.neededJoins config ∧
        (Query.joinAll { base := Entity.meetingAttendants.base } config.joins (r.neededJoins config)).2 = none := by
  have hconfig : Entity.meetingAttendants.config.extend attendantMemberships =
      .ok (Entity.meetingAttendants.config.extended attendantMemberships) := rfl
  obtain ⟨r, hr, hcustom, hneeded⟩ : ∃ r, ofJson (Entity.meetingAttendants.config.extended attendantMemberships)
      (.int 1000) attendedByAdmin = .ok (.ok r) ∧ r.filter.joins = [] ∧
        "attendant_member" ∈ r.neededJoins (Entity.meetingAttendants.config.extended attendantMemberships) :=
    exists_ofJson (by decide +kernel)
  have hranked : JoinDefs.Ranked (Entity.meetingAttendants.config.extended attendantMemberships).joins
      (JoinDefs.position (Entity.meetingAttendants.config.extended attendantMemberships).joins) := by
    unfold JoinDefs.Ranked
    decide +kernel
  obtain ⟨hserved, -⟩ := joinAll_neededJoins hconfig hr { base := Entity.meetingAttendants.base } rfl
  refine ⟨_, r, hconfig, hr, hneeded, hserved.2 ⟨?_, fun n _ m _ => hranked.not_isCircular m⟩⟩
  rw [hcustom]
  exact fun n hn => by cases hn

/-- Two joins of which each depends on the other. -/
def circularJoins : List Extension :=
  [Entity.column "id" (.plain .uuid) (Entity.user "id"),
    .join (Entity.joinOn .members "members" "user_id" (Entity.user "id") ["clients"] true),
    .join (Entity.joinOn .clients "clients" "id" ⟨"members", "client_id"⟩ ["members"])]

/-- A request for the identifiers of all rows. -/
def allIds : Json :=
  .obj [("columns", .arr [columnEntry (.str "id")]), ("paging", .obj [("number", .int 1), ("size", .int 10)])]

/-- **An extended configuration need not be able to serve a request.** A configuration may be extended by joins that
depend on each other. A request for all identifiers is accepted, but the join that it needs leads back to itself. -/
theorem not_served_circularJoins : ∃ config r, EntityConfig.extend {} circularJoins = .ok config ∧
    ofJson config (.int 1000) allIds = .ok (.ok r) ∧ ∀ q : Query, q.joins = [] →
      (q.joinAll config.joins (r.neededJoins config)).2 = some (.circularJoin ["members", "clients", "members"]) := by
  have hconfig : EntityConfig.extend {} circularJoins = .ok (EntityConfig.extended {} circularJoins) := rfl
  obtain ⟨r, hr, hneeded⟩ : ∃ r, ofJson (EntityConfig.extended {} circularJoins) (.int 1000) allIds = .ok (.ok r) ∧
      r.neededJoins (EntityConfig.extended {} circularJoins) = ["members"] := exists_ofJson (by decide +kernel)
  refine ⟨_, r, hconfig, hr, fun q hq => ?_⟩
  have hmembers : JoinDefs.named? (EntityConfig.extended {} circularJoins).joins "members" =
      some (Entity.joinOn .members "members" "user_id" (Entity.user "id") ["clients"] true) := rfl
  have hclients : JoinDefs.named? (EntityConfig.extended {} circularJoins).joins "clients" =
      some (Entity.joinOn .clients "clients" "id" ⟨"members", "client_id"⟩ ["members"]) := rfl
  rw [hneeded, Query.joinAll, Query.joined, hq, List.map_nil, JoinDefs.reachAll,
    JoinDefs.reach_of_named? hmembers (by decide) (by decide), Entity.joinOn, JoinDefs.reachAll,
    JoinDefs.reach_of_named? hclients (by decide) (by decide), Entity.joinOn, JoinDefs.reachAll,
    JoinDefs.reach_of_mem_path (by decide) (by decide)]
  rfl

end Request

end TableQuery
