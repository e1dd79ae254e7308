import TableQuery.Proofs.Column.Lists
import TableQuery.Proofs.Filter.Relations
import TableQuery.Proofs.Request.Grammar
import TableQuery.Proofs.Request.Pages

/-!
# Lists in the rows of an answer

The cell of a list column has the members of the row in increasing order (`Request.lists_of_request`). A member that is
there more than once stands in the cell as often, so that the cell is strictly increasing iff no member is repeated.
-/

set_option autoImplicit false

namespace TableQuery

open Sql (Env Query Store Value slice)

namespace Request

variable {e : Entity} {r : Request} {maxPageSize : Json} {d : DataRequest}

theorem distinct_of_list (hr : check e.config maxPageSize d = .ok (.ok r)) {c : ColumnDef} (hc : c ∈ r.select)
    (hlist : c.type.isList = true) : d.distinct = false := by
  obtain ⟨herrors, -, _, _, -, -, rfl⟩ := check_eq_ok.1 hr
  rw [← Bool.not_eq_true]
  intro hd
  have hnot := (((columns_of_ofNames herrors).2.2 c hc).2).noList hd
  rw [hlist] at hnot
  cases hnot

/-- **The cells of a list column are its members in increasing order.** Each row of data has the texts of the members of
a row of the request, if they are not empty and have no commas: as often as they are there, so that the cell is strictly
increasing iff none is repeated, and empty iff there are none. The request is answered if the cells of the store match
their columns and the store takes the clauses and the numbers of the request. -/
theorem lists_of_request (he : e ∈ Entity.all) (s : Service) (facility : Option String)
    (hr : check e.config maxPageSize d = .ok (.ok r)) {c : ColumnDef} (hc : c ∈ r.select)
    (hlist : c.type.isList = true) (hstore : s.store.Filled) :
    ∃ m, c.source = .members m ∧ ∃ rows : List Env, rows.Perm (r.rowsIn e facility s.store) ∧
      (∀ p response, s.answer e facility maxPageSize { d with paging := p } = .ok response →
        List.Forall₂ (fun env fields =>
          let texts := m.texts s.store env
          (∀ x ∈ texts, x ≠ "" ∧ ',' ∉ x.toList) →
          ∃ shown : List String, fields.lookup c.name = some (.arr (shown.map .str)) ∧ shown.Perm texts ∧
            shown.Pairwise (· ≤ ·) ∧ (shown.Pairwise (· < ·) ↔ texts.Nodup) ∧
            (shown = [] ↔ m.values s.store env = []))
          (slice p.start.toNat p.size.toNat rows) response.data) ∧
      (s.store.Typed → r.Taken e facility → ∀ p, pagingErrors maxPageSize p = .ok [] →
        Value.fitsStore p.size = true → Value.fitsStore p.start = true →
        ∃ response, s.answer e facility maxPageSize { d with paging := p } = .ok response) := by
  have hmem := (accepted_of_check hr).select c hc
  obtain ⟨m, hm, -⟩ := ColumnFilter.members_of_isList ((Entity.wellFormed_of_mem e he).suits c hmem) hlist
  have hscalar : c.scalar = .joined m := by rw [ColumnDef.scalar, hm, Sql.Source.scalar]
  have hfilled : m.isFilled = true :=
    Entity.isFilled_of_mem e he c hmem m (by rw [hscalar]; exact List.mem_singleton_self m)
  have hd := distinct_of_list hr hc hlist
  obtain ⟨rows, hperm, hshows⟩ := rows_of_answer he s facility hr hd
  refine ⟨m, hm, rows, hperm, fun p response h => (hshows p response h).imp fun env fields hrow htexts => ?_,
    fun hstore htaken p hp => exists_answer he hr hstore htaken hp⟩
  obtain ⟨j, hlookup, hrender⟩ := hrow c hc (isData_of_check hr hd c hc)
  rw [hscalar, Sql.Scalar.value] at hrender
  obtain ⟨shown, rfl, htextsPerm, hsorted⟩ := Sql.Members.render_joinedValue hlist htexts hrender
  refine ⟨shown, hlookup, htextsPerm, hsorted, ?_, ?_⟩
  · rw [pairwise_lt_iff_nodup hsorted, htextsPerm.nodup_iff]
  · have hthere : ∀ v ∈ m.values s.store env, v ≠ .null := fun v hv =>
      Sql.Members.ne_null_of_mem_values hfilled hstore hv
    rw [← Sql.Members.texts_eq_nil_iff hthere]
    exact ⟨fun h => List.nil_perm.1 (h ▸ htextsPerm), fun h => List.perm_nil.1 (h ▸ htextsPerm)⟩

/-- A request for meetings with those who attend them. -/
def attendance : DataRequest where
  columns := ["date", "attendants"]
  paging := { size := 10, number := some 1 }

/-- Every meeting of the sample data is shown with two different attendants. -/
theorem lists_of_request_attendance : ∃ (r : Request) (response : Response),
    check Entity.meetings.config (.int 1000) attendance = .ok (.ok r) ∧
    Service.answer { store := Entity.sampleStore } Entity.meetings (some Sample.facility) (.int 1000) attendance =
      .ok response ∧
    ∀ fields ∈ response.data, ∃ a b : String, fields.lookup "attendants" = some (.arr [.str a, .str b]) ∧ a < b := by
  have he : Entity.meetings ∈ Entity.all := by simp [Entity.all]
  obtain ⟨r, hcheck, htaken, hjoins, hrows, c, hc, hlist, hname, hsource⟩ : ∃ r,
      check Entity.meetings.config (.int 1000) attendance = .ok (.ok r) ∧
        r.Taken Entity.meetings (some Sample.facility) ∧ r.neededJoins Entity.meetings.config = [] ∧
        (∀ env ∈ r.plainRowsIn Entity.meetings (some Sample.facility) Entity.sampleStore,
          (∀ x ∈ (Entity.attendants []).texts Entity.sampleStore env, x ≠ "" ∧ ',' ∉ x.toList) ∧
            ((Entity.attendants []).texts Entity.sampleStore env).Nodup ∧
            ((Entity.attendants []).texts Entity.sampleStore env).length = 2) ∧
        ∃ c ∈ r.select, c.type.isList = true ∧ c.name = "attendants" ∧ c.source = .members (Entity.attendants []) :=
    exists_check (by decide +kernel)
  rw [← rowsIn_eq_plain hjoins] at hrows
  obtain ⟨m, hm, rows, hperm, hshown, hanswered⟩ := lists_of_request he { store := Entity.sampleStore }
    (some Sample.facility) hcheck hc hlist Entity.filled_sampleStore
  obtain rfl : m = Entity.attendants [] := Sql.Source.members.inj (hm.symm.trans hsource)
  obtain ⟨response, hresponse⟩ := hanswered Entity.typed_sampleStore htaken attendance.paging (check_eq_ok.1 hcheck).2.1
    rfl rfl
  refine ⟨r, response, hcheck, hresponse, fun fields hfields => ?_⟩
  obtain ⟨env, henv, hrow⟩ := exists_of_mem_forall₂ (hshown _ _ hresponse) hfields
  obtain ⟨htexts, hnodup, htwo⟩ := hrows env (hperm.mem_iff.1 (Sql.slice_subset _ _ _ henv))
  obtain ⟨shown, hlookup, htextsPerm, -, hstrict, -⟩ := hrow htexts
  obtain ⟨a, b, rfl⟩ := List.length_eq_two.1 (htextsPerm.length_eq.trans htwo)
  rw [hname] at hlookup
  exact ⟨a, b, hlookup, List.rel_of_pairwise_cons (hstrict.2 hnodup) (List.mem_singleton_self b)⟩

/-- A request for users with their facilities. -/
def memberships : DataRequest where
  columns := ["facilities"]
  paging := { size := 10, number := some 1 }

/-- A user who is a member of one facility twice. -/
def memberTwice : Store where
  tables := [(TableDef.users.name, [[("id", .text (Sample.id 'd' 1)), ("name", .text "Anna")]]),
    (TableDef.members.name, [
      [("id", .text (Sample.id '1' 1)), ("user_id", .text (Sample.id 'd' 1)), ("facility_id", .text Sample.facility)],
      [("id", .text (Sample.id '1' 2)), ("user_id", .text (Sample.id 'd' 1)), ("facility_id", .text Sample.facility)]])]

/-- **A cell can have one member twice.** The one user is a member of the facility and of nothing else, and is shown
with the facility twice. -/
theorem not_pairwise_lt_memberTwice : ∃ (r : Request) (response : Response) (fields : Fields),
    check Entity.users.config (.int 1000) memberships = .ok (.ok r) ∧
    Service.answer { store := memberTwice } Entity.users none (.int 1000) memberships = .ok response ∧
    (∀ env ∈ r.rowsIn Entity.users none memberTwice, Entity.facilityMembers.valueSet memberTwice env =
      {.text Sample.facility}) ∧
    response.data = [fields] ∧
    fields.lookup "facilities" = some (.arr [.str Sample.facility, .str Sample.facility]) := by
  have he : Entity.users ∈ Entity.all := by simp [Entity.all]
  obtain ⟨r, hcheck, htaken, hjoins, hlength, hvalues, c, hc, hlist, hdata, hname, hsource⟩ : ∃ r,
      check Entity.users.config (.int 1000) memberships = .ok (.ok r) ∧ r.Taken Entity.users none ∧
        r.neededJoins Entity.users.config = [] ∧ (r.plainRowsIn Entity.users none memberTwice).length = 1 ∧
        (∀ env ∈ r.plainRowsIn Entity.users none memberTwice,
          Entity.facilityMembers.values memberTwice env = [.text Sample.facility, .text Sample.facility]) ∧
        ∃ c ∈ r.select, c.type.isList = true ∧ c.isData = true ∧ c.name = "facilities" ∧
          c.source = .members Entity.facilityMembers := exists_check (by decide +kernel)
  rw [← rowsIn_eq_plain hjoins] at hlength hvalues
  obtain ⟨env, response, fields, hrows, hresponse, hfields, hrow⟩ := exists_answeredByOne
    (s := { store := memberTwice }) he hcheck rfl (by decide +kernel) htaken rfl rfl hlength
  have hvalue := hvalues env (hrows ▸ List.mem_singleton_self env)
  refine ⟨r, response, fields, hcheck, hresponse, fun env' henv' => ?_, hfields, ?_⟩
  · rw [Sql.Members.valueSet, hvalues env' henv']
    simp
  · obtain ⟨j, hlookup, hrender⟩ := hrow c hc hdata
    have htexts : Entity.facilityMembers.texts memberTwice env = List.replicate 2 Sample.facility := by
      rw [Sql.Members.texts, hvalue]
      rfl
    have hplain : ∀ x ∈ Entity.facilityMembers.texts memberTwice env, x ≠ "" ∧ ',' ∉ x.toList := by
      rw [htexts]
      decide
    rw [ColumnDef.scalar, hsource, Sql.Source.scalar, Sql.Scalar.value] at hrender
    obtain ⟨shown, rfl, hshown, -⟩ := Sql.Members.render_joinedValue hlist hplain hrender
    rw [htexts, List.perm_replicate] at hshown
    rw [← hname, hlookup, hshown]
    rfl

end Request

end TableQuery
