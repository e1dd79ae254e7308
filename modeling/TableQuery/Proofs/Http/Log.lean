import TableQuery.Proofs.Http.Course
import TableQuery.Proofs.Http.Records
import TableQuery.Proofs.Store.Tenant

/-!
# What is written into the request log

The layers of the server agree on who writes a request down. A request for a logged path leaves one row, with the
status of its answer and the facility and the entity of its route, unless a handler has written down a failure whose
answer then cannot be encoded: that leaves two rows (`Server.rows_of_logged`). A request for an excluded path leaves
rows nevertheless if it fails, for the handlers do not look at the path (`Server.rows_of_excluded`).
-/

set_option autoImplicit false

namespace TableQuery.Http

open Sql (Row Store Value)

/-! ## Cells -/

namespace LogEntry

variable (e : LogEntry) (t : Timing) (id : Int)

@[simp] theorem cell_method : Row.cell (e.row t id) "method" = .text e.method := rfl

@[simp] theorem cell_path : Row.cell (e.row t id) "path" = .text e.path := rfl

@[simp] theorem cell_facility : Row.cell (e.row t id) "facility_id" = storedText e.facility := rfl

@[simp] theorem cell_entity : Row.cell (e.row t id) "entity" = storedText e.entity := rfl

@[simp] theorem cell_status : Row.cell (e.row t id) "status_code" = .int e.status := rfl

@[simp] theorem cell_requestBody : Row.cell (e.row t id) "request_body" = storedText e.requestBody := rfl

@[simp] theorem cell_errorName : Row.cell (e.row t id) "error_type" = storedText e.errorName := rfl

@[simp] theorem cell_time : Row.cell (e.row t id) "processing_time" =
    if e.timed then StoredKind.real.prefer (.real t.milliseconds) else .null := rfl

end LogEntry

namespace Server

variable {s : Service} {r : HttpRequest} {a : HttpAnswer}

/-! ## Entries -/

def EntryTells (r : HttpRequest) (e : LogEntry) : Prop :=
  e.method = r.method ∧ e.path = r.shownPath ∧ (e.facility, e.entity) = Route.subject r.shownPath

theorem entryTells_entry (status : Nat) (body : String) : EntryTells r (entry s r status body) := by
  unfold EntryTells entry
  dsimp only
  exact ⟨rfl, rfl, Prod.mk.eta⟩

theorem entryTells_failureEntry (p : Refusal) : EntryTells r (failureEntry s r p) := by
  unfold EntryTells failureEntry
  dsimp only
  exact entryTells_entry p.answer.status (p.loggedBody.write .indented)

theorem status_entry (status : Nat) (body : String) : (entry s r status body).status = status := by
  unfold entry
  rfl

theorem status_failureEntry (p : Refusal) : (failureEntry s r p).status = p.answer.status := by
  unfold failureEntry
  dsimp only
  exact status_entry p.answer.status (p.loggedBody.write .indented)

/-- A handler has written a failure down, and the answer to it cannot be encoded. -/
def IsStuck (s : Service) (r : HttpRequest) : Prop :=
  ∃ p, respond s r = .error p ∧ p.isProvided = true ∧ p.answer.body.isEncodable = false

/-- The request is answered, and no handler writes a failure down. -/
def IsAnswered (s : Service) (r : HttpRequest) : Prop :=
  (∃ a, respond s r = .ok a ∧ a.body.isEncodable = true) ∨ respond s r = .error .unreadable

variable {entries : List LogEntry}

theorem Ends.tells (h : Ends s r a entries) :
    ∀ e ∈ entries, EntryTells r e ∧ Value.fitsStore e.status = true := by
  have hfailure : ∀ p, EntryTells r (failureEntry s r p) ∧ Value.fitsStore (failureEntry s r p).status = true :=
    fun p => ⟨entryTells_failureEntry p, by rw [status_failureEntry]; exact p.fits_status⟩
  intro e he
  cases h with
  | answered hrespond _ =>
    have hstatus : Value.fitsStore a.status = true := by
      rcases hrespond with hrespond | ⟨-, rfl⟩
      · exact status_of_respond hrespond
      · rfl
    rw [answerEntries] at he
    split at he
    · obtain rfl := List.mem_singleton.1 he
      exact ⟨entryTells_entry _ _, by rw [status_entry]; exact hstatus⟩
    · cases he
  | provided _ _ _ | unforeseen _ =>
    obtain rfl := List.mem_singleton.1 he
    exact hfailure _
  | stuck _ _ _ =>
    simp only [List.mem_cons, List.not_mem_nil, or_false] at he
    rcases he with rfl | rfl
    · exact hfailure _
    · exact hfailure _

/-- **The statuses in the log** of a request for a logged path: that of the answer, and before it that of the failure
whose answer could not be encoded. -/
theorem Ends.statuses (h : Ends s r a entries) (hlogged : isLogged r.shownPath = true) :
    (¬ IsStuck s r → entries.map (·.status) = [a.status]) ∧
      (IsStuck s r → ∃ p, respond s r = .error p ∧ entries.map (·.status) = [p.answer.status, a.status]) := by
  cases h with
  | answered hrespond ha =>
    refine ⟨fun _ => ?_, fun ⟨p, hp, hprovided, _⟩ => ?_⟩
    · rw [answerEntries, if_pos hlogged, List.map_singleton, status_entry]
    · rcases hrespond with hrespond | ⟨hrespond, -⟩
      · rw [hrespond] at hp
        cases hp
      · rw [hrespond] at hp
        cases hp
        cases hprovided
  | provided hrespond hprovided ha =>
    refine ⟨fun _ => ?_, fun ⟨p, hp, _, hstuck⟩ => ?_⟩
    · rw [List.map_singleton, status_failureEntry]
    · rw [hrespond] at hp
      cases hp
      rw [ha] at hstuck
      cases hstuck
  | stuck hrespond hprovided ha =>
    refine ⟨fun h => absurd ⟨_, hrespond, hprovided, ha⟩ h, fun _ => ⟨_, hrespond, ?_⟩⟩
    rw [List.map_cons, List.map_singleton, status_failureEntry, status_failureEntry]
  | unforeseen hcause =>
    refine ⟨fun _ => ?_, fun ⟨p, hp, hprovided, _⟩ => ?_⟩
    · rw [List.map_singleton, status_failureEntry]
    · rcases hcause with ⟨hrespond, hnot⟩ | ⟨-, _, hrespond, -⟩
      · rw [hrespond] at hp
        cases hp
        rw [hnot] at hprovided
        cases hprovided
      · rw [hrespond] at hp
        cases hp

/-- **A request for a path that is not logged leaves no entry** iff it is answered without a failure; what it leaves
tells of failures. -/
theorem Ends.failures (h : Ends s r a entries) (hlogged : isLogged r.shownPath = false) :
    (entries = [] ↔ IsAnswered s r) ∧ ∀ e ∈ entries, ∃ p : Refusal, p ≠ .unreadable ∧ e = failureEntry s r p := by
  have hnot : ∀ {p : Refusal}, respond s r = .error p → p.isProvided = true → ¬ IsAnswered s r := by
    rintro p hp hprovided (⟨a, hrespond, -⟩ | hrespond)
    · rw [hrespond] at hp
      cases hp
    · rw [hrespond] at hp
      cases hp
      cases hprovided
  have hreadable : ∀ {p : Refusal}, p.isProvided = true → p ≠ .unreadable := by
    rintro p hp rfl
    cases hp
  cases h with
  | answered hrespond ha =>
    rw [answerEntries, if_neg (by rw [hlogged]; exact Bool.false_ne_true)]
    refine ⟨iff_of_true rfl ?_, List.forall_mem_nil _⟩
    rcases hrespond with hrespond | ⟨hrespond, -⟩
    · exact Or.inl ⟨a, hrespond, ha⟩
    · exact Or.inr hrespond
  | provided hrespond hprovided _ =>
    refine ⟨iff_of_false (List.cons_ne_nil _ _) (hnot hrespond hprovided), fun e he => ?_⟩
    exact ⟨_, hreadable hprovided, List.mem_singleton.1 he⟩
  | stuck hrespond hprovided _ =>
    refine ⟨iff_of_false (List.cons_ne_nil _ _) (hnot hrespond hprovided), fun e he => ?_⟩
    rcases List.mem_cons.1 he with rfl | he
    · exact ⟨_, hreadable hprovided, rfl⟩
    · exact ⟨unencodable, Refusal.noConfusion, List.mem_singleton.1 he⟩
  | unforeseen hcause =>
    refine ⟨iff_of_false (List.cons_ne_nil _ _) ?_, fun e he =>
      ⟨.failed _, Refusal.noConfusion, List.mem_singleton.1 he⟩⟩
    rintro (⟨a, hrespond, ha⟩ | hrespond)
    · rcases hcause with ⟨hp, -⟩ | ⟨-, b, hb, hnot⟩
      · rw [hrespond] at hp
        cases hp
      · rw [hrespond] at hb
        cases hb
        rw [ha] at hnot
        cases hnot
    · rcases hcause with ⟨hp, -⟩ | ⟨-, b, hb, -⟩
      · rw [hrespond] at hp
        cases hp
      · rw [hrespond] at hb
        cases hb

/-! ## Rows -/

/-- A row tells the request: its method and path, and the facility and the entity of its route, if the path is
written without escapes. -/
structure Tells (r : HttpRequest) (row : Row) : Prop where
  method : Row.cell row "method" = .text r.method
  path : Row.cell row "path" = .text r.shownPath
  route : r.IsPlain → ∀ route ∈ Route.ofPath? r.path,
    Row.cell row "facility_id" = storedText route.facility? ∧ Row.cell row "entity" = .text route.entityName

theorem tells_row {e : LogEntry} (h : EntryTells r e) (t : Timing) (id : Int) : Tells r (e.row t id) := by
  obtain ⟨hmethod, hpath, hsubject⟩ := h
  refine ⟨by rw [LogEntry.cell_method, hmethod], by rw [LogEntry.cell_path, hpath], fun hplain route hroute => ?_⟩
  rw [HttpRequest.shownPath_of_isPlain hplain, Route.subject_of_ofPath? hroute] at hsubject
  obtain ⟨hfacility, hentity⟩ := Prod.mk.inj hsubject
  rw [LogEntry.cell_facility, LogEntry.cell_entity, hfacility, hentity]
  exact ⟨rfl, rfl⟩

variable {t : Timing} {rows : List Row}

theorem Rows.statuses (h : Rows t entries rows) :
    rows.map (Row.cell · "status_code") = entries.map fun e => .int e.status := by
  induction h with
  | nil => rfl
  | cons hrow _ ih =>
    obtain ⟨id, rfl⟩ := hrow
    rw [List.map_cons, List.map_cons, ih, LogEntry.cell_status]

theorem Rows.exists_entry (h : Rows t entries rows) {row : Row} (hrow : row ∈ rows) :
    ∃ e ∈ entries, ∃ id, row = LogEntry.row t id e :=
  exists_of_mem_forall₂ h hrow

theorem Rows.eq_nil_iff (h : Rows t entries rows) : rows = [] ↔ entries = [] := by
  cases h with
  | nil => exact iff_of_true rfl rfl
  | cons _ _ => exact iff_of_false nofun nofun

theorem handle_eq (s : Service) (t : Timing) (r : HttpRequest) : handle s t r =
    ((answer s r).1, (answer s r).2, { s with store := (answer s r).2.foldl (record t) s.store }) := by
  rw [handle]

theorem Ends.length_le (h : Ends s r a entries) : entries.length ≤ 2 := by
  cases h with
  | answered _ _ =>
    rw [answerEntries]
    split <;> simp
  | provided _ _ _ | stuck _ _ _ | unforeseen _ => simp

/-- What the log holds after a request: the rows of its entries after those that were there. -/
theorem exists_rows (hpre : preflight? r = none) (hroom : s.store.HasRoom TableDef.log.name 2) :
    ∃ rows, Rows t (answer s r).2 rows ∧ ∀ table, (handle s t r).2.2.store.rows table =
      if table = TableDef.log.name then s.store.rows TableDef.log.name ++ rows else s.store.rows table := by
  have hends := ends_answer (s := s) hpre
  have hlength := hends.length_le
  have hroom : s.store.HasRoom TableDef.log.name (answer s r).2.length := by
    obtain ⟨hlow, hhigh⟩ := hroom
    exact ⟨hlow, by omega⟩
  rw [handle_eq]
  exact rows_record (fun e he => (hends.tells e he).2) hroom

/-- **A request for a logged path is logged once**: whatever comes of it, one row is added to the log, with the
status of the answer, and no other table changes. If a handler has written down a failure and its answer cannot be
encoded, it is logged twice. -/
theorem rows_of_logged (hpre : preflight? r = none) (hlogged : isLogged r.shownPath = true)
    (hroom : s.store.HasRoom TableDef.log.name 2) :
    ∃ rows, (∀ table, (handle s t r).2.2.store.rows table =
        if table = TableDef.log.name then s.store.rows TableDef.log.name ++ rows else s.store.rows table) ∧
      (∀ row ∈ rows, Tells r row) ∧
      (¬ IsStuck s r → rows.map (Row.cell · "status_code") = [.int (handle s t r).1.status]) ∧
      (IsStuck s r → ∃ p, respond s r = .error p ∧
        rows.map (Row.cell · "status_code") = [.int p.answer.status, .int (handle s t r).1.status]) := by
  obtain ⟨rows, hrows, hstore⟩ := exists_rows (t := t) hpre hroom
  have hends := ends_answer (s := s) hpre
  obtain ⟨honce, htwice⟩ := hends.statuses hlogged
  have hstatuses : rows.map (Row.cell · "status_code") = ((answer s r).2.map (·.status)).map fun n => .int n := by
    rw [hrows.statuses, List.map_map]
    rfl
  refine ⟨rows, hstore, fun row hrow => ?_, fun h => ?_, fun h => ?_⟩
  · obtain ⟨e, he, id, rfl⟩ := hrows.exists_entry hrow
    exact tells_row (hends.tells e he).1 t id
  · rw [hstatuses, honce h, handle_eq, List.map_singleton]
  · obtain ⟨p, hp, hentries⟩ := htwice h
    exact ⟨p, hp, by rw [hstatuses, hentries, handle_eq, List.map_cons, List.map_singleton]⟩

def schemaRequest : HttpRequest := { method := "GET", target := "/api/admin/users/tquery" }

/-- At midnight, and taking a millisecond. -/
def someTiming : Timing := ⟨.midnight default, .ofInt 1⟩

/-- A request for a schema is logged. -/
theorem rows_of_logged_schema :
    ∃ rows, (∀ table, (handle {} someTiming schemaRequest).2.2.store.rows table =
        if table = TableDef.log.name then ({} : Store).rows TableDef.log.name ++ rows else ({} : Store).rows table) ∧
      (∀ row ∈ rows, Tells schemaRequest row) ∧
      (¬ IsStuck {} schemaRequest →
        rows.map (Row.cell · "status_code") = [.int (handle {} someTiming schemaRequest).1.status]) ∧
      (IsStuck {} schemaRequest → ∃ p, respond {} schemaRequest = .error p ∧ rows.map (Row.cell · "status_code") =
        [.int p.answer.status, .int (handle {} someTiming schemaRequest).1.status]) :=
  rows_of_logged (by decide +kernel) (by decide +kernel) (by decide)

/-- A filter inside an operation has a field whose name is half of a surrogate pair. -/
def strayRequest : HttpRequest :=
  { method := "POST", target := "/api/admin/users/tquery", headers := [("content-type", "application/json")],
    body := "\x7b\"columns\":[\x7b\"column\":\"id\"\x7d],\"filter\":\x7b\"type\":\"op\",\"op\":\"&\"," ++
      "\"val\":[\x7b\"type\":\"global\",\"\\ud800\":1\x7d]\x7d,\"paging\":\x7b\"size\":1\x7d\x7d" }

/-- It is logged twice: as it is refused, and when the refusal turns out not to be encodable. -/
theorem logged_twice_strayField : preflight? strayRequest = none ∧ isLogged strayRequest.shownPath = true ∧
    (handle {} someTiming strayRequest).1.status = 500 ∧
    ((handle {} someTiming strayRequest).2.2.store.rows TableDef.log.name).map (Row.cell · "status_code") =
      [.int 422, .int 500] := by
  decide +kernel

/-- What a handler logs about a request for a path that is not logged. -/
theorem cells_failureEntry {p : Refusal} (hp : p ≠ .unreadable) (hnot : isLogged r.shownPath = false) (t : Timing)
    (id : Int) :
    Row.cell ((failureEntry s r p).row t id) "error_type" ≠ .null ∧
      Row.cell ((failureEntry s r p).row t id) "request_body" = .null ∧
      Row.cell ((failureEntry s r p).row t id) "processing_time" = .null := by
  have hbody : (failureEntry s r p).requestBody = none := by
    unfold failureEntry entry
    dsimp only
    rw [if_neg (by rw [hnot]; exact Bool.false_ne_true)]
  have hname : ∃ name, (failureEntry s r p).errorName = some name := by
    unfold failureEntry
    cases p with
    | unreadable => exact absurd rfl hp
    | badRequest es | failed f => exact ⟨_, rfl⟩
  have htimed : (failureEntry s r p).timed = false := by
    unfold failureEntry
    rfl
  obtain ⟨name, hname⟩ := hname
  rw [LogEntry.cell_errorName, LogEntry.cell_requestBody, LogEntry.cell_time, hname, hbody, htimed]
  exact ⟨nofun, rfl, rfl⟩

/-- **A request for an excluded path is logged iff it fails**: the rows that it leaves are those of handlers, without
the body of the request and the time that it took. -/
theorem rows_of_excluded (hexcluded : ∃ front ∈ excludedPaths, r.shownPath.startsWith front = true)
    (hroom : s.store.HasRoom TableDef.log.name 2) :
    ∃ rows, (∀ table, (handle s t r).2.2.store.rows table =
        if table = TableDef.log.name then s.store.rows TableDef.log.name ++ rows else s.store.rows table) ∧
      (rows = [] ↔ (preflight? r).isSome = true ∨ IsAnswered s r) ∧
      ∀ row ∈ rows, Row.cell row "error_type" ≠ .null ∧ Row.cell row "request_body" = .null ∧
        Row.cell row "processing_time" = .null := by
  have hnot : isLogged r.shownPath = false := by
    rw [isLogged, Bool.and_eq_false_iff, Bool.not_eq_false']
    exact Or.inr (List.any_eq_true.2 hexcluded)
  cases hpre : preflight? r with
  | some a =>
    refine ⟨[], fun table => ?_, iff_of_true rfl (Or.inl rfl), nofun⟩
    rw [handle_eq, answer_of_preflight hpre, List.append_nil]
    split
    next h => rw [h]; rfl
    next => rfl
  | none =>
    obtain ⟨rows, hrows, hstore⟩ := exists_rows (t := t) hpre hroom
    obtain ⟨hempty, hfailures⟩ := (ends_answer (s := s) hpre).failures hnot
    refine ⟨rows, hstore, ?_, fun row hrow => ?_⟩
    · rw [hrows.eq_nil_iff, hempty]
      exact (or_iff_right nofun).symm
    · obtain ⟨e, he, id, rfl⟩ := hrows.exists_entry hrow
      obtain ⟨p, hp, rfl⟩ := hfailures e he
      exact cells_failureEntry hp hnot t id

def logRequest (body : String) : HttpRequest :=
  { method := "POST", target := "/api/admin/logs/tquery", headers := [("content-type", "application/json")], body }

/-- A request for rows of the log that asks for nothing. -/
theorem rows_of_excluded_emptyRequest :
    ∃ rows, (∀ table, (handle {} someTiming (logRequest "\x7b\x7d")).2.2.store.rows table =
        if table = TableDef.log.name then ({} : Store).rows TableDef.log.name ++ rows else ({} : Store).rows table) ∧
      (rows = [] ↔ (preflight? (logRequest "\x7b\x7d")).isSome = true ∨ IsAnswered {} (logRequest "\x7b\x7d")) ∧
      ∀ row ∈ rows, Row.cell row "error_type" ≠ .null ∧ Row.cell row "request_body" = .null ∧
        Row.cell row "processing_time" = .null :=
  rows_of_excluded ⟨"/api/admin/logs", by decide, by decide +kernel⟩ (by decide)

/-- It is refused, and that is logged. -/
theorem logged_emptyRequest :
    (∃ front ∈ excludedPaths, (logRequest "\x7b\x7d").shownPath.startsWith front = true) ∧
      (handle {} someTiming (logRequest "\x7b\x7d")).1.status = 422 ∧
      ((handle {} someTiming (logRequest "\x7b\x7d")).2.2.store.rows TableDef.log.name).map
        (Row.cell · "status_code") = [.int 422] := by
  refine ⟨⟨"/api/admin/logs", by decide, ?_⟩, ?_⟩
  · decide +kernel
  · decide +kernel

end Server

end TableQuery.Http
