import TableQuery.Http.Server
import TableQuery.Proofs.Calendar.Written
import TableQuery.Proofs.Store.Filled

/-!
# Rows of the request log

As long as there are numbers left for its rows (`Store.HasRoom`), the log takes every entry that the server writes:
each makes one row with the data of the entry (`LogEntry.row`), in the order in which they are written, and nothing
else in the store changes (`Server.rows_record`).
-/

set_option autoImplicit false

namespace TableQuery

open Sql (Row Store Value)

/-! ## Numbers of rows -/

namespace Sql.Store

variable {store : Store}

/-- The numbers that identify the rows of a table. -/
def numbers (store : Store) (table : String) : List Int :=
  (store.rows table).filterMap fun row => match row.lookup "id" with
    | some (.int i) => some i
    | _ => none

theorem mem_numbers {table : String} {row : Row} {i : Int} (hrow : row ∈ store.rows table)
    (hi : row.lookup "id" = some (.int i)) : i ∈ store.numbers table :=
  List.mem_filterMap.2 ⟨row, hrow, by rw [hi]⟩

theorem lt_nextId {table : String} {i : Int} (h : i ∈ store.numbers table) : i < store.nextId table := by
  have hnext : store.nextId table = ((store.numbers table).max?.map (· + 1)).getD 1 := rfl
  cases hmax : (store.numbers table).max? with
  | none =>
    rw [List.max?_eq_none_iff] at hmax
    rw [hmax] at h
    cases h
  | some greatest =>
    rw [hnext, hmax, Option.map_some, Option.getD_some]
    have hle := (List.max?_eq_some_iff.1 hmax).2 i h
    omega

theorem nextId_append {table : String} {row : Row} (hrow : row.lookup "id" = some (.int (store.nextId table))) :
    (store.append table [row]).nextId table = store.nextId table + 1 := by
  have hnumbers : (store.append table [row]).numbers table = store.numbers table ++ [store.nextId table] := by
    rw [numbers, rows_append, if_pos rfl, List.filterMap_append]
    simp [numbers, hrow]
  have hmax : (store.numbers table ++ [store.nextId table]).max? = some (store.nextId table) := by
    refine List.max?_eq_some_iff.2 ⟨List.mem_append_right _ List.mem_cons_self, fun i hi => ?_⟩
    rcases List.mem_append.1 hi with hi | hi
    · exact Int.le_of_lt (lt_nextId hi)
    · rw [List.mem_singleton.1 hi]
  have hnext : (store.append table [row]).nextId table =
      (((store.append table [row]).numbers table).max?.map (· + 1)).getD 1 := rfl
  rw [hnext, hnumbers, hmax]
  rfl

/-- There are numbers left for some more rows of a table. -/
def HasRoom (store : Store) (table : String) (rows : Nat) : Prop :=
  -9223372036854775808 ≤ store.nextId table ∧ store.nextId table + rows ≤ 9223372036854775808

instance (store : Store) (table : String) (rows : Nat) : Decidable (store.HasRoom table rows) :=
  inferInstanceAs (Decidable (_ ∧ _))

end Sql.Store

namespace Http

/-! ## Entries as rows -/

/-- A text that may be missing, as it is stored. -/
def storedText (s : Option String) : Value := (s.map Value.text).getD .null

def LogEntry.row (t : Timing) (id : Int) (e : LogEntry) : Row :=
  [("id", .int id), ("timestamp", .text t.finished.toStored), ("method", .text e.method), ("path", .text e.path),
    ("facility_id", storedText e.facility), ("entity", storedText e.entity), ("status_code", .int e.status),
    ("client_ip", storedText e.client), ("request_body", storedText e.requestBody),
    ("response_body", .text e.responseBody), ("error_type", storedText e.errorName),
    ("processing_time", if e.timed then StoredKind.real.prefer (.real t.milliseconds) else .null),
    ("user_agent", storedText e.userAgent), ("username", .null), ("hostname", .null),
    ("application_id", .text e.applicationId)]

namespace Server

variable {store : Store} {t : Timing} {e : LogEntry}

theorem store_orNull (s : Option String) :
    StoredKind.text.store ((s.map Json.str).getD .null) = .ok (storedText s) := by
  cases s <;> rfl

theorem store_finished (t : Timing) :
    StoredKind.moment.store (.str (t.finished.toText "T")) = .ok (.text t.finished.toStored) := by
  have hstamp : Iso.stamp? (t.finished.toText "T") = some ⟨t.finished, none⟩ :=
    @Iso.stamp?_toText t.finished 'T' (by decide)
  simp only [StoredKind.store, hstamp]

theorem row_fields {id : Int} (hid : Value.fitsStore id = true) (hstatus : Value.fitsStore e.status = true) :
    TableDef.log.row (LogEntry.fields t e ++ [("id", .int id)]) = .ok (e.row t id) := by
  have hnumber : ∀ n : Int, Value.fitsStore n = true → StoredKind.int.store (.int n) = .ok (.int n) :=
    fun n hn => if_pos hn
  have htime : StoredKind.real.store (if e.timed then Json.num (.double t.milliseconds) else .null) =
      .ok (if e.timed then StoredKind.real.prefer (.real t.milliseconds) else .null) := by
    split <;> rfl
  have htext : ∀ s, StoredKind.text.store (.str s) = .ok (.text s) := fun _ => rfl
  simp only [TableDef.row, TableDef.log, TableDef.key, List.mapM_cons, List.mapM_nil, LogEntry.fields,
    List.cons_append, List.nil_append, List.lookup_cons]
  simp [hnumber id hid, hnumber _ hstatus, htime, htext, store_orNull, store_finished, bind, Except.bind, pure,
    Except.pure, LogEntry.row]

/-- A row with a number that is not taken keeps the rules of the log. -/
theorem admits_row {id : Int}
    (hfree : ((store.rows TableDef.log.name).any fun row => row.lookup "id" == some (.int id)) = false) :
    TableDef.log.columns.all (store.admits .log (e.row t id)) = true := by
  have hfree' : ((store.rows "log").any fun row => row.lookup "id" == some (.int id)) = false := hfree
  simp [TableDef.log, TableDef.key, Store.admits, LogEntry.row, List.lookup_cons, hfree']

/-- **The log takes an entry** with a number and a status that fit. -/
theorem insert_fields (hid : Value.fitsStore (store.nextId TableDef.log.name) = true)
    (hstatus : Value.fitsStore e.status = true) :
    store.insert .log (LogEntry.fields t e) =
      .ok (store.append TableDef.log.name [e.row t (store.nextId TableDef.log.name)]) := by
  have hfree : ((store.rows TableDef.log.name).any fun row =>
      row.lookup "id" == some (.int (store.nextId TableDef.log.name))) = false := by
    rw [← Bool.not_eq_true, List.any_eq_true]
    rintro ⟨row, hmem, hid⟩
    exact absurd (Store.lt_nextId (Store.mem_numbers hmem (beq_iff_eq.1 hid))) (Int.lt_irrefl _)
  have hfields : (if (true && (Fields.value (LogEntry.fields t e) "id").same .null) = true then
      Fields.set (LogEntry.fields t e) "id" (.int (store.nextId TableDef.log.name)) else LogEntry.fields t e) =
      LogEntry.fields t e ++ [("id", .int (store.nextId TableDef.log.name))] := rfl
  have hnumbered : (TableDef.log.columns.any fun c => c.name == "id" && c.kind == .int) = true := rfl
  unfold Store.insert
  dsimp only
  rw [hnumbered, hfields, row_fields hid hstatus]
  exact if_pos (admits_row hfree)

/-- Entries make rows of their own, in their order. -/
def Rows (t : Timing) (entries : List LogEntry) (rows : List Row) : Prop :=
  List.Forall₂ (fun e row => ∃ id, row = LogEntry.row t id e) entries rows

/-- **All entries are recorded**, each in a row of its own, and nothing else changes. -/
theorem rows_record {entries : List LogEntry} (hstatus : ∀ e ∈ entries, Value.fitsStore e.status = true) :
    ∀ {store : Store}, store.HasRoom TableDef.log.name entries.length →
      ∃ rows, Rows t entries rows ∧ ∀ table, (entries.foldl (record t) store).rows table =
        if table = TableDef.log.name then store.rows TableDef.log.name ++ rows else store.rows table := by
  induction entries with
  | nil =>
    intro store _
    refine ⟨[], .nil, fun table => ?_⟩
    split
    next h => rw [h, List.append_nil, List.foldl_nil]
    next => rfl
  | cons e entries ih =>
    rintro store ⟨hlow, hhigh⟩
    rw [List.length_cons] at hhigh
    have hid : Value.fitsStore (store.nextId TableDef.log.name) = true := by
      rw [Value.fitsStore, Bool.and_eq_true, decide_eq_true_eq, decide_eq_true_eq]
      omega
    have hrecord : record t store e =
        store.append TableDef.log.name [e.row t (store.nextId TableDef.log.name)] := by
      rw [record, insert_fields hid (hstatus e List.mem_cons_self)]
      rfl
    have hnext : (record t store e).nextId TableDef.log.name = store.nextId TableDef.log.name + 1 := by
      rw [hrecord, Store.nextId_append rfl]
    have hroom : (record t store e).HasRoom TableDef.log.name entries.length :=
      ⟨by rw [hnext]; omega, by rw [hnext]; omega⟩
    obtain ⟨rows, hrows, hall⟩ := ih (fun e' he' => hstatus e' (List.mem_cons_of_mem _ he')) hroom
    refine ⟨e.row t (store.nextId TableDef.log.name) :: rows, .cons ⟨_, rfl⟩ hrows, fun table => ?_⟩
    rw [List.foldl_cons, hall, hrecord, Store.rows_append, Store.rows_append, if_pos rfl]
    split
    · rw [List.append_assoc, List.singleton_append]
    · rfl

end Server

end Http

end TableQuery
