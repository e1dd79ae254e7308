import TableQuery.Filter.Reader
import TableQuery.Proofs.Column.Operands
import TableQuery.Proofs.Json.Fields
import TableQuery.Proofs.Request.Refusals

/-!
# Filters apart from their place

`FilterNode.ofJson` reads a filter by itself: it knows neither the path at which the filter stands nor what has been
told of the request before, and puts a filter together from its parts, each of which is read by itself as well. The
reader of requests passes the path and the report on from part to part; it finds the same filter, and tells the same
complaints below its path (`FilterNode.finds_readAt`).
-/

set_option autoImplicit false

namespace TableQuery

open Checked (Explained)

/-- Induction over filters: an object's parts are the items of its list of values. -/
theorem Json.filter_induct {P : Json → Prop} (other : ∀ j, j.fields? = none → P j)
    (obj : ∀ fields : Fields, (∀ items, fields.lookup "val" = some (.arr items) → ∀ j ∈ items, P j) →
      P (.obj fields)) :
    ∀ j, P j
  | .obj fields => obj fields fun items hitems j hj =>
    have hval : ("val", Json.arr items) ∈ fields := mem_of_lookup_eq_some hitems
    have _h1 := List.sizeOf_lt_of_mem hval
    have _h2 := List.sizeOf_lt_of_mem hj
    filter_induct other obj j
  | .null | .bool _ | .num _ | .str _ | .arr _ => other _ rfl
termination_by j => sizeOf j
decreasing_by
  simp only [Prod.mk.sizeOf_spec, Json.arr.sizeOf_spec, Json.obj.sizeOf_spec] at *
  omega

/-! ## Reading a filter by itself -/

namespace FilterNode

def inversionErrors (fields : Fields) : List FieldError :=
  match fields.lookup "inv" with
  | none | some (.bool _) => []
  | some _ => [.at_ "inv" .inversionNotBoolean]

def inversion (fields : Fields) : Bool :=
  match fields.lookup "inv" with
  | some (.bool b) => b
  | _ => false

def readOperand (r : Rule) (j : Json) : Checked Operand :=
  match r.read j with
  | .ok v => .ok v
  | .error p => .fail (.operand p)

/-- The argument of an operator on a column of some type. -/
def readArgument (t : ColumnType) (o : Operator) (fields : Fields) : Checked Argument :=
  match fields.lookup "val" with
  | none => if o = .null then .ok .nothing else .error [.at_ "val" .valueRequired]
  | some j =>
    if o = .null then .error [.at_ "val" .valueOfNull]
    else match t.rule? o with
      | none => .error [.at_ "val" .noValues]
      | some r =>
        Checked.under ["val"] <|
          if t.takesList o then
            match j with
            | .arr (v :: vs) => (Checked.numbered ((v :: vs).map (readOperand r))).map .many
            | _ => .fail .noValues
          else (readOperand r j).map .one

def readColumnFilter (config : EntityConfig) (fields : Fields) : Except Fault (Checked FilterNode) := do
  let columnName ← name (fields.value "column")
  match columnName.str?.bind config.column? with
  | none => return .error [.at_ "column" (.unknownColumn columnName)]
  | some c =>
    let symbol := fields.value "op"
    match (symbol.str?.bind Operator.ofSymbol?).filter c.type.accepts with
    | none => return .error [.at_ "op" (.operatorNotAllowed symbol c.name)]
    | some o => return (readArgument c.type o fields).map fun a => .column c o a (inversion fields)

def readCustomFilter (config : EntityConfig) (fields : Fields) : Except Fault (Checked FilterNode) := do
  let filterName ← name (fields.value "customFilter")
  match filterName.str?.bind config.customFilter? with
  | none => return .error [.at_ "customFilter" (.unknownCustomFilter filterName)]
  | some f =>
    let params := (fields.lookup "params").getD (.obj [])
    return ((f.readParams params).under ["params"]).map fun p => .custom f p (inversion fields)

/-- A search in all searchable columns. -/
def readGlobalFilter (config : EntityConfig) (fields : Fields) : Checked FilterNode :=
  if !(fields.value "op").isText Operator.contains.symbol then .error [.at_ "op" .globalOperator]
  else match fields.value "val" with
    | .str s => .ok (.global (Text.words s) (config.searchable.filter (·.isData)) (inversion fields))
    | _ => .error [.at_ "val" .globalText]

def operationErrors (fields : Fields) : List FieldError :=
  if (operation? (fields.value "op")).isSome then [] else [.at_ "op" .unknownBoolOperator]

/-- An operation on filters that have been read, or have not if there were none. -/
def readOperation (fields : Fields) (filters : Option (List (Checked FilterNode))) : Checked FilterNode :=
  let filters : Checked (List FilterNode) :=
    match filters with
    | some fs => (Checked.numbered fs).under ["val"]
    | none => .error [.at_ "val" .noFilters]
  match operation? (fields.value "op") with
  | some all => filters.map fun fs => .op all fs (inversion fields)
  | none => .error (.at_ "op" .unknownBoolOperator :: filters.errors)

/-- A filter of a kind that has been found out, with the complaints about its fields in front. -/
def ofKind (known : List String) (fields : Fields) (read : Except Fault (Checked FilterNode)) :
    Except Fault (Checked FilterNode) :=
  read.map fun c => c.after (Reader.strangers known .unexpectedField fields ++ inversionErrors fields)

mutual

/-- The filter that a value describes. -/
def ofJson (config : EntityConfig) : Json → Except Fault (Checked FilterNode)
  | .str s =>
    .ok (if s == "always" then .ok (.const true) else if s == "never" then .ok (.const false) else .fail .notFilter)
  | .obj fields =>
    match name (Fields.value fields "type") with
    | .error f => .error f
    | .ok type =>
      match type.str?.bind fun s => (knownFields.lookup s).map (s, ·) with
      | none => .ok (.error [.at_ "type" (.unknownFilterType type)])
      | some (kind, known) =>
        ofKind known fields <|
          if kind == "op" then (partsOf config fields).map (readOperation fields)
          else if kind == "column" then readColumnFilter config fields
          else if kind == "custom" then readCustomFilter config fields
          else .ok (readGlobalFilter config fields)
  | _ => .ok (.fail .notFilter)

/-- The filters in the list that is the value of an operation, none if there is no such list or nothing in it. -/
def partsOf (config : EntityConfig) : Fields → Except Fault (Option (List (Checked FilterNode)))
  | [] => .ok none
  | (k, v) :: rest =>
    if k == "val" then
      match v with
      | .arr [] => .ok none
      | .arr items => (ofItems config items).map some
      | _ => .ok none
    else partsOf config rest

def ofItems (config : EntityConfig) : List Json → Except Fault (List (Checked FilterNode))
  | [] => .ok []
  | j :: js =>
    match ofJson config j with
    | .error f => .error f
    | .ok c => (ofItems config js).map (c :: ·)

end

theorem readOperand_eq_ok {r : Rule} {j : Json} {v : Operand} : readOperand r j = .ok v ↔ r.read j = .ok v := by
  unfold readOperand
  split <;> simp_all [Checked.fail]

theorem map_readOperand_eq_ok {r : Rule} {values : List Json} {vs : List Operand} :
    values.map (readOperand r) = vs.map .ok ↔ (∀ j ∈ values, r.Takes j) ∧ vs = r.operands values := by
  induction values generalizing vs with
  | nil => simp [Rule.operands]
  | cons j values ih =>
    have hcons : ∀ {v : Operand}, r.read j = .ok v → r.operands (j :: values) = v :: r.operands values := by
      intro v hv
      rw [Rule.operands, List.filterMap_cons, hv]
      rfl
    constructor
    · intro h
      cases vs with
      | nil => cases h
      | cons v vs =>
        obtain ⟨hj, hvalues⟩ := List.cons.inj h
        obtain ⟨htakes, rfl⟩ := ih.1 hvalues
        have hv := readOperand_eq_ok.1 hj
        refine ⟨fun k hk => ?_, (hcons hv).symm⟩
        rcases List.mem_cons.1 hk with rfl | hk
        · exact ⟨v, hv⟩
        · exact htakes k hk
    · rintro ⟨htakes, rfl⟩
      obtain ⟨v, hv⟩ := htakes j List.mem_cons_self
      rw [hcons hv, List.map_cons, List.map_cons, readOperand_eq_ok.2 hv,
        ih.2 ⟨fun k hk => htakes k (List.mem_cons_of_mem _ hk), rfl⟩]

variable {config : EntityConfig} {fields : Fields}

/-- The parts of an operation are in the list that is its value. -/
theorem partsOf_eq_lookup (fields : Fields) : partsOf config fields =
    match fields.lookup "val" with
    | some (.arr []) => .ok none
    | some (.arr items) => (ofItems config items).map some
    | _ => .ok none := by
  induction fields with
  | nil => rfl
  | cons p rest ih =>
    obtain ⟨k, v⟩ := p
    by_cases hk : k = "val"
    · subst hk
      rw [List.lookup_cons_self, partsOf.eq_def]
      cases v with
      | arr items => cases items <;> rfl
      | _ => rfl
    · have hk' : (k == "val") = false := beq_eq_false_iff_ne.2 hk
      have hk'' : ("val" == k) = false := beq_eq_false_iff_ne.2 (Ne.symm hk)
      rw [List.lookup_cons, hk'', ← ih, partsOf.eq_def]
      simp only [hk', Bool.false_eq_true, ↓reduceIte]

theorem partsOf_eq_ok {fields : Fields} {cs : List (Checked FilterNode)} :
    partsOf config fields = .ok (some cs) ↔
      ∃ items, fields.lookup "val" = some (.arr items) ∧ items ≠ [] ∧ ofItems config items = .ok cs := by
  rw [partsOf_eq_lookup]
  split
  next hval => simp [hval]
  next items hne hval =>
    have hitems : items ≠ [] := fun h => hne (by rw [h])
    simp only [hval, map_eq_ok, Option.some.injEq, Json.arr.injEq, exists_eq_left', exists_eq_right]
    exact ⟨fun h => ⟨hitems, h⟩, And.right⟩
  next hnot =>
    constructor
    · intro h
      cases h
    · rintro ⟨items, hval, -, -⟩
      exact (hnot items hval).elim

theorem ofItems_eq_ok {js : List Json} {cs : List (Checked FilterNode)} :
    ofItems config js = .ok cs ↔ js.map (ofJson config) = cs.map .ok := by
  induction js generalizing cs with
  | nil => cases cs <;> simp [ofItems]
  | cons j js ih =>
    rw [ofItems]
    cases hj : ofJson config j with
    | error e => cases cs <;> simp [hj]
    | ok c =>
      rw [List.map_cons, hj]
      constructor
      · intro h
        cases hjs : ofItems config js with
        | error e => rw [hjs] at h; cases h
        | ok ds => rw [hjs] at h; cases h; rw [ih.1 hjs, List.map_cons]
      · intro h
        cases cs with
        | nil => cases h
        | cons c' ds =>
          obtain ⟨hc, hds⟩ := List.cons.inj h
          rw [← Except.ok.inj hc, ih.2 hds]
          rfl

/-- An operation that is read has a known symbol, and all its parts are read. -/
theorem readOperation_eq_ok {fields : Fields} {cs : Option (List (Checked FilterNode))} {f : FilterNode} :
    readOperation fields cs = .ok f ↔
      ∃ all fs, operation? (fields.value "op") = some all ∧ cs = some (fs.map .ok) ∧
        f = .op all fs (inversion fields) := by
  unfold readOperation
  cases operation? (fields.value "op") with
  | none => simp
  | some all =>
    cases cs with
    | none => simp [Except.map]
    | some cs =>
      simp only [map_eq_ok, Checked.under_eq_ok, Checked.numbered_eq_ok, Option.some.injEq]
      constructor
      · rintro ⟨fs, rfl, rfl⟩
        exact ⟨all, fs, rfl, rfl, rfl⟩
      · rintro ⟨_, fs, rfl, rfl, rfl⟩
        exact ⟨fs, rfl, rfl⟩

theorem errors_readOperation (cs : List (Checked FilterNode)) :
    (readOperation fields (some cs)).errors =
      operationErrors fields ++ ((Checked.numbered cs).under ["val"]).errors := by
  unfold readOperation operationErrors
  cases operation? (fields.value "op") with
  | none => rfl
  | some all => exact Checked.errors_map _ _

/-! ## Refusals are explained -/

section Refusals

variable {c : Checked FilterNode}

theorem explained_readOperand (r : Rule) (j : Json) : (readOperand r j).Explained := by
  unfold readOperand
  split
  · exact .ok _
  · exact .fail _

theorem explained_readArgument (t : ColumnType) (o : Operator) (fields : Fields) :
    (readArgument t o fields).Explained := by
  unfold readArgument
  split
  · split
    · exact .ok _
    · exact .error
  · split
    · exact .error
    · split
      · exact .error
      · refine .under ?_ _
        split
        · split
          · refine (Explained.numbered fun c hc => ?_).map _
            obtain ⟨j, -, rfl⟩ := List.mem_map.1 hc
            exact explained_readOperand _ j
          · exact .fail _
        · exact (explained_readOperand _ _).map _

theorem explained_readColumnFilter (h : readColumnFilter config fields = .ok c) : c.Explained := by
  unfold readColumnFilter at h
  obtain ⟨columnName, -, h⟩ := bind_eq_ok.1 h
  split at h
  · cases h
    exact .error
  · dsimp only at h
    split at h
    · cases h
      exact .error
    · cases h
      exact (explained_readArgument _ _ _).map _

theorem explained_readCustomFilter (h : readCustomFilter config fields = .ok c) : c.Explained := by
  unfold readCustomFilter at h
  obtain ⟨filterName, -, h⟩ := bind_eq_ok.1 h
  split at h
  · cases h
    exact .error
  · cases h
    exact ((CustomFilterDef.explained_readParams _ _).under _).map _

theorem explained_readGlobalFilter : (readGlobalFilter config fields).Explained := by
  unfold readGlobalFilter
  split
  · exact .error
  · split
    · exact .ok _
    · exact .error

theorem explained_readOperation {cs : Option (List (Checked FilterNode))}
    (h : ∀ items, cs = some items → ∀ c ∈ items, c.Explained) : (readOperation fields cs).Explained := by
  unfold readOperation
  dsimp only
  split
  · cases cs with
    | none => exact Explained.error.map _
    | some items => exact ((Explained.numbered (h items rfl)).under _).map _
  · exact .error

theorem explained_ofKind {known : List String} {read : Except Fault (Checked FilterNode)}
    (h : ofKind known fields read = .ok c) (hread : ∀ d, read = .ok d → d.Explained) : c.Explained := by
  obtain ⟨d, hd, rfl⟩ := map_eq_ok.1 h
  exact (hread d hd).after _

/-- **The reader of filters explains what it refuses.** -/
theorem explained_ofJson {j : Json} : ∀ {c : Checked FilterNode}, ofJson config j = .ok c → c.Explained := by
  induction j using Json.filter_induct with
  | other j hj =>
    intro c h
    cases j with
    | str s =>
      rw [ofJson] at h
      cases h
      split
      · exact .ok _
      · split
        · exact .ok _
        · exact .fail _
    | obj fields => cases hj
    | _ =>
      simp only [ofJson, Except.ok.injEq] at h
      subst h
      exact .fail _
  | obj fields ih =>
    intro c h
    rw [ofJson] at h
    split at h
    · cases h
    split at h
    · cases h
      exact .error
    refine explained_ofKind h fun d hd => ?_
    split at hd
    · obtain ⟨cs, hcs, rfl⟩ := map_eq_ok.1 hd
      refine explained_readOperation fun items hitems c hc => ?_
      subst hitems
      obtain ⟨js, hval, -, hjs⟩ := partsOf_eq_ok.1 hcs
      have hread := List.mem_map_of_mem (f := fun c => (.ok c : Except Fault (Checked FilterNode))) hc
      rw [← ofItems_eq_ok.1 hjs] at hread
      obtain ⟨j, hj, hjc⟩ := List.mem_map.1 hread
      exact ih js hval j hj hjc
    split at hd
    · exact explained_readColumnFilter hd
    split at hd
    · exact explained_readCustomFilter hd
    · cases hd
      exact explained_readGlobalFilter

end Refusals

end FilterNode

/-! ## Reading a filter at a path -/

namespace Reporting

variable {α β : Type} {path : String} {told told' : List FieldError}

theorem run_bind_ok {m : Reporting α} {f : α → Reporting β} {a : α} (h : m.run told = .ok (a, told')) :
    (m >>= f).run told = (f a).run told' := by
  rw [StateT.run_bind, h]
  rfl

theorem run_bind_error {m : Reporting α} {f : α → Reporting β} {fault : Fault} (h : m.run told = .error fault) :
    (m >>= f).run told = .error fault := by
  rw [StateT.run_bind, h]
  rfl

theorem run_tell (path : String) (c : Complaint) (told : List FieldError) :
    (tell path c).run told = .ok ((), told ++ [.at_ path c]) := rfl

/-- **A reading at a path finds what is read apart from the path.** It goes on from what has been told before, which
makes no difference, and tells what is wrong below the path. What it gives is what is read if nothing is wrong. -/
def Finds (path : String) (m : Reporting (Option α)) : Except Fault (Checked α) → Prop
  | .error fault => ∀ told, m.run told = .error fault
  | .ok c => ∃ found, (∀ told, m.run told = .ok (found, told ++ c.errors.map (·.placed path))) ∧
      ∀ a, c = .ok a → found = some a

theorem finds_some (a : α) : Finds path (return some a) (.ok (.ok a)) := by
  refine ⟨some a, fun told => ?_, fun b hb => congrArg some (Except.ok.inj hb)⟩
  rw [Checked.errors, List.map_nil, List.append_nil]
  rfl

theorem finds_refuse_at (key : String) (c : Complaint) :
    Finds path (refuse (dotted [path, key]) c : Reporting (Option α)) (.ok (.error [.at_ key c])) :=
  ⟨none, fun _ => rfl, fun _ h => by cases h⟩

theorem finds_refuse (c : Complaint) : Finds path (refuse path c : Reporting (Option α)) (.ok (.fail c)) := by
  refine ⟨none, fun told => ?_, fun _ h => by cases h⟩
  show Except.ok (none, told ++ [.at_ path c]) = Except.ok (none, told ++ [.at_ (dotted [path]) c])
  rw [dotted_singleton]

theorem Finds.map {m : Reporting (Option α)} {x : Except Fault (Checked α)} (h : Finds path m x) (f : α → β) :
    Finds path (do return (← m).map f) (x.map (·.map f)) := by
  cases x with
  | error fault => exact fun told => run_bind_error (h told)
  | ok c =>
    obtain ⟨found, hrun, hfound⟩ := h
    refine ⟨found.map f, fun told => ?_, fun b hb => ?_⟩
    · rw [Checked.errors_map]
      exact run_bind_ok (hrun told)
    · obtain ⟨a, ha, rfl⟩ := map_eq_ok.1 hb
      rw [hfound a ha, Option.map_some]

/-- What is told first comes first. -/
theorem Finds.after {pre : Reporting β} {own : List FieldError} {b : β} {m : β → Reporting (Option α)}
    {x : Except Fault (Checked α)} (hpre : ∀ told, pre.run told = .ok (b, told ++ own.map (·.placed path)))
    (h : Finds path (m b) x) : Finds path (pre >>= m) (x.map (·.after own)) := by
  cases x with
  | error fault => exact fun told => (run_bind_ok (hpre told)).trans (h _)
  | ok c =>
    obtain ⟨found, hrun, hfound⟩ := h
    refine ⟨found, fun told => ?_, fun a ha => hfound a (Checked.after_eq_ok.1 ha).2⟩
    rw [run_bind_ok (hpre told), hrun, Checked.errors_after, List.map_append, List.append_assoc]

end Reporting

open Reporting (Finds finds_refuse finds_refuse_at finds_some run_bind_error run_bind_ok run_tell)

namespace FilterNode

variable {config : EntityConfig} {fields : Fields} {path : String}

theorem finds_lifted {α β : Type} {a : β} {m : β → Reporting (Option α)} {x : Except Fault (Checked α)}
    (h : Finds path (m a) x) : Finds path (do m (← (Except.ok a : Except Fault β))) x :=
  h

theorem finds_name {α : Type} {m : Json → Reporting (Option α)} {x : Json → Except Fault (Checked α)} (j : Json)
    (h : ∀ k, Finds path (m k) (x k)) : Finds path (do m (← name j)) (do x (← name j)) := by
  unfold name
  split
  · exact fun _ => rfl
  · exact h j

/-- The operands that a rule takes are found, and it is told of the others where they stand. -/
theorem run_operandsAt (r : Rule) (path : String) : ∀ (i : Nat) (js : List Json) (told : List FieldError),
    (operandsAt path r i js).run told = .ok (r.operands js, told ++
      ((js.map (readOperand r)).zipIdx i).flatMap fun p => p.1.errors.map (·.placed (dotted [path, toString p.2])))
  | i, [], told => by
    rw [List.map_nil, List.zipIdx_nil, List.flatMap_nil, List.append_nil]
    rfl
  | i, j :: js, told => by
    have ih := run_operandsAt r path (i + 1) js
    rw [operandsAt, List.map_cons, List.zipIdx_cons, List.flatMap_cons, Rule.operands, List.filterMap_cons, readOperand]
    cases r.read j with
    | ok v => exact run_bind_ok (ih told)
    | error p =>
      dsimp only
      rw [run_bind_ok (run_tell _ _ _), ih, List.append_assoc, Checked.fail, Checked.errors, List.map_singleton,
        FieldError.placed, FieldError.whole, dotted_singleton]
      rfl

theorem finds_manyAt (r : Rule) (values : List Json) (path : String) :
    Finds path (do
      let operands ← operandsAt (dotted [path, "val"]) r 0 values
      return if operands.length = values.length then some (Argument.many operands) else none)
      (.ok (Checked.under ["val"] ((Checked.numbered (values.map (readOperand r))).map Argument.many))) := by
  refine ⟨if (r.operands values).length = values.length then some (.many (r.operands values)) else none,
    fun told => ?_, fun a ha => ?_⟩
  · have hrun := run_operandsAt r (dotted [path, "val"]) 0 values told
    simp only [dotted_cons, List.cons_append, List.nil_append] at hrun
    rw [run_bind_ok hrun, Checked.errors_under, Checked.errors_map, ← Checked.errors_under, Checked.errors_numbered]
    rfl
  · obtain ⟨operands, hread, rfl⟩ := map_eq_ok.1 (Checked.under_eq_ok.1 ha)
    have hvalues := Checked.numbered_eq_ok.1 hread
    have hoperands : operands = r.operands values := (map_readOperand_eq_ok.1 hvalues).2
    rw [← hoperands, if_pos (by simpa using (congrArg List.length hvalues).symm)]

theorem finds_argumentAt (t : ColumnType) (o : Operator) (fields : Fields) (path : String) :
    Finds path (argumentAt path t o fields) (.ok (readArgument t o fields)) := by
  unfold argumentAt readArgument
  cases fields.lookup "val" with
  | none =>
    by_cases ho : o = .null
    · simp only [ho, ↓reduceIte]
      exact finds_some _
    · simp only [ho, ↓reduceIte]
      exact finds_refuse_at _ _
  | some j =>
    by_cases ho : o = .null
    · simp only [ho, ↓reduceIte]
      exact finds_refuse_at _ _
    cases t.rule? o with
    | none =>
      simp only [ho, ↓reduceIte]
      exact finds_refuse_at _ _
    | some r =>
      cases t.takesList o with
      | false =>
        simp only [ho, ↓reduceIte, Bool.false_eq_true]
        rw [readOperand]
        cases r.read j with
        | ok v => exact finds_some _
        | error p => exact finds_refuse_at _ _
      | true =>
        simp only [ho, ↓reduceIte]
        cases j with
        | arr values =>
          cases values with
          | nil => exact finds_refuse_at _ _
          | cons v vs => exact finds_manyAt r (v :: vs) path
        | _ => exact finds_refuse_at _ _

theorem finds_columnFilterAt (config : EntityConfig) (fields : Fields) (path : String) :
    Finds path (columnFilterAt config path fields (inversion fields)) (readColumnFilter config fields) := by
  refine finds_name _ fun columnName => ?_
  cases columnName.str?.bind config.column? with
  | none => exact finds_refuse_at _ _
  | some c =>
    dsimp only
    cases ((fields.value "op").str?.bind Operator.ofSymbol?).filter c.type.accepts with
    | none => exact finds_refuse_at _ _
    | some o => exact (finds_argumentAt c.type o fields path).map _

theorem finds_customFilterAt (config : EntityConfig) (fields : Fields) (path : String) :
    Finds path (customFilterAt config path fields (inversion fields)) (readCustomFilter config fields) := by
  refine finds_name _ fun filterName => ?_
  cases filterName.str?.bind config.customFilter? with
  | none => exact finds_refuse_at _ _
  | some f =>
    dsimp only
    cases f.readParams ((fields.lookup "params").getD (.obj [])) with
    | ok p => exact finds_some _
    | error es =>
      refine ⟨none, fun told => ?_, fun _ h => by cases h⟩
      have hplaced : (es.map (FieldError.under ["params"])).map (·.placed path) =
          es.map (·.placed (dotted [path, "params"])) := by
        rw [List.map_map]
        exact List.map_congr_left fun e _ => e.placed_under path _
      exact congrArg (fun es' => Except.ok (none, told ++ es')) hplaced.symm

theorem finds_globalFilterAt (config : EntityConfig) (fields : Fields) (path : String) :
    Finds path (globalFilterAt config path fields (inversion fields)) (.ok (readGlobalFilter config fields)) := by
  unfold globalFilterAt readGlobalFilter
  cases (fields.value "op").isText Operator.contains.symbol with
  | false => exact finds_refuse_at _ _
  | true =>
    cases fields.value "val" with
    | str s => exact finds_some _
    | _ => exact finds_refuse_at _ _

/-! ### Operations -/

theorem partsAt_eq_lookup (path : String) (fields : Fields) : partsAt config path fields =
    match fields.lookup "val" with
    | some (.arr []) => return none
    | some (.arr items) => some <$> itemsAt config path 0 items
    | _ => return none := by
  induction fields with
  | nil => rfl
  | cons p rest ih =>
    obtain ⟨k, v⟩ := p
    by_cases hk : k = "val"
    · subst hk
      rw [List.lookup_cons_self, partsAt.eq_def]
      cases v with
      | arr items => cases items <;> rfl
      | _ => rfl
    · have hk' : (k == "val") = false := beq_eq_false_iff_ne.2 hk
      have hk'' : ("val" == k) = false := beq_eq_false_iff_ne.2 (Ne.symm hk)
      rw [List.lookup_cons, hk'', ← ih, partsAt.eq_def]
      simp only [hk', Bool.false_eq_true, ↓reduceIte]

/-- The parts of an operation are found as filters are, each at its position. -/
def FindsParts (path : String) (m : Reporting (List (Option FilterNode))) (i : Nat) :
    Except Fault (List (Checked FilterNode)) → Prop
  | .error fault => ∀ told, m.run told = .error fault
  | .ok cs => ∃ found, (∀ told, m.run told = .ok (found, told ++
      (cs.zipIdx i).flatMap fun p => p.1.errors.map (·.placed (dotted [path, "val", toString p.2])))) ∧
        ∀ fs : List FilterNode, cs = fs.map .ok → found = fs.map some

theorem findsParts_itemsAt (path : String) : ∀ (i : Nat) (items : List Json),
    (∀ j ∈ items, ∀ path, Finds path (readAt config path j) (ofJson config j)) →
      FindsParts path (itemsAt config path i items) i (ofItems config items)
  | i, [], _ => by
    refine ⟨[], fun told => ?_, fun fs hfs => ?_⟩
    · rw [List.zipIdx_nil, List.flatMap_nil, List.append_nil]
      rfl
    · rw [List.map_eq_nil_iff.1 hfs.symm, List.map_nil]
  | i, j :: js, h => by
    obtain ⟨hj, hjs⟩ := List.forall_mem_cons.1 h
    have hj := hj (dotted [path, "val", toString i])
    have ih := findsParts_itemsAt path (i + 1) js hjs
    rw [itemsAt, ofItems]
    cases hc : ofJson config j with
    | error fault =>
      rw [hc] at hj
      exact fun told => run_bind_error (hj told)
    | ok c =>
      rw [hc] at hj
      obtain ⟨found, hrun, hfound⟩ := hj
      cases hcs : ofItems config js with
      | error fault =>
        rw [hcs] at ih
        exact fun told => (run_bind_ok (hrun told)).trans (run_bind_error (ih _))
      | ok cs =>
        rw [hcs] at ih
        obtain ⟨rest, hrest, hfs⟩ := ih
        refine ⟨found :: rest, fun told => ?_, fun fs heq => ?_⟩
        · rw [List.zipIdx_cons, List.flatMap_cons, ← List.append_assoc]
          exact (run_bind_ok (hrun told)).trans (run_bind_ok (hrest _))
        · cases fs with
          | nil => cases heq
          | cons f fs =>
            obtain ⟨hc, hcs⟩ := List.cons.inj heq
            rw [hfound f hc, hfs fs hcs, List.map_cons]

/-- An operation goes on with its parts after it has been told of its symbol. -/
theorem run_operationAt (path : String) (parts : Reporting (Option (List (Option FilterNode)))) (fields : Fields)
    (inverse : Bool) (told : List FieldError) :
    (operationAt path parts fields inverse).run told = (do
      match ← parts with
      | none => Reporting.refuse (dotted [path, "val"]) .noFilters
      | some filters => return do
        let all ← operation? (fields.value "op")
        return .op all (← filters.mapM id) inverse : Reporting (Option FilterNode)).run
          (told ++ (operationErrors fields).map (·.placed path)) := by
  unfold operationAt operationErrors
  cases operation? (fields.value "op") with
  | none => rfl
  | some all =>
    rw [Option.isSome_some, if_pos rfl, List.map_nil, List.append_nil]
    rfl

theorem finds_operationAt_none (fields : Fields) (path : String) :
    Finds path (operationAt path (return none) fields (inversion fields)) (.ok (readOperation fields none)) := by
  have herrors : readOperation fields none = .error (operationErrors fields ++ [.at_ "val" .noFilters]) := by
    unfold readOperation operationErrors
    cases operation? (fields.value "op") <;> rfl
  rw [herrors]
  refine ⟨none, fun told => ?_, fun _ h => by cases h⟩
  rw [run_operationAt, Checked.errors, List.map_append, ← List.append_assoc]
  rfl

theorem mapM_some {α : Type} (as : List α) : (as.map some).mapM id = some as := by
  induction as with
  | nil => rfl
  | cons a as ih => simp [ih]

theorem finds_operationAt_some {m : Reporting (List (Option FilterNode))} {x : Except Fault (List (Checked FilterNode))}
    (fields : Fields) (h : FindsParts path m 0 x) :
    Finds path (operationAt path (some <$> m) fields (inversion fields))
      (x.map fun cs => readOperation fields (some cs)) := by
  cases x with
  | error fault =>
    refine fun told => (run_operationAt ..).trans (run_bind_error ?_)
    rw [StateT.run_map, h]
    rfl
  | ok cs =>
    obtain ⟨found, hrun, hfound⟩ := h
    refine ⟨do
      let all ← operation? (fields.value "op")
      return .op all (← found.mapM id) (inversion fields), fun told => ?_, fun f hf => ?_⟩
    · have hparts : ∀ told, (some <$> m).run told = .ok (some found, told ++
          ((Checked.numbered cs).under ["val"]).errors.map (·.placed path)) := fun told => by
        rw [StateT.run_map, hrun, Checked.errors_numbered]
        rfl
      rw [run_operationAt, run_bind_ok (hparts _), errors_readOperation, List.map_append, ← List.append_assoc]
      rfl
    · obtain ⟨all, fs, hop, hcs, rfl⟩ := readOperation_eq_ok.1 hf
      rw [hop, hfound fs (Option.some.inj hcs), mapM_some]
      rfl

/-! ### Filters -/

/-- The complaints about the fields of a filter come before all others. -/
theorem run_fieldsAt (path : String) (known : List String) (fields : Fields) (told : List FieldError) :
    ((Reader.strayNames known fields).forM (fun key => Reporting.tell (dotted [path, key]) .unexpectedField) >>=
        fun _ => inversionAt path fields).run told =
      .ok (inversion fields, told ++
        (Reader.strangers known .unexpectedField fields ++ inversionErrors fields).map (·.placed path)) := by
  have hstrays : ∀ (keys : List String) told,
      (keys.forM fun key => Reporting.tell (dotted [path, key]) .unexpectedField).run told =
        .ok ((), told ++ keys.map fun key => .at_ (dotted [path, key]) .unexpectedField) := by
    intro keys
    induction keys with
    | nil => exact fun told => by rw [List.map_nil, List.append_nil]; rfl
    | cons key keys ih =>
      intro told
      rw [List.map_cons, List.append_cons]
      exact (run_bind_ok (run_tell _ _ told)).trans (ih _)
  rw [run_bind_ok (hstrays _ told), inversionAt, inversion, inversionErrors, List.map_append, ← List.append_assoc,
    Reader.strangers, List.map_map]
  cases fields.lookup "inv" with
  | none => rw [List.map_nil, List.append_nil]; rfl
  | some j =>
    cases j with
    | bool b => rw [List.map_nil, List.append_nil]; rfl
    | _ => rfl

theorem finds_operationAt (fields : Fields)
    (h : ∀ items, fields.lookup "val" = some (.arr items) → ∀ j ∈ items, ∀ path,
      Finds path (readAt config path j) (ofJson config j)) (path : String) :
    Finds path (operationAt path (partsAt config path fields) fields (inversion fields))
      ((partsOf config fields).map (readOperation fields)) := by
  rw [partsAt_eq_lookup, partsOf_eq_lookup]
  cases hval : fields.lookup "val" with
  | none => exact finds_operationAt_none fields path
  | some j =>
    cases j with
    | arr items =>
      cases items with
      | nil => exact finds_operationAt_none fields path
      | cons j js =>
        have hparts := finds_operationAt_some fields (findsParts_itemsAt path 0 (j :: js) (h _ hval))
        dsimp only
        cases hitems : ofItems config (j :: js) with
        | error fault => rwa [hitems] at hparts
        | ok cs => rwa [hitems] at hparts
    | _ => exact finds_operationAt_none fields path

/-- **The reader of requests finds what is read of a filter by itself**, at every path. -/
theorem finds_readAt (config : EntityConfig) (j : Json) :
    ∀ path, Finds path (readAt config path j) (ofJson config j) := by
  induction j using Json.filter_induct with
  | other j hj =>
    intro path
    cases j with
    | obj fields => cases hj
    | str s =>
      rw [readAt, ofJson]
      by_cases halways : (s == "always") = true
      · rw [if_pos halways, if_pos halways]
        exact finds_some _
      rw [if_neg halways, if_neg halways]
      by_cases hnever : (s == "never") = true
      · rw [if_pos hnever, if_pos hnever]
        exact finds_some _
      · rw [if_neg hnever, if_neg hnever]
        exact finds_refuse _
    | _ => exact finds_refuse .notFilter
  | obj fields ih =>
    intro path
    rw [readAt, ofJson]
    cases name (Fields.value fields "type") with
    | error fault => exact fun _ => rfl
    | ok type =>
      refine finds_lifted ?_
      dsimp only
      cases type.str?.bind fun s => (knownFields.lookup s).map (s, ·) with
      | none => exact finds_refuse_at _ _
      | some known =>
        obtain ⟨kind, known⟩ := known
        dsimp only
        rw [← bind_assoc]
        refine Finds.after (run_fieldsAt path known fields) ?_
        by_cases hop : (kind == "op") = true
        · rw [if_pos hop, if_pos hop]
          exact finds_operationAt fields ih path
        rw [if_neg hop, if_neg hop]
        by_cases hcolumn : (kind == "column") = true
        · rw [if_pos hcolumn, if_pos hcolumn]
          exact finds_columnFilterAt config fields path
        rw [if_neg hcolumn, if_neg hcolumn]
        by_cases hcustom : (kind == "custom") = true
        · rw [if_pos hcustom, if_pos hcustom]
          exact finds_customFilterAt config fields path
        rw [if_neg hcustom, if_neg hcustom]
        exact finds_globalFilterAt config fields path

end FilterNode

end TableQuery
