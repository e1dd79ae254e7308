import TableQuery.Proofs.Filter.ColumnReduction
import TableQuery.Proofs.Sql.Like
import TableQuery.Proofs.Text.Trimmed

/-!
# What searches find

A textual filter on a column asks for the operand itself in the text of the value, and a global filter asks for each of
its words in the text of some searchable column, the inverted one for a word that is in none
(`FilterNode.holds_search_iff`). Texts are compared as a like test reads them, which is literally but for the case of
ASCII letters if they are readable (`Sql.isLikeReadable`).
-/

set_option autoImplicit false

namespace TableQuery

open Sql (Clause Env Scalar Store Term Value escapeLike isLikeReadable likeChars)

/-! ## Words -/

theorem Sql.isLikeReadable_of_mem_words {s w : String} (hs : isLikeReadable s = true) (h : w ∈ Text.words s) :
    isLikeReadable w = true :=
  List.all_eq_true.2 fun _ hc => List.all_eq_true.1 hs _ (Text.mem_of_mem_words h hc)

/-! ## Operators -/

namespace Operator

/-- The operators that look for a text in another one. -/
def isSearch : Operator → Bool
  | endsWith | startsWith | contains => true
  | _ => false

/-- The text `part` stands where the operator asks for it in `whole`, both as `read` reads them. -/
def Finds (read : String → List Char) (part whole : String) : Operator → Prop
  | startsWith => read part <+: read whole
  | endsWith => read part <:+ read whole
  | contains => read part <:+: read whole
  | _ => False

instance (read : String → List Char) (part whole : String) : (o : Operator) → Decidable (o.Finds read part whole)
  | startsWith => inferInstanceAs (Decidable (read part <+: read whole))
  | endsWith => inferInstanceAs (Decidable (read part <:+ read whole))
  | contains => inferInstanceAs (Decidable (read part <:+: read whole))
  | null | equal | exact | oneOf | greater | less | atLeast | atMost
  | like | regexp | has | hasAll | hasAny | hasOnly => .isFalse not_false

variable {store : Store} {env : Env} {o : Operator} {t : ColumnType} {s : Scalar} {part whole : String}

theorem toText?_textTerm : ((t.textTerm s).value store env).toText? = (s.value store env 1).toText? := by
  unfold ColumnType.textTerm
  split
  · rw [Term.value, Value.asText]
    cases h : (s.value store env 1).toText? <;> rfl
  · rfl

/-- **An operator that looks for a text finds what is a part of the value.** -/
theorem holds_search (ho : o.isSearch = true) (hpart : '\x00' ∉ part.toList)
    (hwhole : (s.value store env 1).toText? = some whole) :
    (o.clause t (.value s) (.one (.text part))).holds store env = true ↔ o.Finds likeChars part whole := by
  have hlike : ∀ pattern, (Clause.like (t.textTerm s) (.text pattern) true false).holds store env =
      Sql.likes true pattern whole := by
    intro pattern
    rw [Clause.holds, Clause.truth, toText?_textTerm, hwhole]
    dsimp only [Value.ofOperand, Value.toText?]
    cases Sql.likes true pattern whole <;> rfl
  cases o with
  | startsWith => exact (hlike _).symm ▸ Sql.likes_startsWith hpart
  | endsWith => exact (hlike _).symm ▸ Sql.likes_endsWith hpart
  | contains => exact (hlike _).symm ▸ Sql.likes_contains hpart
  | _ => cases ho

theorem finds_of_isLikeReadable (hpart : isLikeReadable part = true) (hwhole : isLikeReadable whole = true) :
    o.Finds likeChars part whole ↔ o.Finds Text.foldedChars part whole := by
  cases o <;> simp only [Finds, Sql.likeChars_of_isLikeReadable hpart, Sql.likeChars_of_isLikeReadable hwhole,
    Text.foldedChars]

end Operator

/-! ## Global filters -/

/-- The text of a column in a row, empty if the value is missing. -/
def ColumnDef.text (store : Store) (env : Env) (c : ColumnDef) : String :=
  ((c.scalar.value store env 1).toText?).getD ""

namespace FilterNode

/-- Every word is in the text of some column, as `read` reads them. -/
def FindsWords (read : String → List Char) (store : Store) (env : Env) (cs : List ColumnDef)
    (ws : List String) : Prop :=
  ∀ w ∈ ws, ∃ c ∈ cs, Operator.contains.Finds read w (c.text store env)

instance (read : String → List Char) (store : Store) (env : Env) (cs : List ColumnDef) (ws : List String) :
    Decidable (FindsWords read store env cs ws) :=
  inferInstanceAs (Decidable (∀ w ∈ ws, ∃ c ∈ cs, Operator.contains.Finds read w (c.text store env)))

section Rows

variable {store : Store} {env : Env} {ws : List String} {cs : List ColumnDef}

theorem holds_wordClause {w : String} {c : ColumnDef} (hw : '\x00' ∉ w.toList) :
    (wordClause w c).holds store env = true ↔ Operator.contains.Finds likeChars w (c.text store env) := by
  have htext : ((Term.orEmpty c.scalar).value store env).toText? = some (c.text store env) := by
    rw [Term.value, ColumnDef.text]
    cases c.scalar.value store env 1 <;> rfl
  rw [Operator.Finds, ← Sql.likes_contains hw, wordClause, Clause.holds, Clause.truth, htext]
  dsimp only [Value.ofOperand, Value.toText?]
  cases Sql.likes true ("%" ++ escapeLike w ++ "%") (c.text store env) <;> decide

/-- **A search finds the rows with every word in some column.** -/
theorem holds_searchClause (hws : ∀ w ∈ ws, '\x00' ∉ w.toList) :
    (searchClause ws cs).holds store env = true ↔ FindsWords likeChars store env cs ws := by
  unfold searchClause FindsWords
  split
  next h => simp [List.isEmpty_iff.1 h, Clause.holds, Clause.truth]
  next hne =>
    split
    next h =>
      -- There is a word to look for and no column to look in.
      obtain ⟨w, hw⟩ := List.exists_mem_of_ne_nil ws (by simpa using hne)
      refine iff_of_false (by simp [Clause.holds, Clause.truth]) fun hfound => ?_
      obtain ⟨c, hc, -⟩ := hfound w hw
      rw [List.isEmpty_iff.1 h] at hc
      cases hc
    next =>
      rw [Clause.holds_conj, List.all_map, List.all_eq_true]
      refine forall₂_congr fun w hw => ?_
      rw [Function.comp_apply, Clause.holds_disj, List.any_map, List.any_eq_true]
      exact exists_congr fun c => and_congr_right fun _ => holds_wordClause (hws w hw)

/-- Readable words are found literally in readable texts. -/
theorem findsWords_of_isLikeReadable (hws : ∀ w ∈ ws, isLikeReadable w = true)
    (hcs : ∀ c ∈ cs, isLikeReadable (c.text store env) = true) :
    FindsWords likeChars store env cs ws ↔ FindsWords Text.foldedChars store env cs ws :=
  forall₂_congr fun w hw => exists_congr fun c => and_congr_right fun hc =>
    Operator.finds_of_isLikeReadable (hws w hw) (hcs c hc)

/-! ## Filters and their opposites -/

/-- Of a clause and its opposite that one holds which is asked for. -/
theorem holds_ite_iff {asked opposite : Clause} {found : Prop} (hasked : asked.holds store env = true ↔ found)
    (hopposite : opposite.holds store env = !asked.holds store env) (invert inverse : Bool) :
    (if invert != inverse then opposite else asked).holds store env = true ↔ (found ↔ invert = inverse) := by
  rw [← hasked]
  cases invert <;> cases inverse <;> simp [hopposite]

/-- **A value that is there satisfies a textual filter** iff the operand stands in its text, or does not if the filter
is inverted. -/
theorem holds_column_search {c : ColumnDef} {o : Operator} {part whole : String} {s : Scalar}
    (hfits : (Argument.one (.text part)).Fits c.type o) (ho : o.isSearch = true) (hsource : c.source = .value s)
    (hwhole : (s.value store env 1).toText? = some whole) (hpart : '\x00' ∉ part.toList) (inverse invert : Bool) :
    ((column c o (.one (.text part)) inverse).clause invert).holds store env = true ↔
      (o.Finds likeChars part whole ↔ invert = inverse) := by
  have hthere : s.value store env 1 ≠ .null := by
    intro hnull
    rw [hnull] at hwhole
    cases hwhole
  have hpattern : o.HasPattern (.one (.text part)) := by
    rintro rfl
    cases ho
  rw [clause, hsource]
  exact holds_ite_iff (Operator.holds_search ho hpart hwhole)
    (Operator.holds_inverseClause store env (.value s) hfits hpattern fun _ => hthere) invert inverse

/-- **A row satisfies a global filter** iff each word stands in some column, or some word in none if the filter is
inverted. -/
theorem holds_global (hws : ∀ w ∈ ws, '\x00' ∉ w.toList) (inverse invert : Bool) :
    ((global ws cs inverse).clause invert).holds store env = true ↔
      (FindsWords likeChars store env cs ws ↔ invert = inverse) := by
  rw [clause]
  exact holds_ite_iff (holds_searchClause hws) (holds_inverseSearchClause store env ws cs) invert inverse

end Rows

end FilterNode

/-! ## Users by name -/

namespace Entity

def nameColumn : ColumnDef :=
  (users.config.column? "name").get (by decide +kernel)

theorem source_nameColumn : nameColumn.source = .value (.column ⟨"users", "name"⟩) := by
  decide +kernel

/-- A filter for users by their names. -/
def whereName (o : Operator) (operand : Json) : Fields :=
  [("type", .str "column"), ("column", .str "name"), ("op", .str o.symbol), ("val", operand)]

/-- The row of a user with a name. -/
def namedEnv (name : String) : Env :=
  [("users", [("name", .text name)])]

/-- What a filter for users by their names is read as. -/
theorem readColumnFilter_whereName {o : Operator} {operand : Json} {a : Argument}
    (ho : nameColumn.type.accepts o = true)
    (ha : FilterNode.readArgument nameColumn.type o (whereName o operand) = .ok a) :
    FilterNode.readColumnFilter users.config (whereName o operand) = .ok (.ok (.column nameColumn o a false)) :=
  FilterNode.readColumnFilter_eq_ok.2 ⟨"name", nameColumn, o.symbol, o, a, rfl, (Option.some_get _).symm, rfl,
    Operator.ofSymbol?_symbol o, ho, ha, rfl⟩

/-- What a search in the names of users is read as. -/
theorem readColumnFilter_nameContains (part : String) :
    FilterNode.readColumnFilter users.config (whereName .contains (.str part)) =
      .ok (.ok (.column nameColumn .contains (.one (.text part)) false)) :=
  readColumnFilter_whereName (by decide)
    (FilterNode.readArgument_one (r := .string) (by decide) (by decide) (by decide) rfl _ rfl)

end Entity

/-! ## Filters -/

namespace FilterNode

/-- **Searches are for the operand itself.** A value that is there satisfies a textual filter, or does not if that is
inverted, iff the operand stands in its text; a row satisfies a global filter iff each word stands in some searchable
column. Readable texts are compared literally but for the case of ASCII letters. -/
theorem holds_search_iff {config : EntityConfig} {fields : Fields} {store : Store} {env : Env} :
    (∀ {c : ColumnDef} {o : Operator} {part whole : String} {inverse : Bool} {s : Scalar},
      readColumnFilter config fields = .ok (.ok (.column c o (.one (.text part)) inverse)) → o.isSearch = true →
      c.source = .value s → (s.value store env 1).toText? = some whole → '\x00' ∉ part.toList →
      (∀ invert, ((FilterNode.column c o (.one (.text part)) inverse).clause invert).holds store env = true ↔
        (o.Finds likeChars part whole ↔ invert = inverse)) ∧
      (isLikeReadable part = true → isLikeReadable whole = true →
        (o.Finds likeChars part whole ↔ o.Finds Text.foldedChars part whole))) ∧
    (∀ {f : FilterNode} {text : String},
      readGlobalFilter config fields = .ok f → fields.value "val" = .str text → '\x00' ∉ text.toList →
      let searched := config.searchable.filter (·.isData)
      (∀ invert, (f.clause invert).holds store env = true ↔
        (FindsWords likeChars store env searched (Text.words text) ↔ invert = inversion fields)) ∧
      (isLikeReadable text = true → (∀ c ∈ searched, isLikeReadable (c.text store env) = true) →
        (FindsWords likeChars store env searched (Text.words text) ↔
          FindsWords Text.foldedChars store env searched (Text.words text)))) := by
  constructor
  · intro c o part whole inverse s hread ho hsource hwhole hpart
    obtain ⟨_, c', _, o', a', -, -, -, -, -, ha, hf⟩ := readColumnFilter_eq_ok.1 hread
    obtain ⟨rfl, rfl, rfl, -⟩ := FilterNode.column.inj hf
    exact ⟨holds_column_search (fits_of_readArgument ha) ho hsource hwhole hpart inverse,
      Operator.finds_of_isLikeReadable⟩
  · intro f text hread htext hnull
    obtain ⟨-, text', htext', rfl⟩ := readGlobalFilter_eq_ok.1 hread
    obtain rfl : text' = text := Json.str.inj (htext'.symm.trans htext)
    exact ⟨holds_global (fun w hw hc => hnull (Text.mem_of_mem_words hw hc)) _,
      fun hreadable => findsWords_of_isLikeReadable fun w hw => Sql.isLikeReadable_of_mem_words hreadable hw⟩

/-- Characters that have a meaning in patterns are looked for like others, in one column and in all. -/
theorem holds_search_iff_percentSign :
    ((FilterNode.column Entity.nameColumn .contains (.one (.text "%_O")) false).clause false).holds {}
      (Entity.namedEnv "50%_off") = true ∧
    ((FilterNode.global ["%_O", "50"] (Entity.users.config.searchable.filter (·.isData)) false).clause false).holds {}
      (Entity.namedEnv "50%_off") = true := by
  have hglobal : readGlobalFilter Entity.users.config [("op", .str "%v%"), ("val", .str "%_O 50")] =
      .ok (.global ["%_O", "50"] (Entity.users.config.searchable.filter (·.isData)) false) := by
    have hwords : Text.words "%_O 50" = ["%_O", "50"] := by decide
    exact readGlobalFilter_eq_ok.2 ⟨by decide, "%_O 50", rfl, by rw [hwords]; rfl⟩
  exact ⟨((holds_search_iff.1 (Entity.readColumnFilter_nameContains "%_O") rfl Entity.source_nameColumn rfl
    (by decide)).1 false).2 (by decide), ((holds_search_iff.2 hglobal rfl (by decide)).1 false).2 (by decide +kernel)⟩

/-- A code point that is no character is found in a name that does not have it. -/
theorem holds_noncharacter :
    readColumnFilter Entity.users.config (Entity.whereName .contains (.str "\uFFFF")) =
      .ok (.ok (.column Entity.nameColumn .contains (.one (.text "\uFFFF")) false)) ∧
    ¬ Operator.contains.Finds Text.foldedChars "\uFFFF" "\uFFFD" ∧
    ((FilterNode.column Entity.nameColumn .contains (.one (.text "\uFFFF")) false).clause false).holds {}
      (Entity.namedEnv "\uFFFD") = true := by
  exact ⟨Entity.readColumnFilter_nameContains _, by decide, by decide +kernel⟩

end FilterNode

end TableQuery
