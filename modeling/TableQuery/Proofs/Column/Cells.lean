import TableQuery.Proofs.Column.Rendered
import TableQuery.Proofs.Column.Written
import TableQuery.Proofs.Entity.Schema
import TableQuery.View.Table

/-!
# The texts of shown values

A table makes a text of what a column shows of a value. Dates and points in time are read again for that, and what is
shown of them can be read (`Iso.date?_toText`, `Iso.stamp?_universal`), so that every value that a column shows of a
stored one has a text (`TableStyle.cell_succeeds`).
-/

set_option autoImplicit false

namespace TableQuery

open Sql (Value)

theorem ColumnDef.value_type_schemaFields (c : ColumnDef) :
    c.schemaFields.value "type" = .str c.type.kind.name := by
  unfold schemaFields schema
  split
  next => rfl
  next h =>
    have htype : c.type = .plain .count := by simpa [isData] using h
    rw [htype]
    rfl

theorem Kind.find?_name (k : Kind) : Kind.all.find? (·.name == k.name) = some k := by
  cases k <;> rfl

theorem Cell.exists_of_renderMoment {c : Cell} {s : String} (h : c.renderMoment = .ok s) :
    ∃ m : Moment, s = m.toSeconds ++ "Z" := by
  have hfinish : ∀ {stamp : Stamp}, renderMoment.finish stamp = .ok s → ∃ m : Moment, s = m.toSeconds ++ "Z" := by
    intro stamp hstamp
    obtain ⟨m, -, hm⟩ := bind_eq_ok.1 hstamp
    exact ⟨m, (Except.ok.inj hm).symm⟩
  unfold renderMoment at h
  split at h
  · exact hfinish h
  · obtain ⟨stamp, -, hstamp⟩ := bind_eq_ok.1 h
    exact hfinish hstamp
  · cases h

namespace TableStyle

variable {style : TableStyle} {t : ColumnType} {k : StoredKind} {v : Value} {j : Json} {column : Fields}

/-- Looking for the label of a position of a dictionary does not fail. -/
def FindsLabels (style : TableStyle) : Prop :=
  ∀ dictionary position, ∃ label, style.label? dictionary position = .ok label

theorem label_succeeds (h : style.FindsLabels) (column : Fields) (position : String) :
    ∃ s, style.label column position = .ok s := by
  unfold label
  dsimp only
  split
  · obtain ⟨found, hfound⟩ := h (column.value "dictionaryId") position
    rw [hfound]
    exact ⟨_, rfl⟩
  · exact ⟨_, rfl⟩

theorem joined_succeeds {text : String → Except Fault String} (h : ∀ s, ∃ s', text s = .ok s') (items : List Json) :
    ∃ s, joined text (.arr items) = .ok s := by
  obtain ⟨texts, htexts⟩ : ∃ texts, (items.mapM fun v => text v.bare) = .ok texts := exists_mapM fun v _ => h v.bare
  refine ⟨", ".intercalate texts, ?_⟩
  show (items.mapM fun v => text v.bare).bind _ = _
  rw [htexts]
  rfl

theorem date_succeeds (style : TableStyle) (d : Date) : ∃ s, style.date (.str d.toText) = .ok s := by
  rw [date, Iso.date?_toText]
  exact ⟨_, rfl⟩

theorem moment_succeeds (style : TableStyle) (m : Moment) : ∃ s, style.moment (.str (m.toSeconds ++ "Z")) = .ok s := by
  rw [moment, Iso.stamp?_universal]
  exact ⟨_, rfl⟩

/-- What is shown of a stored value that is there has a text. -/
theorem plainCell_succeeds (hlabels : style.FindsLabels) (ht : t.shows k = true)
    (hdate : t.kind = .date → k = .date) (hnull : v ≠ .null) (hv : k.holds v = true)
    (h : t.kind.render (.ofValue t v) = .ok j) : ∃ s, style.plainCell column t.kind.name j = .ok s := by
  obtain ⟨hlist, hobject⟩ := ColumnType.unstructured_of_shows ht
  unfold plainCell
  rw [Kind.find?_name]
  cases hkind : t.kind with
  | list => exact absurd hkind hlist
  | object => exact absurd hkind hobject
  | bool | int | count | string | text | uuid => exact ⟨_, rfl⟩
  | dict => exact label_succeeds hlabels column j.bare
  | date =>
    obtain rfl := hdate hkind
    cases v with
    | null => exact absurd rfl hnull
    | int n | real x => cases hv
    | text s =>
      obtain ⟨d, hd⟩ := Option.isSome_iff_exists.1 hv
      have hcell : Cell.ofValue t (.text s) = .date d := by
        simp only [Cell.ofValue, hkind, hd, Option.map_some, Option.getD_some]
      rw [hkind, hcell] at h
      cases h
      exact date_succeeds style d
  | moment =>
    unfold ColumnType.shows at ht
    rw [hkind] at ht
    obtain rfl : k = .moment := of_decide_eq_true ht
    rw [hkind, Kind.render] at h
    obtain ⟨text, htext, rfl⟩ := map_eq_ok.1 h
    obtain ⟨m, rfl⟩ := Cell.exists_of_renderMoment htext
    exact moment_succeeds style m
  | uuidList =>
    rw [hkind, Kind.render] at h
    obtain ⟨items, -, rfl⟩ := map_eq_ok.1 h
    exact joined_succeeds (fun s => ⟨shortId s, rfl⟩) items
  | dictList =>
    rw [hkind, Kind.render] at h
    obtain ⟨items, -, rfl⟩ := map_eq_ok.1 h
    exact joined_succeeds (label_succeeds hlabels column) items

theorem isBlank_of_null (hcolumn : column.value "type" = .str t.kind.name) (h : t.render (.ofValue t .null) = .ok j) :
    isBlank column j = true := by
  have hshown : (if t.isList then Json.arr [] else .null) = j := Except.ok.inj h
  split at hshown
  next hlist =>
    subst hshown
    rw [isBlank, hcolumn]
    cases hkind : t.kind <;> simp_all [ColumnType.isList, Kind.isList] <;> rfl
  next =>
    subst hshown
    rfl

/-- **What a column shows of a stored value has a text.** -/
theorem cell_succeeds (hlabels : style.FindsLabels) (ht : t.shows k = true) (hdate : t.kind = .date → k = .date)
    (hv : k.holds v = true) (h : t.render (.ofValue t v) = .ok j) (hcolumn : column.value "type" = .str t.kind.name)
    (row : Fields) : ∃ s, style.cell row column none j = .ok s := by
  unfold cell
  dsimp only
  split
  next => exact ⟨_, rfl⟩
  next hblank =>
    have hnull : v ≠ .null := by
      rintro rfl
      exact hblank (isBlank_of_null hcolumn h)
    rw [ColumnType.render, Cell.isMissing_ofValue hnull, if_neg Bool.false_ne_true] at h
    rw [hcolumn]
    exact plainCell_succeeds hlabels ht hdate hnull hv h

end TableStyle

end TableQuery
