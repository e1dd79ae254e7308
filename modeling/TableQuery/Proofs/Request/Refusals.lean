import TableQuery.Proofs.Outcomes
import TableQuery.Request.Shape

/-!
# What is refused

The complaints about what is put together are those about its parts, in order, and those about a part of a value at a
dotted path are placed below that path (`dotted_splice`). What is refused is refused with at least one complaint
(`Checked.Explained`): each reader is seen to explain its refusals, from the readers of single values up to that of
whole requests (`DataRequest.explained_read`).
-/

set_option autoImplicit false

namespace TableQuery

/-! ## Dotted paths -/

theorem intercalate_ne_empty {s : String} {texts : List String} (hne : texts ≠ []) (h : ∀ t ∈ texts, t ≠ "") :
    s.intercalate texts ≠ "" := by
  cases texts with
  | nil => exact absurd rfl hne
  | cons t texts =>
    have ht := h t List.mem_cons_self
    by_cases hmore : texts = []
    · rwa [hmore, String.intercalate_singleton]
    · simp [String.intercalate_cons_of_ne_nil hmore, ht]

theorem intercalate_splice {s : String} {before part after : List String} (hne : part ≠ []) :
    s.intercalate (before ++ s.intercalate part :: after) = s.intercalate (before ++ (part ++ after)) := by
  have hback : s.intercalate (s.intercalate part :: after) = s.intercalate (part ++ after) := by
    by_cases hmore : after = []
    · rw [hmore, String.intercalate_singleton, List.append_nil]
    · rw [String.intercalate_cons_of_ne_nil hmore, String.intercalate_append_of_ne_nil hne hmore]
  by_cases hbefore : before = []
  · rw [hbefore, List.nil_append, List.nil_append, hback]
  · rw [String.intercalate_append_of_ne_nil hbefore (List.cons_ne_nil _ _), hback,
      String.intercalate_append_of_ne_nil hbefore (by simp [hne])]

/-- **Paths compose**: a dotted path can stand for its parts among others. -/
theorem dotted_splice (before part after : List String) :
    dotted (before ++ dotted part :: after) = dotted (before ++ part ++ after) := by
  have hparts : ∀ t ∈ part.filter (· != ""), t ≠ "" := fun t ht => by simpa using (List.mem_filter.1 ht).2
  by_cases hnil : part.filter (· != "") = []
  · have hempty : dotted part = "" := by rw [dotted, hnil, String.intercalate_nil]
    rw [hempty]
    simp only [dotted, List.filter_append, hnil, List.append_nil]
    rfl
  · have hshown : (dotted part != "") = true := by simpa [dotted] using intercalate_ne_empty hnil hparts
    show ".".intercalate ((before ++ dotted part :: after).filter (· != "")) = _
    rw [List.filter_append, List.filter_cons_of_pos (p := (· != "")) hshown, dotted, intercalate_splice hnil, dotted,
      List.append_assoc, List.filter_append, List.filter_append]

theorem dotted_cons (part after : List String) : dotted (dotted part :: after) = dotted (part ++ after) :=
  dotted_splice [] part after

theorem FieldError.placed_under (path : String) (parts : List String) (e : FieldError) :
    (e.under parts).placed path = e.placed (dotted (path :: parts)) :=
  congrArg (FieldError.at_ · e.complaint) (dotted_cons (path :: parts) e.path).symm

theorem dotted_singleton (path : String) : dotted [path] = path := by
  by_cases h : path = ""
  · subst h
    rfl
  · rw [dotted, List.filter_cons_of_pos (by simpa using h), List.filter_nil, String.intercalate_singleton]

/-! ## What is wrong with what is put together -/

namespace Checked

variable {α β : Type}

/-- A value that stands at a dotted path. -/
def placed (path : String) (c : Checked α) : Checked α :=
  c.mapError (·.map (·.placed path))

@[simp]
theorem errors_map (f : α → β) (c : Checked α) : errors (c.map f) = c.errors := by
  cases c <;> rfl

@[simp]
theorem errors_under (parts : List String) (c : Checked α) : (c.under parts).errors = c.errors.map (.under parts) := by
  cases c <;> rfl

@[simp]
theorem errors_placed (path : String) (c : Checked α) : (c.placed path).errors = c.errors.map (·.placed path) := by
  cases c <;> rfl

theorem placed_eq_ok {path : String} {c : Checked α} {a : α} : c.placed path = .ok a ↔ c = .ok a :=
  mapError_eq_ok

@[simp]
theorem errors_after (own : List FieldError) (c : Checked α) : (c.after own).errors = own ++ c.errors := by
  cases c with
  | ok a => cases own <;> simp [after, errors]
  | error es => rfl

@[simp]
theorem errors_both (c : Checked α) (d : Checked β) : (c.both d).errors = c.errors ++ d.errors := by
  cases c <;> cases d <;> rfl

@[simp]
theorem errors_all (cs : List (Checked α)) : (all cs).errors = cs.flatMap errors := by
  induction cs with
  | nil => rfl
  | cons c cs ih => rw [all, errors_map, errors_both, ih, List.flatMap_cons]

/-- All that is wrong with the items of a list, each at its position. -/
theorem errors_numbered (path key : String) (cs : List (Checked α)) :
    ((numbered cs).under [key]).errors.map (·.placed path) =
      cs.zipIdx.flatMap fun p => p.1.errors.map (·.placed (dotted [path, key, toString p.2])) := by
  rw [errors_under, numbered, errors_all, List.map_map, List.map_flatMap, List.flatMap_map]
  refine congrArg (List.flatMap · cs.zipIdx) (funext fun p => ?_)
  rw [errors_under, List.map_map]
  refine List.map_congr_left fun e _ => ?_
  show ((e.under [toString p.2]).under [key]).placed path = _
  exact e.placed_under path [key, toString p.2]

end Checked

open Checked (Explained)

/-! ## Refusals are explained -/

namespace Checked.Explained

variable {α : Type} {c : Checked α}

theorem placed (h : c.Explained) (path : String) : (c.placed path).Explained := by
  cases c with
  | ok a => exact ok _
  | error es =>
    intro es' hes
    cases hes
    simpa using h es rfl

theorem after (h : c.Explained) (own : List FieldError) : (c.after own).Explained := by
  cases c with
  | ok a =>
    cases own with
    | nil => exact ok a
    | cons e own => exact error
  | error es =>
    intro es' hes
    cases hes
    simp [h es rfl]

theorem errors_eq_nil {c : Checked α} (h : c.Explained) : c.errors = [] ↔ ∃ a, c = .ok a := by
  cases c with
  | ok a => simp [errors]
  | error es => simpa [errors] using h es rfl

end Checked.Explained

/-! ## Readers -/

namespace Reader

variable {α : Type} {read : Reader α}

theorem explained_choice (choices : List String) (j : Json) : (choice choices j).Explained := by
  unfold choice
  split
  · split
    · exact .ok _
    · exact .fail _
  · exact .fail _

theorem explained_integer (j : Json) : (integer j).Explained := by
  unfold integer
  split
  · exact .ok _
  · exact .ok _
  · split
    · exact .ok _
    · exact .fail _
    · exact .fail _
  · split
    · exact .fail _
    · split
      · split
        · exact .ok _
        · exact .fail _
      · exact .fail _
  · exact .fail _

theorem explained_booleanOfInt (n : Int) : (booleanOfInt n).Explained := by
  unfold booleanOfInt
  split
  · exact .ok _
  · split
    · exact .ok _
    · exact .fail _

theorem explained_boolean (j : Json) : (boolean j).Explained := by
  unfold boolean
  split
  · exact .ok _
  · split
    · exact .ok _
    · exact .fail _
  · split
    · exact explained_booleanOfInt _
    · exact .fail _
  · split
    · split
      · exact explained_booleanOfInt _
      · exact .fail _
    · exact .fail _
  · exact .fail _

end Reader

open Reader

/-! ## The shape of requests -/

section Shape

variable {inBody : Bool}

theorem explained_readEntry {α : Type} {model : String} {known : List String} {more : Fields → Checked α}
    (h : ∀ fields, (more fields).Explained) (j : Json) : (readEntry inBody model known more j).Explained := by
  refine explained_record (fun fields => explained_closed ?_ _ _) _ _ _
  have htype := explained_optional (explained_choice ["column"]) fields "type" "column"
  have hcolumn := explained_required explained_text fields "column"
  exact (htype.both (hcolumn.both (h fields))).map _

theorem SortItem.explained_read (j : Json) : (SortItem.read inBody j).Explained := by
  refine (explained_readEntry (fun fields => ?_) j).map _
  have hdir := explained_optional (explained_nullable (explained_choice ["asc", "desc"])) fields "dir" none
  have hdesc := explained_optional (explained_nullable explained_boolean) fields "desc" none
  exact (hdir.both hdesc).map _

theorem Paging.explained_read (j : Json) : (Paging.read inBody j).Explained := by
  refine explained_record (fun fields => ?_) _ _ _
  have hsize := explained_required explained_integer fields "size"
  have hnumber := explained_optional (explained_nullable explained_integer) fields "number" none
  have hoffset := explained_optional (explained_nullable explained_integer) fields "offset" none
  dsimp only
  split
  · split
    · exact .fail _
    · exact .ok _
  next hfailed => exact explained_closed ((hsize.both (hnumber.both hoffset)).map _) _ _

theorem explained_readFilterShape (j : Json) : (readFilterShape j).Explained := by
  unfold readFilterShape
  split
  · exact .ok _
  · exact .ok _
  · exact .error

theorem DataRequest.explained_read (j : Json) : (DataRequest.read inBody j).Explained := by
  refine explained_record (fun fields => explained_closed ?_ _ _) _ _ _
  have hcolumn : ∀ j, (readColumn inBody j).Explained := fun j => (explained_readEntry (fun _ => .ok ()) j).map _
  have hcolumns := explained_required (explained_list hcolumn true) fields "columns"
  have hfilter := explained_optional explained_readFilterShape fields "filter" (.str "always")
  have hsort := explained_optional (explained_list (@SortItem.explained_read inBody) false) fields "sort" []
  have hpaging := explained_required (@Paging.explained_read inBody) fields "paging"
  have hdistinct := explained_optional explained_boolean fields "distinct" false
  exact (hcolumns.both (hfilter.both (hsort.both (hpaging.both hdistinct)))).map _

end Shape

end TableQuery
