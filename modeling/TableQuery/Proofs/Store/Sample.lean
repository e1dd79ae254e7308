import TableQuery.Proofs.Request.Plan
import TableQuery.Proofs.Store.Filled
import TableQuery.Proofs.Store.Typed

/-!
# The sample data in the store

The rows of the sample data are rows of tables of the store (`Sample.mem_all_of_mem_rows`), so that what adding a row
keeps, adding the sample data keeps (`Sample.addTo_induct`). The cells of the sample data match their columns, and no
required cell is missing.
-/

set_option autoImplicit false

namespace TableQuery

open Sql (Store)

theorem Sample.mem_all_of_mem_rows (now : Moment) : ∀ p ∈ rows now, p.1 ∈ TableDef.all := by
  have hstaff (n : Nat) (name email : String) : ∀ p ∈ staffRows now n name email, p.1 ∈ TableDef.all := by
    simp [staffRows, texts, TableDef.all]
  have hclient (n : Nat) (name birthDate : String) : ∀ p ∈ clientRows now n name birthDate, p.1 ∈ TableDef.all := by
    simp [clientRows, texts, TableDef.all]
  have hmeeting (n : Nat) : ∀ p ∈ meetingRows now n, p.1 ∈ TableDef.all := by
    simp [meetingRows, texts, TableDef.all]
  simp only [rows, List.forall_mem_append, List.forall_mem_flatMap]
  refine ⟨⟨⟨⟨⟨⟨⟨?facility, hstaff 0 _ _⟩, hstaff 1 _ _⟩, hclient 0 _ _⟩, hclient 1 _ _⟩, hclient 2 _ _⟩, ?group⟩,
    fun n _ => hmeeting n⟩
  all_goals simp [texts, TableDef.all]

/-- **What adding a row keeps, adding the sample data keeps.** -/
theorem Sample.addTo_induct {P : Store → Prop}
    (step : ∀ {t : TableDef} {fields : Fields} {store store' : Store}, t ∈ TableDef.all →
      store.insert t fields = .ok store' → P store → P store')
    {now : Moment} {made : Option String} {store store' : Store} (h : P store)
    (hadd : addTo store now = .ok (made, store')) : P store' := by
  rw [addTo] at hadd
  split at hadd
  next =>
    obtain ⟨next, hfold, hnext⟩ := bind_eq_ok.1 hadd
    cases hnext
    exact Store.inserts_induct step (mem_all_of_mem_rows now) h hfold
  next =>
    cases hadd
    exact h

namespace Entity

theorem filled_sampleStore : sampleStore.Filled := by
  rw [sampleStore]
  split
  next hadd => exact Sample.addTo_induct (fun ht hinsert h => h.insert ht hinsert) Store.filled_empty hadd
  next => exact Store.filled_empty

theorem typed_sampleStore : sampleStore.Typed := by decide +kernel

end Entity

end TableQuery
