/-
# Fields — what a name stands for

Among named fields the first of a name counts.  Where each name is there once,
a field is found exactly if it is one of them, and it is found again when the
fields have been put in order (`find?_ofList_of_mem`).
-/
import Mathlib.Data.List.Induction
import TypeSchema.Fields

namespace TypeSchema

namespace Fields

variable {α : Type}

theorem find?_insert (key name : String) (v : α) (fields : List (String × α)) :
    find? key (insert name v fields) = if name = key then some v else find? key fields := by
  induction fields with
  | nil => rfl
  | cons field fields ih =>
      obtain ⟨n, w⟩ := field
      rw [insert]
      split
      · rfl
      · split
        · rename_i same
          rw [find?, find?, ← same]
          split <;> rfl
        · rename_i other
          rw [find?, find?, ih]
          by_cases hn : n = key
          · rw [if_pos hn, if_neg (by rw [← hn]; exact other), if_pos hn]
          · rw [if_neg hn, if_neg hn]

theorem find?_isSome_iff {key : String} {fields : List (String × α)} :
    (find? key fields).isSome ↔ key ∈ fields.map (·.1) := by
  induction fields with
  | nil => simp [find?]
  | cons field fields ih =>
      obtain ⟨n, w⟩ := field
      rw [find?, List.map_cons, List.mem_cons]
      by_cases hn : n = key
      · simp [hn]
      · rw [if_neg hn, ih]
        simp [Ne.symm hn]

/-- Of fields in any order every name stands for something. -/
theorem find?_ofList_isSome_iff {key : String} {fields : List (String × α)} :
    (find? key (ofList fields)).isSome ↔ key ∈ fields.map (·.1) := by
  have step : ∀ (fields done : List (String × α)),
      (find? key (fields.foldl (fun done e => insert e.1 e.2 done) done)).isSome ↔
        (find? key done).isSome ∨ key ∈ fields.map (·.1) := by
    intro fields
    induction fields with
    | nil => simp
    | cons e fields ih =>
        intro done
        rw [List.foldl_cons, ih, find?_insert, List.map_cons, List.mem_cons]
        by_cases same : e.1 = key
        · simp [same]
        · simp [same, Ne.symm same]
  exact (step fields []).trans (or_iff_right Bool.false_ne_true)

/-- Of two fields of one name the later counts. -/
theorem find?_ofList_concat (key name : String) (v : α) (fields : List (String × α)) :
    find? key (ofList (fields ++ [(name, v)]))
      = if name = key then some v else find? key (ofList fields) := by
  rw [ofList, List.foldl_append]
  exact find?_insert key name v _

/-- A name stands for what the last field of this name holds. -/
theorem find?_ofList_eq_some_iff {key : String} {v : α} {fields : List (String × α)} :
    find? key (ofList fields) = some v ↔
      ∃ before after, fields = before ++ (key, v) :: after ∧ key ∉ after.map (·.1) := by
  induction fields using List.reverseRecOn with
  | nil => simp [ofList, find?]
  | append_singleton fields e ih =>
      obtain ⟨n, w⟩ := e
      rw [find?_ofList_concat]
      constructor
      · intro found
        by_cases same : n = key
        · rw [if_pos same] at found
          cases found
          exact ⟨fields, [], by rw [same], List.not_mem_nil⟩
        · rw [if_neg same] at found
          obtain ⟨before, after, rfl, last⟩ := ih.mp found
          refine ⟨before, after ++ [(n, w)], by simp, ?_⟩
          simpa [Ne.symm same] using last
      · rintro ⟨before, after, split, last⟩
        rcases List.eq_nil_or_concat after with rfl | ⟨after, f, rfl⟩
        · cases (List.append_inj' split rfl).2
          exact if_pos rfl
        · rw [List.concat_eq_append, ← List.cons_append, ← List.append_assoc] at split
          obtain ⟨rfl, same⟩ := List.append_inj' split rfl
          cases same
          rw [List.concat_eq_append, List.map_append, List.mem_append, not_or] at last
          rw [if_neg fun h => last.2 (by simp [h])]
          exact ih.mpr ⟨before, after, rfl, last.1⟩

theorem mem_of_find? {key : String} {v : α} {fields : List (String × α)}
    (h : find? key fields = some v) : (key, v) ∈ fields := by
  induction fields with
  | nil => cases h
  | cons field fields ih =>
      obtain ⟨n, w⟩ := field
      rw [find?] at h
      split at h
      · rename_i same
        cases h
        rw [same]
        exact List.mem_cons_self
      · exact List.mem_cons_of_mem _ (ih h)

/-- Where each name is there once, every field is found. -/
theorem find?_of_mem {key : String} {v : α} {fields : List (String × α)}
    (distinct : (fields.map (·.1)).Nodup) (h : (key, v) ∈ fields) :
    find? key fields = some v := by
  induction fields with
  | nil => cases h
  | cons field fields ih =>
      obtain ⟨n, w⟩ := field
      rw [List.map_cons, List.nodup_cons] at distinct
      rw [find?]
      rcases List.mem_cons.mp h with heq | hmem
      · cases heq
        exact if_pos rfl
      · rw [if_neg, ih distinct.2 hmem]
        rintro rfl
        exact distinct.1 (List.mem_map.mpr ⟨_, hmem, rfl⟩)

theorem find?_map {β : Type} (f : α → β) (key : String) (fields : List (String × α)) :
    find? key (fields.map fun x => (x.1, f x.2)) = (find? key fields).map f := by
  induction fields with
  | nil => rfl
  | cons field fields ih =>
      obtain ⟨n, w⟩ := field
      rw [List.map_cons, find?, find?, ih]
      split <;> rfl

/-! ## The order of fields -/

/-- Each name is greater than the one before. -/
def Ascending (fields : List (String × α)) : Prop := fields.Pairwise fun f g => f.1 < g.1

theorem eq_or_mem_of_mem_insert {name : String} {v : α} {fields : List (String × α)}
    {f : String × α} (h : f ∈ insert name v fields) : f = (name, v) ∨ f ∈ fields := by
  induction fields with
  | nil => exact .inl (List.mem_singleton.mp h)
  | cons field fields ih =>
      rw [insert] at h
      split at h
      · exact List.mem_cons.mp h
      · split at h
        · exact (List.mem_cons.mp h).imp_right (List.mem_cons_of_mem _)
        · rcases List.mem_cons.mp h with rfl | h
          · exact .inr List.mem_cons_self
          · exact (ih h).imp_right (List.mem_cons_of_mem _)

theorem Ascending.insert {name : String} {v : α} {fields : List (String × α)}
    (h : Ascending fields) : Ascending (insert name v fields) := by
  induction fields with
  | nil => exact List.pairwise_singleton _ _
  | cons field fields ih =>
      obtain ⟨n, w⟩ := field
      obtain ⟨first, rest⟩ := List.pairwise_cons.mp h
      rw [Fields.insert]
      split
      · rename_i before
        refine List.pairwise_cons.mpr ⟨fun f hf => ?_, h⟩
        rcases List.mem_cons.mp hf with rfl | hf
        · exact before
        · exact String.lt_trans before (first f hf)
      · split
        · rename_i same
          rw [same]
          exact List.pairwise_cons.mpr ⟨first, rest⟩
        · rename_i before other
          refine List.pairwise_cons.mpr ⟨fun f hf => ?_, ih rest⟩
          rcases eq_or_mem_of_mem_insert hf with rfl | hf
          · exact String.not_le.mp fun h => other (String.le_antisymm h (String.not_lt.mp before))
          · exact first f hf

theorem ascending_ofList (fields : List (String × α)) : Ascending (ofList fields) := by
  have step : ∀ (fields done : List (String × α)), Ascending done →
      Ascending (fields.foldl (fun done e => Fields.insert e.1 e.2 done) done) := by
    intro fields
    induction fields with
    | nil => exact fun _ h => h
    | cons e fields ih => exact fun done h => ih _ h.insert
  exact step fields [] List.Pairwise.nil

theorem mem_of_mem_ofList {fields : List (String × α)} {f : String × α} (h : f ∈ ofList fields) :
    f ∈ fields := by
  have step : ∀ (fields done : List (String × α)),
      f ∈ fields.foldl (fun done e => Fields.insert e.1 e.2 done) done → f ∈ done ∨ f ∈ fields := by
    intro fields
    induction fields with
    | nil => exact fun _ h => .inl h
    | cons e fields ih =>
        intro done h
        rcases ih _ h with h | h
        · rcases eq_or_mem_of_mem_insert h with rfl | h
          · exact .inr List.mem_cons_self
          · exact .inl h
        · exact .inr (List.mem_cons_of_mem _ h)
  exact (step fields [] h).resolve_left List.not_mem_nil

/-- Where each name is there once, putting fields in order keeps them all. -/
theorem find?_ofList_of_mem {key : String} {v : α} {fields : List (String × α)}
    (distinct : (fields.map (·.1)).Nodup) (h : (key, v) ∈ fields) :
    find? key (ofList fields) = some v := by
  have there := find?_ofList_isSome_iff.mpr (List.mem_map_of_mem h)
  obtain ⟨w, hw⟩ := Option.isSome_iff_exists.mp there
  have found := find?_of_mem distinct (mem_of_mem_ofList (mem_of_find? hw))
  rw [hw, ← found, find?_of_mem distinct h]

end Fields

end TypeSchema
