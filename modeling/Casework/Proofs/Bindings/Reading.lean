import Casework.Bindings.Form
import Casework.ToMathlib.Except
import Mathlib.Data.List.Forall2

namespace Casework

theorem Form.Checked.eq_ok_of_under {Result : Type} {name : String} {checked : Checked Result}
    {result : Result} (isOk : under name checked = .ok result) : checked = .ok result := by
  cases checked with
  | error faults => contradiction
  | ok found => exact isOk

namespace Bindings

/-- A table is accepted as it is. -/
theorem table_of_ofTable {table : OrderedMap String Value} {bindings : Bindings}
    (isOk : ofTable table = .ok bindings) : bindings.table = table := by
  unfold ofTable at isOk
  split at isOk
  · contradiction
  · cases isOk
    rfl

/-- The pair has this value when its form is read without faults. -/
def Reads (pair : String × Form) (value : String × Value) : Prop :=
  value.1 = pair.1 ∧ readEntry pair.2 = .ok (.ok value.2)

/-- Entries without faults are the values of the pairs. -/
theorem reads_of_readEntries {pairs : List (String × Form)} {values : List (String × Value)}
    (isRead : readEntries pairs = .ok (values.map .ok)) : List.Forall₂ Reads pairs values := by
  induction pairs generalizing values with
  | nil =>
      have areNone : values = [] := List.map_eq_nil_iff.mp (Except.ok.inj isRead).symm
      rw [areNone]
      exact .nil
  | cons pair rest inductionHypothesis =>
      unfold readEntries at isRead
      obtain ⟨entry, isEntry, others⟩ := Except.bind_eq_ok_iff.mp isRead
      obtain ⟨checks, areChecks, equal⟩ := Except.bind_eq_ok_iff.mp others
      cases values with
      | nil => exact nomatch Except.ok.inj equal
      | cons value values =>
          rw [Except.ok.injEq, List.map_cons, List.cons.injEq] at equal
          obtain ⟨isFirst, areOthers⟩ := equal
          obtain ⟨found, isFound, rfl⟩ :=
            Except.map_eq_ok_iff.mp (Form.Checked.eq_ok_of_under isFirst)
          rw [areOthers] at areChecks
          rw [isFound] at isEntry
          exact .cons ⟨rfl, isEntry⟩ (inductionHypothesis areChecks)

/-- The table of an accepted set has the values of the pairs, and later ones override earlier
ones. -/
theorem exists_values_of_ofPairs {pairs : List (String × Form)} {bindings : Bindings}
    (isOk : ofPairs pairs = .ok bindings) :
    ∃ values, List.Forall₂ Reads pairs values ∧ bindings.table = OrderedMap.ofList values := by
  unfold ofPairs at isOk
  obtain ⟨checks, areChecks, rest⟩ := Except.bind_eq_ok_iff.mp isOk
  split at rest
  · contradiction
  · rename_i values areValues
    rw [(Form.Checked.all_eq_ok_iff _ _).mp (Form.Checked.eq_ok_of_under areValues)] at areChecks
    split at rest
    · rename_i found isFound
      cases rest
      exact ⟨values, reads_of_readEntries areChecks, table_of_ofTable isFound⟩
    · contradiction

/-- Pairs that are all read have no faults among their entries. -/
theorem readEntries_of_reads {pairs : List (String × Form)} {values : List (String × Value)}
    (reads : List.Forall₂ Reads pairs values) : readEntries pairs = .ok (values.map .ok) := by
  induction reads with
  | nil => rfl
  | @cons pair value rest others isFirst _ inductionHypothesis =>
      obtain ⟨sameName, isRead⟩ := isFirst
      unfold readEntries
      rw [isRead, inductionHypothesis, ← sameName]
      rfl

theorem map_fst_of_reads {pairs : List (String × Form)} {values : List (String × Value)}
    (reads : List.Forall₂ Reads pairs values) : pairs.map Prod.fst = values.map Prod.fst := by
  rw [← List.forall₂_eq_eq_eq, List.forall₂_map_left_iff, List.forall₂_map_right_iff]
  exact reads.imp fun pair value isRead => isRead.1.symm

/-- Under distinct names a reading of pairs gives the binding set whose entries are the values of
the pairs, and it fails when there is none. -/
theorem ofPairs_eq_ok_iff {pairs : List (String × Form)} (distinct : (pairs.map Prod.fst).Nodup)
    {bindings : Bindings} :
    ofPairs pairs = .ok bindings ↔ List.Forall₂ Reads pairs bindings.table.entries := by
  constructor
  · intro isOk
    obtain ⟨values, reads, isTable⟩ := exists_values_of_ofPairs isOk
    have entries : bindings.table.entries = values := by
      rw [isTable]
      apply OrderedMap.insertAll_entries values .empty
      show (values.map Prod.fst).Nodup
      rw [← map_fst_of_reads reads]
      exact distinct
    rwa [entries]
  · intro reads
    have accepted : Form.Checked.under "params"
        (Form.Checked.all (bindings.table.entries.map .ok)) = .ok bindings.table.entries := by
      rw [(Form.Checked.all_eq_ok_iff _ _).mpr rfl]
      rfl
    simp only [ofPairs, readEntries_of_reads reads, Except.ok_bind, accepted]
    rw [OrderedMap.ofList_entries, ofTable_table]

/-- Under distinct names every pair is found with its value. -/
theorem get_of_ofPairs {pairs : List (String × Form)} {bindings : Bindings}
    (distinct : (pairs.map Prod.fst).Nodup) (isOk : ofPairs pairs = .ok bindings) {name : String}
    {form : Form} (isPair : (name, form) ∈ pairs) :
    ∃ value, readEntry form = .ok (.ok value) ∧ bindings.get? name = some value := by
  have reads := (ofPairs_eq_ok_iff distinct).mp isOk
  obtain ⟨place, inside, isThere⟩ := List.mem_iff_getElem.mp isPair
  have alsoInside : place < bindings.table.entries.length := by
    rw [← reads.length_eq]
    exact inside
  have isRead : Reads pairs[place] bindings.table.entries[place] := reads.get inside alsoInside
  rw [isThere] at isRead
  have sameName : bindings.table.entries[place].1 = name := isRead.1
  refine ⟨bindings.table.entries[place].2, isRead.2, ?_⟩
  show bindings.table.get? name = _
  rw [OrderedMap.get_eq_some_iff, ← sameName]
  exact List.getElem_mem alsoInside

end Bindings

end Casework
