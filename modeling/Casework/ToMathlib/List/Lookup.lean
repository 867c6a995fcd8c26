namespace List

variable {Key Entry : Type} [DecidableEq Key]

/-- The first pair is found under its own key only. -/
theorem lookup_cons_eq_ite (pair : Key × Entry) (rest : List (Key × Entry)) (key : Key) :
    (pair :: rest).lookup key = if key = pair.1 then some pair.2 else rest.lookup key := by
  rw [lookup_cons]
  by_cases same : key = pair.1
  · simp [same]
  · simp [same, beq_false_of_ne same]

/-- Nothing is found exactly under the keys that no pair has. -/
theorem lookup_eq_none_iff_notMem {entries : List (Key × Entry)} {key : Key} :
    entries.lookup key = none ↔ key ∉ entries.map Prod.fst := by
  simp only [lookup_eq_none_iff, bne_iff_ne, mem_map, not_exists, not_and]
  exact forall_congr' fun pair => forall_congr' fun _ => ne_comm

theorem mem_of_lookup {entries : List (Key × Entry)} {key : Key} {entry : Entry}
    (found : entries.lookup key = some entry) : (key, entry) ∈ entries := by
  obtain ⟨before, after, rfl, _⟩ := lookup_eq_some_iff.mp found
  simp

/-- The only pair under a key is found. -/
theorem lookup_of_count_eq_one {entries : List (Key × Entry)} {pair : Key × Entry}
    (isMember : pair ∈ entries) (once : (entries.map Prod.fst).count pair.1 = 1) :
    entries.lookup pair.1 = some pair.2 := by
  induction entries with
  | nil => contradiction
  | cons first rest inductionHypothesis =>
      rw [lookup_cons_eq_ite]
      rcases mem_cons.mp isMember with same | inRest
      · rw [if_pos (congrArg Prod.fst same), same]
      · have again : 0 < (rest.map Prod.fst).count pair.1 :=
          count_pos_iff.mpr (mem_map_of_mem inRest)
        have other : first.1 ≠ pair.1 := by
          intro equal
          rw [map_cons, equal, count_cons_self] at once
          omega
        rw [map_cons, count_cons_of_ne other] at once
        rw [if_neg other.symm, inductionHypothesis inRest once]

/-- Among distinct keys every pair is found under its key. -/
theorem lookup_of_mem {entries : List (Key × Entry)} (distinct : (entries.map Prod.fst).Nodup)
    {pair : Key × Entry} (isMember : pair ∈ entries) : entries.lookup pair.1 = some pair.2 := by
  refine lookup_of_count_eq_one isMember ?_
  have present := count_pos_iff.mpr (mem_map_of_mem (f := Prod.fst) isMember)
  have atMost := nodup_iff_count.mp distinct pair.1
  omega

/-- The order of the pairs does not matter under a key that at most one of them has. -/
theorem Perm.lookup_eq {first second : List (Key × Entry)} (permuted : first.Perm second)
    {key : Key} (atMostOnce : ¬ 1 < (first.map Prod.fst).count key) :
    first.lookup key = second.lookup key := by
  have sameCount := (permuted.map Prod.fst).count_eq key
  by_cases present : key ∈ first.map Prod.fst
  · obtain ⟨pair, inFirst, rfl⟩ := mem_map.mp present
    have once : (first.map Prod.fst).count pair.1 = 1 := by
      have positive := count_pos_iff.mpr present
      omega
    rw [lookup_of_count_eq_one inFirst once,
      lookup_of_count_eq_one (permuted.mem_iff.mp inFirst) (sameCount ▸ once)]
  · have absent : key ∉ second.map Prod.fst := fun isMember =>
      present ((permuted.map Prod.fst).mem_iff.mpr isMember)
    rw [lookup_eq_none_iff_notMem.mpr present, lookup_eq_none_iff_notMem.mpr absent]

/-- A list of distinct keys may be turned around. -/
theorem lookup_reverse {entries : List (Key × Entry)} (distinct : (entries.map Prod.fst).Nodup)
    (key : Key) : entries.reverse.lookup key = entries.lookup key := by
  have atMost := nodup_iff_count.mp distinct key
  exact ((reverse_perm entries).symm.lookup_eq (by omega)).symm

theorem lookup_map_pair (image : Key → Entry) (keys : List Key) (key : Key) :
    (keys.map fun key => (key, image key)).lookup key =
      if key ∈ keys then some (image key) else none := by
  induction keys with
  | nil => rfl
  | cons first rest inductionHypothesis =>
      rw [map_cons, lookup_cons_eq_ite, inductionHypothesis]
      by_cases same : key = first <;> simp [same]

end List
