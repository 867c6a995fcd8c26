import Casework.Stock.Loading
import Casework.ToMathlib.Except

namespace Casework

open Binary64

namespace Noted

variable {Error Argument Result : Type}

/-- Two noted steps succeed when the first one does, and the second one on its result. -/
theorem andThen_eq_ok_iff {first : Noted Error Argument} {next : Argument → Noted Error Result}
    {result : Result} :
    (first.andThen next).1 = .ok result ↔
      ∃ argument, first.1 = .ok argument ∧ (next argument).1 = .ok result := by
  obtain ⟨outcome, journal⟩ := first
  cases outcome with
  | error error => simp [andThen]
  | ok argument => simp [andThen]

/-- Two noted steps fail as the first one does or as the second one. -/
theorem andThen_eq_error_iff {first : Noted Error Argument} {next : Argument → Noted Error Result}
    {error : Error} :
    (first.andThen next).1 = .error error ↔
      first.1 = .error error ∨
        ∃ argument, first.1 = .ok argument ∧ (next argument).1 = .error error := by
  obtain ⟨outcome, journal⟩ := first
  cases outcome with
  | error other => simp [andThen]
  | ok argument => simp [andThen]

/-- Work that cannot fail has a result. -/
theorem exists_ok_iff {work : Noted Error Result} {stops : Error → Prop}
    (isError : ∀ error, work.1 = .error error ↔ stops error) :
    (∃ result, work.1 = .ok result) ↔ ∀ error, ¬ stops error := by
  simp only [← isError]
  cases work.1 with
  | error error => simp
  | ok result => simp

/-- Work fails in its first part, or in the second part after a first part that cannot fail. -/
theorem andThen_stops_iff {first : Noted Error Argument} {next : Argument → Noted Error Result}
    {stops later : Error → Prop} (isFirst : ∀ error, first.1 = .error error ↔ stops error)
    (isNext : ∀ argument error, (next argument).1 = .error error ↔ later error) (error : Error) :
    (first.andThen next).1 = .error error ↔
      stops error ∨ (∀ other, ¬ stops other) ∧ later error := by
  rw [andThen_eq_error_iff, isFirst, ← exists_ok_iff isFirst, ← exists_and_right]
  simp only [isNext]

/-- A last part that only forms the result never fails. -/
theorem andThen_ok_eq_error_iff {first : Noted Error Argument} {image : Argument → Result}
    {error : Error} :
    (first.andThen fun argument => (.ok (image argument), [])).1 = .error error ↔
      first.1 = .error error := by
  simp [andThen_eq_error_iff]

end Noted

/-- A kept sheet has real sides, and neither is at most zero. A side that is no number is not at
most zero. -/
def Sheet.IsKept (sheet : Sheet) : Prop :=
  ∃ width height : Binary64, sheet.width = .real width ∧ sheet.height = .real height ∧
    width.atMost zero = false ∧ height.atMost zero = false

namespace Stock

/-- A note does not change the result. -/
theorem eq_of_noting {Result : Type} {value : Toml.Value} {note : Note} {result found : Result}
    (isNoted : (noting value note result).1 = .ok found) : found = result := by
  unfold noting at isNoted
  split at isNoted
  · contradiction
  · exact (Except.ok.inj isNoted).symm

theorem isWaste_standardWaste : isWaste standardWaste = true := by decide +kernel

/-- Every waste factor that is read passes its own check, and so does the standard one. -/
theorem isWaste_of_readWaste {value : Toml.Value} {waste : Binary64}
    (isRead : (readWaste value).1 = .ok waste) : isWaste waste = true := by
  unfold readWaste at isRead
  split at isRead
  · contradiction
  · split at isRead
    · rename_i passed found isPassed
      rw [← Except.ok.inj isRead]
      exact (Option.filter_eq_some_iff.mp isPassed).2
    · rw [eq_of_noting isRead]
      exact isWaste_standardWaste

/-- A document gives a waste factor that passes its check. -/
theorem isWaste_of_documentWaste {document : Toml.Document} {waste : Binary64}
    (isRead : (documentWaste document).1 = .ok waste) : isWaste waste = true := by
  unfold documentWaste at isRead
  split at isRead
  · obtain rfl := Except.ok.inj isRead
    exact isWaste_standardWaste
  · split at isRead
    · obtain rfl := Except.ok.inj isRead
      exact isWaste_standardWaste
    · exact isWaste_of_readWaste isRead
  · contradiction

/-- The override is a waste factor or leaves the earlier one. -/
theorem isWaste_of_overriddenWaste {override : String} {earlier waste : Binary64}
    (earlierIsWaste : isWaste earlier = true)
    (isRead : (overriddenWaste override earlier).1 = .ok waste) : isWaste waste = true := by
  unfold overriddenWaste at isRead
  split at isRead
  · obtain rfl := Except.ok.inj isRead
    exact earlierIsWaste
  · exact isWaste_of_readWaste isRead

/-- A sheet that is read has real sides. -/
theorem exists_sides {value : Toml.Value} {sheet : Sheet}
    (isSheet : sheet? value = .ok (some sheet)) :
    ∃ width height, sheet.width = .real width ∧ sheet.height = .real height := by
  unfold sheet? at isSheet
  split at isSheet
  · split at isSheet
    · split at isSheet
      · cases isSheet
      · obtain ⟨width, isWidth, rest⟩ := Except.bind_eq_ok_iff.mp isSheet
        split at rest
        · obtain ⟨height, isHeight, rest⟩ := Except.bind_eq_ok_iff.mp rest
          split at rest
          · obtain rfl := Option.some.inj (Except.ok.inj rest)
            exact ⟨_, _, rfl, rfl⟩
          · cases rest
        · cases rest
    · cases isSheet
  · cases isSheet

/-- An entry that is kept has a size. -/
theorem isKept_of_readSheet {entry : Toml.Value} {sheet : Sheet}
    (isRead : (readSheet entry).1 = .ok (some sheet)) : sheet.IsKept := by
  unfold readSheet at isRead
  split at isRead
  · contradiction
  · have equal := eq_of_noting isRead
    contradiction
  · rename_i found isSheet
    split at isRead
    · rename_i sized
      obtain rfl := Option.some.inj (Except.ok.inj isRead)
      obtain ⟨width, height, isWidth, isHeight⟩ := exists_sides isSheet
      rw [hasSize, isWidth, isHeight] at sized
      simp only [Amount.isAtMostZero, Bool.not_eq_true', Bool.or_eq_false_iff] at sized
      exact ⟨width, height, isWidth, isHeight, sized⟩
    · cases Except.ok.inj isRead

/-- Every sheet of a list has a size. -/
theorem isKept_of_readSheets {entries : List Toml.Value} {sheets : List Sheet}
    (isRead : (readSheets entries).1 = .ok sheets) : ∀ sheet ∈ sheets, sheet.IsKept := by
  induction entries generalizing sheets with
  | nil =>
      obtain rfl := Except.ok.inj isRead
      exact List.forall_mem_nil _
  | cons entry rest inductionHypothesis =>
      rw [readSheets_cons, Noted.andThen_eq_ok_iff] at isRead
      obtain ⟨first, isFirst, isRead⟩ := isRead
      obtain ⟨others, areOthers, equal⟩ := Noted.andThen_eq_ok_iff.mp isRead
      obtain rfl := Except.ok.inj equal
      refine List.forall_mem_append.mpr ⟨fun sheet isMember => ?_, inductionHypothesis areOthers⟩
      rw [Option.mem_toList] at isMember
      exact isKept_of_readSheet (isMember ▸ isFirst)

/-- Every sheet of a document has a size. -/
theorem isKept_of_documentSheets {document : Toml.Document} {sheets : List Sheet}
    (isRead : (documentSheets document).1 = .ok sheets) : ∀ sheet ∈ sheets, sheet.IsKept := by
  unfold documentSheets at isRead
  split at isRead
  · obtain rfl := Except.ok.inj isRead
    exact List.forall_mem_nil _
  · split at isRead
    · exact isKept_of_readSheets isRead
    · contradiction

/-- The standard sheets have sizes too. -/
theorem isKept_orStandard {sheets : List Sheet} (kept : ∀ sheet ∈ sheets, sheet.IsKept) :
    ∀ sheet ∈ orStandard sheets, sheet.IsKept := by
  unfold orStandard
  split
  · unfold standardSheets
    rw [List.forall_mem_cons, List.forall_mem_singleton]
    exact ⟨⟨_, _, rfl, rfl, by decide +kernel, by decide +kernel⟩,
      ⟨_, _, rfl, rfl, by decide +kernel, by decide +kernel⟩⟩
  · exact kept

/-- A loaded stock has a waste factor that passed the check, and kept sheets. -/
theorem load_kept {setup : Setup} {stock : Stock} (loaded : (load setup).1 = .ok stock) :
    (∃ waste, stock.waste = .real waste ∧ isWaste waste = true) ∧ stock.sheets ≠ [] ∧
      ∀ sheet ∈ stock.sheets, sheet.IsKept := by
  unfold load at loaded
  split at loaded
  · contradiction
  · obtain ⟨earlier, isEarlier, loaded⟩ := Noted.andThen_eq_ok_iff.mp loaded
    obtain ⟨waste, hasWaste, loaded⟩ := Noted.andThen_eq_ok_iff.mp loaded
    obtain ⟨sheets, areSheets, loaded⟩ := Noted.andThen_eq_ok_iff.mp loaded
    obtain rfl := Except.ok.inj loaded
    exact ⟨⟨waste, rfl, isWaste_of_overriddenWaste (isWaste_of_documentWaste isEarlier) hasWaste⟩,
      orStandard_ne_nil sheets, isKept_orStandard (isKept_of_documentSheets areSheets)⟩

end Stock

end Casework
