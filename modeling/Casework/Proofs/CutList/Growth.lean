import Casework.Proofs.Binary64.Order
import Casework.Proofs.CutList.Range

namespace Casework

open Binary64

/-- A waste factor is finite and at least zero. -/
def Amount.isWaste : Amount → Bool
  | .integer value => 0 ≤ value
  | .real (.finite value) => 0 ≤ value.units
  | .real _ => false

/-- One and a waste factor are at least zero together. -/
theorem Amount.zero_atMost_factor {waste : Amount} {factor : Binary64}
    (isWaste : waste.isWaste = true) (hasFactor : waste.plusOne.nearest = .ok factor) :
    zero.atMost factor = true := by
  cases waste with
  | integer value =>
      have above : 0 ≤ value := of_decide_eq_true isWaste
      have notNegative : decide (1 + value < 0) = false := decide_eq_false (by omega)
      rw [plusOne_integer] at hasFactor
      cases isNearest : nearest? (.integer (1 + value)) with
      | none =>
          rw [nearest_of_none isNearest] at hasFactor
          contradiction
      | some number =>
          rw [nearest_of_some isNearest, eq_ofInt_of_nearest isNearest] at hasFactor
          rw [← Except.ok.inj hasFactor, zero_atMost_iff]
          unfold ofInt ofRatio
          rw [rank_ofUnits, notNegative]
          exact ⟨ofUnits_ne_notNumber _ _ _, roundSigned_nonneg (Int.natCast_nonneg _) 1⟩
  | real value =>
      cases value with
      | finite value =>
          rw [plusOne_real, nearest_real] at hasFactor
          rw [← Except.ok.inj hasFactor]
          have oneNotBelow : zero.atMost one = true := by decide +kernel
          have above : 0 ≤ value.units := of_decide_eq_true isWaste
          exact zero_atMost_add oneNotBelow (zero_atMost_iff.mpr ⟨by simp, above⟩)
      | infinite negative => contradiction
      | notNumber => contradiction

/-- The area of a sheet is finite and above zero. -/
def Sheet.hasPositiveArea (sheet : Sheet) : Bool :=
  match sheet.area with
  | .ok (.finite area) => 0 < area.units
  | _ => false

/-- A sheet with a positive area has a finite one. -/
theorem Sheet.exists_of_hasPositiveArea {sheet : Sheet}
    (hasPositive : sheet.hasPositiveArea = true) :
    ∃ area : Finite, sheet.area = .ok (.finite area) ∧ 0 < area.units := by
  unfold hasPositiveArea at hasPositive
  split at hasPositive
  · rename_i area hasArea
    exact ⟨area, hasArea, of_decide_eq_true hasPositive⟩
  · contradiction

/-- A usable stock has a waste factor and sheets with positive areas. -/
structure Stock.Usable (stock : Stock) : Prop where
  waste : stock.waste.isWaste = true
  sheets : ∀ sheet ∈ stock.sheets, sheet.hasPositiveArea = true

/-- The standard stock is usable. -/
theorem Stock.standard_usable : standard.Usable := ⟨by decide +kernel, by decide +kernel⟩

namespace Sheet

variable {sheet : Sheet} {waste : Amount} {area : Finite}

/-- Behind every count stand finite numbers. -/
theorem exists_of_count (hasArea : sheet.area = .ok (.finite area)) (positive : 0 < area.units)
    {total : Binary64} {count : Int} (isCount : sheet.count (.real total) waste = .ok count) :
    ∃ value quotient factor product : Finite, total = .finite value ∧
      waste.plusOne.nearest = .ok (.finite factor) ∧ value.div area = .finite quotient ∧
      quotient.mul factor = .finite product ∧ count = product.ceiling := by
  have nonzero : (Binary64.finite area).isZero = false :=
    area.isZero_eq_false_iff.mpr (Int.ne_of_gt positive)
  cases hasFactor : waste.plusOne.nearest with
  | error error =>
      unfold Sheet.count at isCount
      rw [hasArea, Amount.nearest_real, hasFactor] at isCount
      simp [nonzero] at isCount
  | ok factor =>
      rw [count_of_area hasArea nonzero hasFactor] at isCount
      cases isProduct : (total.div (.finite area)).mul factor with
      | infinite negative =>
          rw [isProduct] at isCount
          contradiction
      | notNumber =>
          rw [isProduct] at isCount
          contradiction
      | finite product =>
          rw [isProduct] at isCount
          obtain ⟨⟨quotient, isQuotient⟩, number, isNumber⟩ := mul_eq_finite isProduct
          obtain ⟨value, isValue⟩ := exists_finite_of_div isQuotient
          rw [isQuotient, isNumber] at isProduct
          rw [isValue] at isQuotient
          rw [isNumber]
          exact ⟨value, quotient, number, product, isValue, rfl, isQuotient, isProduct,
            (Except.ok.inj isCount).symm⟩

/-- A total that is not less needs no fewer sheets. -/
theorem count_le_count (hasArea : sheet.area = .ok (.finite area)) (positive : 0 < area.units)
    (isWaste : waste.isWaste = true) {first second : Binary64} {fewer more : Int}
    (isFewer : sheet.count (.real first) waste = .ok fewer)
    (isMore : sheet.count (.real second) waste = .ok more)
    (notLess : second.less first = false) : fewer ≤ more := by
  obtain ⟨small, smallQuotient, factor, smallProduct, rfl, hasFactor, isSmallQuotient,
    isSmallProduct, rfl⟩ := exists_of_count hasArea positive isFewer
  obtain ⟨large, largeQuotient, same, largeProduct, rfl, hasSame, isLargeQuotient,
    isLargeProduct, rfl⟩ := exists_of_count hasArea positive isMore
  rw [hasFactor] at hasSame
  cases hasSame
  have factorAbove := (zero_atMost_iff.mp (Amount.zero_atMost_factor isWaste hasFactor)).2
  have totals : small.units ≤ large.units := Int.not_lt.mp (of_decide_eq_false notLess)
  have quotients : smallQuotient.units ≤ largeQuotient.units := by
    have ranks := Finite.rank_div_le_rank_div positive totals
    rw [isSmallQuotient, isLargeQuotient] at ranks
    exact ranks
  have products : smallProduct.units ≤ largeProduct.units := by
    have ranks := Finite.rank_mul_le_rank_mul factorAbove quotients
    rw [isSmallProduct, isLargeProduct] at ranks
    exact ranks
  exact Finite.ceiling_le_ceiling products

/-- A total that is not below zero has a count that is not below zero. -/
theorem zero_le_count (hasArea : sheet.area = .ok (.finite area)) (positive : 0 < area.units)
    (isWaste : waste.isWaste = true) {total : Binary64} {count : Int}
    (isCount : sheet.count (.real total) waste = .ok count)
    (notBelow : zero.atMost total = true) : 0 ≤ count := by
  obtain ⟨value, quotient, factor, product, rfl, hasFactor, isQuotient, isProduct, rfl⟩ :=
    exists_of_count hasArea positive isCount
  have factorAbove := (zero_atMost_iff.mp (Amount.zero_atMost_factor isWaste hasFactor)).2
  have valueAbove := (zero_atMost_iff.mp notBelow).2
  have quotientAbove : 0 ≤ (Binary64.finite quotient).rank := by
    rw [← isQuotient, Finite.rank_div value positive]
    exact roundSigned_nonneg (Int.mul_nonneg valueAbove (Int.natCast_nonneg _)) _
  have productAbove : 0 ≤ (Binary64.finite product).rank := by
    rw [← isProduct, Finite.rank_mul]
    exact roundSigned_nonneg (Int.mul_nonneg quotientAbove factorAbove) _
  exact Finite.zero_le_ceiling productAbove

end Sheet

namespace CutList

/-- Every count of a finished cut list belongs to a sheet of the stock. -/
theorem Finished.forall₂_counts {list : CutList} {template : String} {cuts : List Cut}
    {stock : Stock} (finished : list.Finished template cuts stock) :
    List.Forall₂ (fun sheet entry => entry.1 = sheet.name ∧
      sheet.count (.real list.totalArea) stock.waste = .ok entry.2) stock.sheets list.sheets := by
  have counts := finished.counts_eq
  rw [← List.forall₂_eq_eq_eq, List.forall₂_map_left_iff, List.forall₂_map_right_iff] at counts
  apply counts.imp
  intro sheet entry isEntry
  obtain ⟨count, isCount, rfl⟩ := Except.map_eq_ok_iff.mp isEntry
  exact ⟨rfl, isCount⟩

/-- A row without an area leaves the total as it is. -/
@[simp]
theorem total_append_none (areas : List (Option Binary64)) :
    total (areas ++ [none]) = total areas := by
  simp [total]

/-- The total of areas that are not below zero is not below zero. -/
theorem zero_atMost_total {areas : List (Option Binary64)}
    (notBelow : ∀ area, some area ∈ areas → zero.atMost area = true) :
    zero.atMost (total areas) = true := by
  rw [total_eq_foldl]
  have zeroNotBelow : zero.atMost zero = true := by decide +kernel
  apply zero_atMost_foldl_add zeroNotBelow
  exact fun area isArea => notBelow area (List.reduceOption_mem_iff.mp isArea)

/-- Only an area below zero lowers a total. -/
theorem less_total_append {areas : List (Option Binary64)} {last : Option Binary64}
    (notBelow : ∀ area, last = some area → zero.atMost area = true) :
    (total (areas ++ [last])).less (total areas) = false := by
  cases last with
  | none =>
      rw [total_append_none]
      exact less_self _
  | some area =>
      rw [total_append]
      exact less_add_self _ (notBelow area rfl)

section Usable

variable {stock : Stock} {name otherName : String} {cuts otherCuts : List Cut}

/-- Areas that are not below zero need no sheet below zero. -/
theorem Finished.zero_atMost_total {list : CutList} (finished : list.Finished name cuts stock)
    (usable : stock.Usable) (notBelow : ∀ area, some area ∈ list.areas → zero.atMost area = true) :
    zero.atMost list.totalArea = true ∧ ∀ sheet ∈ list.sheets, 0 ≤ sheet.2 := by
  have totalNotBelow : zero.atMost list.totalArea = true := by
    rw [finished.total_eq]
    exact CutList.zero_atMost_total notBelow
  refine ⟨totalNotBelow, ?_⟩
  intro entry isEntry
  have isImage : Except.ok entry ∈ list.sheets.map (Except.ok : _ → Except EstimateError _) :=
    List.mem_map_of_mem isEntry
  rw [← finished.counts_eq] at isImage
  obtain ⟨sheet, isSheet, isEntryCount⟩ := List.mem_map.mp isImage
  obtain ⟨count, isCount, rfl⟩ := Except.map_eq_ok_iff.mp isEntryCount
  obtain ⟨area, hasArea, positive⟩ :=
    Sheet.exists_of_hasPositiveArea (usable.sheets sheet isSheet)
  exact Sheet.zero_le_count hasArea positive usable.waste isCount totalNotBelow

/-- A total that is not less needs no fewer sheets of any size. -/
theorem Finished.forall₂_le {small large : CutList} (finishedSmall : small.Finished name cuts stock)
    (finishedLarge : large.Finished otherName otherCuts stock) (usable : stock.Usable)
    (notLess : large.totalArea.less small.totalArea = false) :
    List.Forall₂ (fun before after => before.1 = after.1 ∧ before.2 ≤ after.2)
      small.sheets large.sheets := by
  apply List.Forall₂.of_common finishedSmall.forall₂_counts finishedLarge.forall₂_counts
  intro sheet isSheet before after isBefore isAfter
  obtain ⟨area, hasArea, positive⟩ :=
    Sheet.exists_of_hasPositiveArea (usable.sheets sheet isSheet)
  exact ⟨isBefore.1.trans isAfter.1.symm,
    Sheet.count_le_count hasArea positive usable.waste isBefore.2 isAfter.2 notLess⟩

end Usable

/-- A usable stock counts no sheet below zero when no area is below zero, and an appended panel
lowers neither the total nor a count when its own area is not below zero. -/
theorem ofTemplate_grows (shorter longer : Template) (panel : Panel) (bindings : Bindings)
    (stock : Stock) (small large : CutList) (usable : stock.Usable)
    (appended : longer.panels = shorter.panels ++ [panel])
    (isSmall : ofTemplate shorter bindings stock = .ok small)
    (isLarge : ofTemplate longer bindings stock = .ok large) :
    (∀ list ∈ [small, large], (∀ area, some area ∈ list.areas → zero.atMost area = true) →
      zero.atMost list.totalArea = true ∧ ∀ sheet ∈ list.sheets, 0 ≤ sheet.2) ∧
    ((∀ area, large.areas.getLast? = some (some area) → zero.atMost area = true) →
      large.totalArea.less small.totalArea = false ∧
      List.Forall₂ (fun before after => before.1 = after.1 ∧ before.2 ≤ after.2)
        small.sheets large.sheets) := by
  have finishedSmall := finished_of_ofTemplate isSmall
  have finishedLarge := finished_of_ofTemplate isLarge
  constructor
  · rw [List.forall_mem_cons, List.forall_mem_singleton]
    exact ⟨finishedSmall.zero_atMost_total usable, finishedLarge.zero_atMost_total usable⟩
  · intro notBelow
    have areas : large.areas = small.areas ++ [(panel.cutAlone bindings).wideArea?] := by
      rw [finishedLarge.areas_eq, finishedSmall.areas_eq, appended, List.map_append,
        List.map_append]
      rfl
    have notLess : large.totalArea.less small.totalArea = false := by
      rw [finishedLarge.total_eq, finishedSmall.total_eq, areas]
      apply less_total_append
      intro area isArea
      apply notBelow
      rw [areas, List.getLast?_concat, isArea]
    exact ⟨notLess, finishedSmall.forall₂_le finishedLarge usable notLess⟩

/-- A second panel of the same size adds its area and no sheet. -/
theorem ofTemplate_grows_pair :
    let first := Part.panel ⟨"1000", "500"⟩ { text := "First" } 1 [] none
    let second := Part.panel ⟨"1000", "500"⟩ { text := "Second" } 1 [] none
    let shorter : Template := ⟨"t", [first], by decide +kernel⟩
    let longer : Template := ⟨"t", [first, second], by decide +kernel⟩
    ∃ small large, ofTemplate shorter .empty .standard = .ok small ∧
      ofTemplate longer .empty .standard = .ok large ∧
      large.totalArea.less small.totalArea = false ∧
      List.Forall₂ (fun before after => before.1 = after.1 ∧ before.2 ≤ after.2)
        small.sheets large.sheets := by
  intro first second shorter longer
  have smallFinishes : (ofTemplate shorter .empty .standard).toOption.isSome = true := by
    decide +kernel
  have largeFinishes : (ofTemplate longer .empty .standard).toOption.any
      (fun list => list.areas.getLast? = some (some (.ofRatio false 1 2))) = true := by
    decide +kernel
  obtain ⟨small, isSmall⟩ := Except.isSome_toOption_iff.mp smallFinishes
  obtain ⟨large, isLarge, lastArea⟩ := Except.any_toOption_iff.mp largeFinishes
  have grows := ofTemplate_grows shorter longer second .empty .standard small large
    Stock.standard_usable rfl isSmall isLarge
  refine ⟨small, large, isSmall, isLarge, grows.2 ?_⟩
  intro area isLast
  rw [of_decide_eq_true lastArea] at isLast
  cases isLast
  decide +kernel

/-- A side below zero lowers the total and the counts below zero. -/
theorem exists_ofTemplate_shrinks :
    let kept := Part.panel ⟨"1000", "500"⟩ { text := "Kept" } 1 [] none
    let turned := Part.panel ⟨"-1000", "5000"⟩ { text := "Turned" } 1 [] none
    let shorter : Template := ⟨"t", [kept], by decide +kernel⟩
    let longer : Template := ⟨"t", [kept, turned], by decide +kernel⟩
    Stock.standard.Usable ∧ longer.panels = shorter.panels ++ [turned] ∧
      ∃ small large, ofTemplate shorter .empty .standard = .ok small ∧
        ofTemplate longer .empty .standard = .ok large ∧
        small.sheets = [("standard", 1), ("large", 1)] ∧
        large.sheets = [("standard", -1), ("large", -1)] ∧
        large.totalArea.less zero = true ∧ large.totalArea.less small.totalArea = true := by
  intro kept turned shorter longer
  have smallFinishes : (ofTemplate shorter .empty .standard).toOption.any (fun list =>
      list.sheets = [("standard", 1), ("large", 1)] ∧ list.totalArea = .ofRatio false 1 2) =
        true := by decide +kernel
  have largeFinishes : (ofTemplate longer .empty .standard).toOption.any (fun list =>
      list.sheets = [("standard", -1), ("large", -1)] ∧ list.totalArea = .ofRatio true 9 2) =
        true := by decide +kernel
  obtain ⟨small, isSmall, found⟩ := Except.any_toOption_iff.mp smallFinishes
  obtain ⟨large, isLarge, foundToo⟩ := Except.any_toOption_iff.mp largeFinishes
  obtain ⟨smallSheets, smallTotal⟩ := of_decide_eq_true found
  obtain ⟨largeSheets, largeTotal⟩ := of_decide_eq_true foundToo
  refine ⟨Stock.standard_usable, rfl, small, large, isSmall, isLarge, smallSheets, largeSheets,
    ?_, ?_⟩
  · rw [largeTotal]
    decide +kernel
  · rw [largeTotal, smallTotal]
    decide +kernel

end CutList

end Casework
