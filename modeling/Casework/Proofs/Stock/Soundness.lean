import Casework.Proofs.CutList.Growth
import Casework.Proofs.Stock.Loading

namespace Casework

open Binary64

/-- A side is finite and above zero. -/
def Amount.isSide : Amount → Bool
  | .integer value => 0 < value
  | .real (.finite value) => 0 < value.units
  | .real _ => false

/-- This many units are `2 ^ 500`. -/
@[irreducible]
def longestSide : Nat := Nat.pow 2 500 * unitsPerOne

/-- This many units are `2 ^ 1000`. -/
@[irreducible]
def largestProduct : Nat := Nat.pow 2 1000 * unitsPerOne

/-- A moderate side measures at least one millimetre and at most `2 ^ 500`. -/
def Amount.isModerate : Amount → Bool
  | .real (.finite value) =>
    (unitsPerOne : Int) ≤ value.units && value.units ≤ (longestSide : Int)
  | _ => false

/-- A sound stock is usable, it has a sheet, and all sides are finite and above zero. -/
structure Stock.Sound (stock : Stock) : Prop extends stock.Usable where
  nonempty : stock.sheets ≠ []
  sides : ∀ sheet ∈ stock.sheets, sheet.width.isSide = true ∧ sheet.height.isSide = true

namespace Sheet

variable {sheet : Sheet}

/-- Areas are divided by this number. -/
def million : Finite := ⟨false, squareMillimetres * unitsPerOne, by decide +kernel⟩

theorem ofInt_squareMillimetres : ofInt squareMillimetres = .finite million := by decide +kernel

theorem million_pos : 0 < million.units := by decide +kernel

/-- The area of a sheet with real sides is their product in square metres. -/
theorem area_eq_div {width height : Binary64} (isWidth : sheet.width = .real width)
    (isHeight : sheet.height = .real height) :
    sheet.area = .ok ((width.mul height).div (.finite million)) := by
  rw [← ofInt_squareMillimetres, ← area_of_real sheet.name, ← isWidth, ← isHeight]

/-- Behind a finite area of a kept sheet stand two finite sides above zero. -/
theorem IsKept.exists_sides (kept : sheet.IsKept) {area : Finite}
    (hasArea : sheet.area = .ok (.finite area)) :
    ∃ width height product : Finite, sheet.width = .real (.finite width) ∧
      sheet.height = .real (.finite height) ∧ 0 < width.units ∧ 0 < height.units ∧
      width.mul height = .finite product ∧ product.div million = .finite area := by
  obtain ⟨width, height, isWidth, isHeight, widthAbove, heightAbove⟩ := kept
  rw [area_eq_div isWidth isHeight] at hasArea
  have isQuotient := Except.ok.inj hasArea
  obtain ⟨product, isProduct⟩ := exists_finite_of_div isQuotient
  obtain ⟨⟨first, rfl⟩, second, rfl⟩ := mul_eq_finite isProduct
  rw [isProduct] at isQuotient
  exact ⟨first, second, product, isWidth, isHeight, Finite.units_pos widthAbove,
    Finite.units_pos heightAbove, isProduct, isQuotient⟩

/-- A finite area of a kept sheet is not below zero. -/
theorem IsKept.zero_le_area (kept : sheet.IsKept) {area : Finite}
    (hasArea : sheet.area = .ok (.finite area)) : 0 ≤ area.units := by
  obtain ⟨width, height, product, -, -, widthAbove, heightAbove, isProduct, isQuotient⟩ :=
    kept.exists_sides hasArea
  have productNotBelow : 0 ≤ (Binary64.finite product).rank := by
    rw [← isProduct, Finite.rank_mul]
    exact roundSigned_nonneg (Int.mul_nonneg (by omega) (by omega)) _
  have areaNotBelow : 0 ≤ (Binary64.finite area).rank := by
    rw [← isQuotient, Finite.rank_div product million_pos]
    exact roundSigned_nonneg (Int.mul_nonneg productNotBelow (Int.natCast_nonneg _)) _
  exact areaNotBelow

/-- An area of a kept sheet is above zero when it is finite and not zero. -/
theorem IsKept.hasPositiveArea_iff (kept : sheet.IsKept) :
    sheet.hasPositiveArea = true ↔
      ∃ area : Finite, sheet.area = .ok (.finite area) ∧ area.isZero = false := by
  constructor
  · intro hasPositive
    obtain ⟨area, hasArea, positive⟩ := exists_of_hasPositiveArea hasPositive
    exact ⟨area, hasArea, area.isZero_eq_false_iff.mpr (Int.ne_of_gt positive)⟩
  · rintro ⟨area, hasArea, nonzero⟩
    have notZero := area.isZero_eq_false_iff.mp nonzero
    have notBelow := kept.zero_le_area hasArea
    unfold hasPositiveArea
    rw [hasArea]
    exact decide_eq_true (by omega)

/-- A kept sheet with a positive area has sides above zero. -/
theorem IsKept.isSide_of_area (kept : sheet.IsKept) (hasPositive : sheet.hasPositiveArea = true) :
    sheet.width.isSide = true ∧ sheet.height.isSide = true := by
  obtain ⟨area, hasArea, -⟩ := exists_of_hasPositiveArea hasPositive
  obtain ⟨width, height, -, isWidth, isHeight, widthAbove, heightAbove, -⟩ :=
    kept.exists_sides hasArea
  rw [isWidth, isHeight]
  exact ⟨decide_eq_true widthAbove, decide_eq_true heightAbove⟩

/-- A moderate side is a finite number between one and the longest side. -/
theorem exists_of_isModerate {side : Amount} (isModerate : side.isModerate = true) :
    ∃ value : Finite, side = .real (.finite value) ∧ (unitsPerOne : Int) ≤ value.units ∧
      value.units ≤ (longestSide : Int) := by
  unfold Amount.isModerate at isModerate
  split at isModerate
  · rename_i value
    rw [Bool.and_eq_true, decide_eq_true_eq, decide_eq_true_eq] at isModerate
    exact ⟨value, rfl, isModerate⟩
  · contradiction

/-- The product of moderate sides is finite, with a place between one and `2 ^ 1000`. -/
theorem exists_product {width height : Finite}
    (widthAbove : (unitsPerOne : Int) ≤ width.units)
    (widthBelow : width.units ≤ (longestSide : Int))
    (heightAbove : (unitsPerOne : Int) ≤ height.units)
    (heightBelow : height.units ≤ (longestSide : Int)) :
    ∃ product : Finite, width.mul height = .finite product ∧
      (unitsPerOne : Int) ≤ product.units ∧ product.units ≤ (largestProduct : Int) := by
  have least : roundSigned (unitsPerOne * unitsPerOne : Int) unitsPerOne = unitsPerOne := by
    decide +kernel
  have greatest : roundSigned (longestSide * longestSide : Int) unitsPerOne = largestProduct := by
    decide +kernel
  have limited : (largestProduct : Int) < countLimit := by decide +kernel
  have onePositive : (0 : Int) < unitsPerOne := Int.natCast_pos.mpr unitsPerOne_pos
  obtain ⟨above, below⟩ := roundSigned_bounds unitsPerOne_pos
    (Int.mul_le_mul widthAbove heightAbove (by omega) (by omega))
    (Int.mul_le_mul widthBelow heightBelow (by omega) (by omega))
  rw [least, ← Finite.rank_mul] at above
  rw [greatest, ← Finite.rank_mul] at below
  obtain ⟨product, isProduct⟩ := exists_finite_of_rank (Finite.mul_ne_notNumber width height)
    (Int.le_trans (Int.le_of_lt onePositive) above) (Int.lt_of_le_of_lt below limited)
  rw [isProduct] at above below
  exact ⟨product, isProduct, above, below⟩

/-- Moderate sides have a positive area. -/
theorem hasPositiveArea_of_isModerate (isWidth : sheet.width.isModerate = true)
    (isHeight : sheet.height.isModerate = true) : sheet.hasPositiveArea = true := by
  obtain ⟨width, hasWidth, widthAbove, widthBelow⟩ := exists_of_isModerate isWidth
  obtain ⟨height, hasHeight, heightAbove, heightBelow⟩ := exists_of_isModerate isHeight
  obtain ⟨product, isProduct, productAbove, productBelow⟩ :=
    exists_product widthAbove widthBelow heightAbove heightBelow
  have least : 0 < roundSigned (unitsPerOne * unitsPerOne : Int) million.count := by
    decide +kernel
  have greatest : roundSigned (largestProduct * unitsPerOne : Int) million.count < countLimit := by
    decide +kernel
  have counted : 0 < million.count := by decide +kernel
  obtain ⟨above, below⟩ := roundSigned_bounds counted
    (Int.mul_le_mul_of_nonneg_right productAbove (Int.natCast_nonneg unitsPerOne))
    (Int.mul_le_mul_of_nonneg_right productBelow (Int.natCast_nonneg unitsPerOne))
  rw [← Finite.rank_div product million_pos] at above below
  have isNumber : product.div million ≠ .notNumber := Finite.div_ne_notNumber (by decide +kernel)
  obtain ⟨area, isArea⟩ := exists_finite_of_rank isNumber
    (Int.le_of_lt (Int.lt_of_lt_of_le least above)) (Int.lt_of_le_of_lt below greatest)
  have hasArea : sheet.area = .ok (.finite area) := by
    have isMultiple : (Binary64.finite width).mul (.finite height) = .finite product := isProduct
    rw [area_eq_div hasWidth hasHeight, isMultiple]
    exact congrArg Except.ok isArea
  rw [isArea] at above
  unfold hasPositiveArea
  rw [hasArea]
  exact decide_eq_true (Int.lt_of_lt_of_le least above)

/-- A count is the ceiling of a finite estimate. -/
theorem count_eq_ok_iff {area waste : Finite} (hasArea : sheet.area = .ok (.finite area))
    (nonzero : area.isZero = false) (total : Finite) (count : Int) :
    sheet.count (.real (.finite total)) (.real (.finite waste)) = .ok count ↔
      ∃ estimate : Finite, (total.div area).mul (one.add (.finite waste)) = .finite estimate ∧
        count = estimate.ceiling := by
  have isZero : (Binary64.finite area).isZero = false := nonzero
  have factor : (Amount.real (.finite waste)).plusOne.nearest = .ok (one.add (.finite waste)) := rfl
  rw [count_of_area hasArea isZero factor]
  show ceiling ((total.div area).mul (one.add (.finite waste))) = .ok count ↔ _
  cases (total.div area).mul (one.add (.finite waste)) with
  | finite estimate => simp [ceiling, eq_comm]
  | infinite negative => simp [ceiling]
  | notNumber => simp [ceiling]

end Sheet

namespace Stock

/-- Only an infinite waste factor passes the check without being one. -/
theorem isWaste_real_iff {waste : Binary64} (passed : isWaste waste = true) :
    (Amount.real waste).isWaste = true ↔ waste ≠ .infinite false := by
  obtain ⟨isNumber, notBelow⟩ := zero_atMost_iff.mp passed
  cases waste with
  | finite value =>
      have above : 0 ≤ value.units := notBelow
      simpa [Amount.isWaste] using above
  | infinite negative => simp [Amount.isWaste, eq_false_of_zero_le_rank notBelow]
  | notNumber => contradiction

/-- A usable stock of kept sheets is sound. -/
theorem sound_iff_usable {stock : Stock} (nonempty : stock.sheets ≠ [])
    (kept : ∀ sheet ∈ stock.sheets, sheet.IsKept) : stock.Sound ↔ stock.Usable :=
  ⟨Sound.toUsable, fun usable => ⟨usable, nonempty, fun sheet isMember =>
    (kept sheet isMember).isSide_of_area (usable.sheets sheet isMember)⟩⟩

/-- Settings that load give a waste factor of at least zero and sheets whose sides are not at most
zero. The stock is sound exactly when the waste factor is not infinite and every area is finite and
not zero, so moderate sides suffice. In a sound stock a finite area has a count exactly when its
estimate is finite. -/
theorem load_sound_iff (setup : Setup) (stock : Stock) (loaded : (load setup).1 = .ok stock) :
    (∃ waste, stock.waste = .real waste ∧ zero.atMost waste = true) ∧
    stock.sheets ≠ [] ∧
    (∀ sheet ∈ stock.sheets, sheet.IsKept) ∧
    (stock.Sound ↔ stock.waste ≠ .real (.infinite false) ∧
      ∀ sheet ∈ stock.sheets, ∃ area : Finite,
        sheet.area = .ok (.finite area) ∧ area.isZero = false) ∧
    (stock.waste ≠ .real (.infinite false) →
      (∀ sheet ∈ stock.sheets, sheet.width.isModerate = true ∧ sheet.height.isModerate = true) →
        stock.Sound) ∧
    (stock.Sound → ∃ waste : Finite, stock.waste = .real (.finite waste) ∧
      ∀ sheet ∈ stock.sheets, ∃ area : Finite, sheet.area = .ok (.finite area) ∧
        ∀ (total : Finite) (count : Int),
          sheet.count (.real (.finite total)) stock.waste = .ok count ↔
            ∃ estimate : Finite,
              (total.div area).mul (one.add (.finite waste)) = .finite estimate ∧
                count = estimate.ceiling) := by
  obtain ⟨⟨waste, hasWaste, passed⟩, nonempty, kept⟩ := load_kept loaded
  have soundness := sound_iff_usable nonempty kept
  have wasteIff : stock.waste.isWaste = true ↔ stock.waste ≠ .real (.infinite false) := by
    rw [hasWaste, isWaste_real_iff passed, Ne, Ne, Amount.real.injEq]
  refine ⟨⟨waste, hasWaste, passed⟩, nonempty, kept, ?_, ?_, ?_⟩
  · rw [soundness, ← wasteIff]
    exact ⟨fun usable => ⟨usable.waste, fun sheet isMember =>
        (kept sheet isMember).hasPositiveArea_iff.mp (usable.sheets sheet isMember)⟩,
      fun ⟨isWaste, areas⟩ => ⟨isWaste, fun sheet isMember =>
        (kept sheet isMember).hasPositiveArea_iff.mpr (areas sheet isMember)⟩⟩
  · intro bounded moderate
    exact soundness.mpr ⟨wasteIff.mpr bounded, fun sheet isMember =>
      Sheet.hasPositiveArea_of_isModerate (moderate sheet isMember).1 (moderate sheet isMember).2⟩
  · intro sound
    have isWaste := sound.waste
    rw [hasWaste] at isWaste ⊢
    cases waste with
    | infinite negative => contradiction
    | notNumber => contradiction
    | finite waste =>
        refine ⟨waste, rfl, fun sheet isMember => ?_⟩
        obtain ⟨area, hasArea, nonzero⟩ :=
          (kept sheet isMember).hasPositiveArea_iff.mp (sound.sheets sheet isMember)
        exact ⟨area, hasArea, Sheet.count_eq_ok_iff hasArea nonzero⟩

/-- One requested file holds the settings. -/
def Setup.ofText (text override : String) : Setup :=
  ⟨[("stock.toml", text)], some "stock.toml", "", "panelcalc.toml", override⟩

/-- A waste factor below zero and a flat sheet are left out, and ten square metres need three of the
other sheets. -/
theorem load_sound_iff_override :
    let text := "[cutlist]\nwaste_factor = -1\n[[sheets]]\nname = 7\nwidth = 0\nheight = 9\n" ++
      "[[sheets]]\nname = 18\nwidth = 2800\nheight = 2070.5\n"
    let sheet : Sheet := ⟨"18", .real (.ofInt 2800), .real (.ofRatio false 4141 2)⟩
    let stock : Stock := ⟨.real (.ofRatio false 1 4), [sheet]⟩
    let total : Finite := ⟨false, 10 * unitsPerOne, by decide +kernel⟩
    (load (.ofText text " 0.25 ")).1 = .ok stock ∧ stock.Sound ∧
      sheet.count (.real (.finite total)) stock.waste = .ok 3 ∧
      ∃ waste area estimate : Finite, stock.waste = .real (.finite waste) ∧
        sheet.area = .ok (.finite area) ∧
        (total.div area).mul (one.add (.finite waste)) = .finite estimate ∧
        3 = estimate.ceiling := by
  intro text sheet stock total
  have loaded : (load (.ofText text " 0.25 ")).1 = .ok stock := by decide +kernel
  have counted : sheet.count (.real (.finite total)) stock.waste = .ok 3 := by decide +kernel
  obtain ⟨-, -, -, -, sufficient, counts⟩ := load_sound_iff _ stock loaded
  have sound : stock.Sound := sufficient (by decide +kernel) (by decide +kernel)
  obtain ⟨waste, isWaste, onSheets⟩ := counts sound
  obtain ⟨area, hasArea, onTotals⟩ := onSheets sheet (List.mem_singleton_self sheet)
  obtain ⟨estimate, isEstimate, isCeiling⟩ := (onTotals total 3).mp counted
  exact ⟨loaded, sound, counted, waste, area, estimate, isWaste, hasArea, isEstimate, isCeiling⟩

/-- A side that is no number, an area that vanishes and an infinite waste factor are all loaded,
and no count is left. -/
theorem exists_load_unsound :
    (∃ stock, (load (.ofText "[[sheets]]\nname = 1\nwidth = nan\nheight = 2\n" "")).1 = .ok stock ∧
      ¬ stock.Sound ∧
      ∀ sheet ∈ stock.sheets, sheet.count (.real one) stock.waste = .error .notNumber) ∧
    (∃ stock, (load (.ofText "[[sheets]]\nname = 1\nwidth = 1e-200\nheight = 1e-200\n" "")).1 =
        .ok stock ∧
      ¬ stock.Sound ∧
      ∀ sheet ∈ stock.sheets, sheet.count (.real one) stock.waste = .error .zeroSheet) ∧
    ∃ stock, (load (.ofText "" "inf")).1 = .ok stock ∧
      ¬ stock.Sound ∧
      ∀ sheet ∈ stock.sheets, sheet.count (.real one) stock.waste = .error .unbounded := by
  refine ⟨⟨⟨.real standardWaste, [⟨"1", .real .notNumber, .real (.ofInt 2)⟩]⟩, by decide +kernel,
      fun sound => absurd (sound.sheets _ (List.mem_singleton_self _)) (by decide +kernel),
      by decide +kernel⟩, ?_,
    ⟨⟨.real (.infinite false), standardSheets⟩, by decide +kernel,
      fun sound => absurd sound.waste (by decide +kernel), by decide +kernel⟩⟩
  let tiny : Amount := .real (.ofRatio false 1 (10 ^ 200))
  exact ⟨⟨.real standardWaste, [⟨"1", tiny, tiny⟩]⟩, by decide +kernel,
    fun sound => absurd (sound.sheets _ (List.mem_singleton_self _)) (by decide +kernel),
    by decide +kernel⟩

end Stock

end Casework
