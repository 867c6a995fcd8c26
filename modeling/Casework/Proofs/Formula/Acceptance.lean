import Casework.Proofs.Decimal.Numeral
import Casework.Proofs.Formula.Exactness
import Casework.Proofs.Formula.Refusal
import Casework.Proofs.Formula.Unambiguity

namespace Casework.Expression

open Grammar

/-- A formula takes all tokens. -/
theorem readAll_eq_run (finish : Token) (tokens : List Token) :
    readAll finish tokens =
      ((readNested finish depthLimit).run tokens >>= fun parsed =>
        match parsed.2 with
        | [] => .ok parsed.1
        | token :: _ => .error ⟨.trailingToken token, token.position⟩) := by
  unfold readAll Reader.run
  cases readNested finish depthLimit tokens with
  | error error => rfl
  | ok parsed =>
      obtain ⟨tree, rest, shorter⟩ := parsed
      cases rest with
      | nil => rfl
      | cons token rest => rfl

/-- All tokens are read exactly when they are those of a formula within the limits. -/
theorem readAll_eq_ok_iff {finish : Token} {tokens : List Token} {tree : Expression} :
    readAll finish tokens = .ok tree ↔
      ∃ derivation : Derivation .formula, derivation.tokens = tokens ∧
        derivation.tree? = some tree ∧ Fits depthLimit derivation.levels tree := by
  rw [readAll_eq_run]
  constructor
  · intro read
    obtain ⟨⟨found, rest⟩, readNested, read⟩ := Except.bind_eq_ok_iff.mp read
    cases rest with
    | nil =>
        cases read
        obtain ⟨derivation, consumed, hasTree, fits⟩ :=
          sound_readNested finish depthLimit tokens _ [] readNested
        exact ⟨derivation, by rw [consumed, List.append_nil], hasTree, fits⟩
    | cons token rest => contradiction
  · rintro ⟨derivation, equal, hasTree, fits⟩
    rcases exact_readNested finish depthLimit derivation tree [] hasTree (stops_nil _) with
      ⟨_, run⟩ | ⟨deep, _⟩
    · rw [List.append_nil, equal] at run
      rw [run]
      rfl
    · exact absurd fits deep

/-- A derivation outside the limits is refused for its nesting and for nothing else. -/
theorem readAll_of_not_fits {finish : Token} {derivation : Derivation .formula}
    {tree : Expression} (hasTree : derivation.tree? = some tree)
    (deep : ¬ Fits depthLimit derivation.levels tree) :
    ∃ position, readAll finish derivation.tokens = .error ⟨.nestedTooDeeply, position⟩ := by
  rcases exact_readNested finish depthLimit derivation tree [] hasTree (stops_nil _) with
    ⟨fits, _⟩ | ⟨_, position, run⟩
  · exact absurd fits deep
  · rw [List.append_nil] at run
    exact ⟨position, by rw [readAll_eq_run, run]; rfl⟩

/-- A word of readable tokens is refused for a reason about the formula. -/
theorem aboutFormula_readAll {finish : Token} {tokens : List Token} {error : SyntaxError}
    (readable : Readable tokens) (refused : readAll finish tokens = .error error) :
    AboutFormula error := by
  rw [readAll_eq_run] at refused
  rcases Except.bind_eq_error_iff.mp refused with refused | ⟨⟨tree, rest⟩, _, refused⟩
  · exact proper_readNested finish depthLimit tokens error readable refused
  · cases rest with
    | nil => contradiction
    | cons token rest =>
        cases refused
        exact fun text => by simp

/-- A stream that ends is read as its tokens. -/
theorem ofStream_of_ended {tokens : List Token} (ended : tokens.getLast?.any endsInput = true) :
    ofStream tokens = (ofTokens tokens).mapError .notFormula := if_pos ended

/-- A stream is a formula exactly when the tokens before its end have a derivation with the same
tree, whose formulas are nested in at most 64 levels and whose tree has a depth of at most 64.
Every other stream is refused for what is wrong with the formula. There is at most one
derivation. -/
theorem ofStream_exact (tokens : List Token) (ended : tokens.getLast?.any endsInput = true)
    (numerals : ∀ token ∈ tokens, token.kind = .number →
      ∃ value, Decimal.Numeral token.text.toList value) :
    let word := tokens.takeWhile fun token => !endsInput token
    (∀ tree, ofStream tokens = .ok tree ↔
      ∃ derivation : Derivation .formula, derivation.tokens = word ∧
        derivation.tree? = some tree ∧ derivation.levels ≤ 64 ∧ tree.depth ≤ 64) ∧
    ((∀ tree, ofStream tokens ≠ .ok tree) →
      ∃ error, ofStream tokens = .error (.notFormula error) ∧ AboutFormula error) ∧
    ∀ first second : Derivation .formula,
      first.tokens = word → second.tokens = word → first = second := by
  intro word
  have readable : Readable word := by
    intro token isMember isNumber
    obtain ⟨value, numeral⟩ := numerals token (List.takeWhile_subset _ isMember) isNumber
    exact ⟨_, Decimal.read_of_numeral numeral⟩
  rw [ofStream_of_ended ended]
  unfold ofTokens
  refine ⟨fun tree => ?_, fun refused => ?_, fun first second isFirst isSecond =>
    Derivation.eq_of_tokens_eq (isFirst.trans isSecond.symm)⟩
  · rw [Except.mapError_eq_ok_iff]
    exact readAll_eq_ok_iff
  · cases read : readAll ((tokens.find? endsInput).getD ⟨.endOfInput, "", 0⟩) word with
    | ok tree => exact absurd (Except.mapError_eq_ok_iff.mpr read) (refused tree)
    | error error => exact ⟨error, by rfl, aboutFormula_readAll readable read⟩

/-- The product of two and a negated parameter is a formula. -/
theorem ofStream_product :
    let two : Binary64.Finite := ⟨false, 2 * Binary64.unitsPerOne, by decide +kernel⟩
    ofStream [⟨.number, "2", 0⟩, ⟨.star, "*", 1⟩, ⟨.minus, "-", 2⟩, ⟨.identifier, "x", 3⟩,
        ⟨.endOfInput, "", 4⟩] =
      .ok (.binary .mul (.number two) (.negate (.parameter "x"))) := by
  intro two
  have areDigits : Decimal.IsDigits "2".toList := by
    refine ⟨by decide, fun character isMember => ?_⟩
    rw [List.mem_singleton.mp isMember]
    decide
  have digit : Decimal.Numeral "2".toList ⟨2, 0⟩ := .whole areDigits
  have numerals : ∀ token ∈ [(⟨.number, "2", 0⟩ : Token), ⟨.star, "*", 1⟩, ⟨.minus, "-", 2⟩,
      ⟨.identifier, "x", 3⟩, ⟨.endOfInput, "", 4⟩],
      token.kind = .number → ∃ value, Decimal.Numeral token.text.toList value := by
    intro token isMember isNumber
    simp only [List.mem_cons, List.not_mem_nil, or_false] at isMember
    rcases isMember with rfl | rfl | rfl | rfl | rfl
    · exact ⟨_, digit⟩
    all_goals contradiction
  have denotes : literal? "2" = some two := by
    rw [literal_of_numeral digit]
    decide +kernel
  refine ((ofStream_exact _ (by decide) numerals).1 _).mpr
    ⟨.unconditional (.lone (.joined (.lone (.unsigned (.number ⟨.number, "2", 0⟩ rfl)))
      ⟨.star, "*", 1⟩ .mul (by decide) rfl
      (.negated ⟨.minus, "-", 2⟩ rfl (.parameter ⟨.identifier, "x", 3⟩ rfl)))),
      rfl, ?_, by decide, by decide⟩
  simp [Derivation.tree?, denotes]

end Casework.Expression
