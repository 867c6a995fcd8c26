import Mathlib.Control.Monad.Basic

namespace Except

variable {Error Argument Result : Type}

@[simp]
theorem ok_bind (argument : Argument) (next : Argument → Except Error Result) :
    (ok argument >>= next) = next argument := rfl

@[simp]
theorem error_bind (error : Error) (next : Argument → Except Error Result) :
    (Except.error error >>= next) = .error error := rfl

@[simp]
theorem ok_map (argument : Argument) (image : Argument → Result) :
    (ok argument : Except Error Argument).map image = .ok (image argument) := rfl

@[simp]
theorem error_map (error : Error) (image : Argument → Result) :
    (Except.error error).map image = .error error := rfl

@[simp]
theorem bind_eq_ok_iff {first : Except Error Argument} {next : Argument → Except Error Result}
    {result : Result} :
    (first >>= next) = .ok result ↔
      ∃ argument, first = .ok argument ∧ next argument = .ok result := by
  cases first <;> simp

/-- Two steps fail when the first one fails, or the second one on the result of the first. -/
@[simp]
theorem bind_eq_error_iff {first : Except Error Argument}
    {next : Argument → Except Error Result} {error : Error} :
    (first >>= next) = .error error ↔
      first = .error error ∨ ∃ argument, first = .ok argument ∧ next argument = .error error := by
  cases first <;> simp

@[simp]
theorem map_eq_ok_iff {first : Except Error Argument} {image : Argument → Result}
    {result : Result} :
    first.map image = .ok result ↔ ∃ argument, first = .ok argument ∧ image argument = result := by
  cases first <;> simp

@[simp]
theorem map_eq_error_iff {first : Except Error Argument} {image : Argument → Result}
    {error : Error} : first.map image = .error error ↔ first = .error error := by
  cases first <;> simp

@[simp]
theorem mapError_eq_ok_iff {Other : Type} {first : Except Error Result} {image : Error → Other}
    {result : Result} : first.mapError image = .ok result ↔ first = .ok result := by
  cases first <;> simp [Except.mapError]

@[simp]
theorem toOption_eq_some_iff {first : Except Error Result} {result : Result} :
    first.toOption = some result ↔ first = .ok result := by
  cases first <;> simp [Except.toOption]

@[simp]
theorem isSome_toOption_iff {first : Except Error Result} :
    first.toOption.isSome = true ↔ ∃ result, first = .ok result := by
  cases first <;> simp [Except.toOption]

@[simp]
theorem isNone_toOption_iff {first : Except Error Result} :
    first.toOption.isNone = true ↔ ∃ error, first = .error error := by
  cases first <;> simp [Except.toOption]

@[simp]
theorem any_toOption_iff {first : Except Error Result} {test : Result → Bool} :
    first.toOption.any test = true ↔ ∃ result, first = .ok result ∧ test result = true := by
  cases first <;> simp [Except.toOption]

end Except
