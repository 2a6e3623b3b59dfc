import TableGateway.Sql.Identifier

/-! # Plain identifiers between quotes -/

namespace TableGateway.Sql.Identifier

theorem isNameChar_of_isValid {s : String} (h : isValid s = true) :
    ∀ c ∈ s.toList, isNameChar c = true := by
  simp only [isValid, Bool.and_eq_true, List.all_eq_true] at h
  exact h.2

theorem toList_ne_nil_of_isValid {s : String} (h : isValid s = true) : s.toList ≠ [] := by
  simp only [isValid, Bool.and_eq_true] at h
  simpa using h.1.1

/-- A plain identifier holds no quote, so none is written twice. -/
theorem quotedChars_of_isValid {s : String} (h : isValid s = true) :
    quotedChars s = '"' :: s.toList ++ ['"'] := by
  have hdoubled : ∀ cs : List Char, (∀ c ∈ cs, isNameChar c = true) → cs.flatMap doubled = cs := by
    intro cs hcs
    induction cs with
    | nil => rfl
    | cons c cs ih =>
        have hc : c ≠ '"' := by
          rintro rfl
          exact absurd (hcs '"' (by simp)) (by decide)
        have htail : cs.flatMap doubled = cs := ih fun d hd => hcs d (by simp [hd])
        rw [List.flatMap_cons, htail]
        simp [doubled, hc]
  rw [quotedChars, hdoubled s.toList (isNameChar_of_isValid h)]

theorem quoted_of_isValid {s : String} (h : isValid s = true) :
    quoted s = "\"" ++ s ++ "\"" := by
  rw [quoted, quotedChars_of_isValid h]
  simp [String.append_assoc]

end TableGateway.Sql.Identifier
