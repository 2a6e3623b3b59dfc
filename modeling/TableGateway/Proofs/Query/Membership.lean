import TableGateway.Proofs.Parameter.Integer
import TableGateway.Proofs.Query.Operands
import TableGateway.Proofs.Sql.Fragment
import TableGateway.Proofs.Sql.Identifier

/-! # Filters by a list of items

The items that were written in quotes, or integers without any, are the items that the database is
given, all of them and in their order. Where nothing but blanks was written no row passes. -/

namespace TableGateway.Query

open Parameter (ArrivesAsWords arrivesAsWords)

variable {column operand inner : String} {items : List String} {c : Condition} {n : Nat}

/-! ## Items between commas -/

/-- A text that is an item as it stands: neither commas divide it nor blanks surround it. -/
structure IsItem (text : String) : Prop where
  comma_not_mem : ',' ∉ text.toList
  trim_eq : Text.trim text = text
  ne_nil : text.toList ≠ []

theorem isItem_inQuotes {item : String} (h : ',' ∉ item.toList) : IsItem (Text.inQuotes item) where
  comma_not_mem := Text.comma_not_mem_inQuotes h
  trim_eq := Text.trim_inQuotes item
  ne_nil := by simp [Text.inQuotes]

theorem unquoted_inQuotes (item : String) : unquoted (Text.inQuotes item) = item := by
  rw [unquoted, Text.between?_inQuotes, Option.getD_some]

theorem isItem_signedText (k : Int) : IsItem (Numeral.signedText k) where
  comma_not_mem := by
    rw [Numeral.signedText, String.toList_ofList]
    intro hcomma
    exact absurd (Numeral.isDigit_or_of_mem_ofInt ',' hcomma) (by decide)
  trim_eq := Json.Number.trim_text (.integer k)
  ne_nil := by
    rw [Numeral.signedText, String.toList_ofList]
    exact Numeral.ofInt_ne_nil k

theorem unquoted_signedText (k : Int) : unquoted (Numeral.signedText k) = Numeral.signedText k := by
  have hfront : Text.afterFront? "\"" (Numeral.signedText k) = none := by
    refine Option.eq_none_iff_forall_ne_some.mpr fun rest hrest => ?_
    have hquote : '"' ∈ Numeral.ofInt k := by
      rw [← String.toList_ofList (l := Numeral.ofInt k), ← Numeral.signedText,
        Text.afterFront?_eq_some_iff.mp hrest]
      simp
    exact absurd (Numeral.isDigit_or_of_mem_ofInt '"' hquote) (by decide)
  rw [unquoted, Text.between?, hfront, Option.bind_none, Option.getD_none]

theorem listItems_joined (hne : items ≠ []) (hitems : ∀ item ∈ items, IsItem item) :
    listItems ("(" ++ Text.joined "," items ++ ")") = items.map unquoted := by
  have htrim : Text.trim ("(" ++ Text.joined "," items ++ ")") =
      "(" ++ Text.joined "," items ++ ")" :=
    Text.trim_enclosed rfl (by decide) rfl (by decide) _
  have hpieces : Text.pieces ',' (Text.joined "," items) = items :=
    Text.pieces_joined rfl hne fun item hitem => (hitems item hitem).comma_not_mem
  have htrimmed : items.map Text.trim = items :=
    (List.map_congr_left fun item hitem => (hitems item hitem).trim_eq).trans (List.map_id items)
  have hkept : (items.filter fun item => !item.toList.isEmpty) = items :=
    List.filter_eq_self.mpr fun item hitem => by simpa using (hitems item hitem).ne_nil
  rw [listItems, htrim, String.append_assoc, Text.withoutFront_append, Text.withoutBack_append,
    hpieces, htrimmed, hkept]

/-! ## Blank lists -/

/-- An operand without the blanks around it, an opening parenthesis in front and a closing one
behind, each of which may be missing. -/
inductive Encloses (operand inner : String) : Prop where
  | intro {before opening closing behind : String} (hbefore : Text.isBlankText before = true)
      (hopening : opening ∈ ["", "("]) (hclosing : closing ∈ ["", ")"])
      (hbehind : Text.isBlankText behind = true)
      (h : operand = before ++ (opening ++ inner ++ closing) ++ behind)

/-- All items between the commas of an operand are blank. -/
def HoldsNothing (operand : String) : Prop :=
  ∃ inner, Encloses operand inner ∧ ∀ item ∈ Text.pieces ',' inner, Text.isBlankText item = true

/-- The text whose pieces are the items of an operand. -/
def listed (operand : String) : String :=
  Text.withoutBack ")" (Text.withoutFront "(" (Text.trim operand))

theorem encloses_listed (operand : String) : Encloses operand (listed operand) := by
  obtain ⟨before, behind, hbefore, hbehind, hoperand⟩ := Text.exists_trimmed operand.toList
  have hblank : ∀ cs : List Char, (∀ c ∈ cs, Text.isBlank c = true) →
      Text.isBlankText (String.ofList cs) = true := by
    intro cs hcs
    rw [Text.isBlankText, String.toList_ofList, List.all_eq_true]
    exact hcs
  have htrim : operand = String.ofList before ++ Text.trim operand ++ String.ofList behind := by
    rw [← String.toList_inj]
    simpa [Text.trim] using hoperand
  have hmarks : ∃ opening ∈ ["", "("], ∃ closing ∈ ["", ")"],
      Text.trim operand = opening ++ listed operand ++ closing := by
    rw [listed]
    generalize Text.trim operand = s
    rcases Text.withoutFront_cases "(" s with hfront | hfront <;>
      rcases Text.withoutBack_cases ")" (Text.withoutFront "(" s) with hback | hback
    · exact ⟨"", by simp, "", by simp, by rw [← hback, ← hfront]; simp⟩
    · exact ⟨"", by simp, ")", by simp, by rw [String.empty_append, ← hback, ← hfront]⟩
    · exact ⟨"(", by simp, "", by simp, by rw [← hback, String.append_empty, ← hfront]⟩
    · exact ⟨"(", by simp, ")", by simp, by rw [String.append_assoc, ← hback, ← hfront]⟩
  obtain ⟨opening, hopening, closing, hclosing, hmiddle⟩ := hmarks
  exact .intro (hblank before hbefore) hopening hclosing (hblank behind hbehind) (hmiddle ▸ htrim)

theorem listItems_eq_nil_iff_listed : listItems operand = [] ↔
    ∀ item ∈ Text.pieces ',' (listed operand), Text.isBlankText item = true := by
  have hitems : listItems operand = (((Text.pieces ',' (listed operand)).map Text.trim).filter
      fun item => !item.toList.isEmpty).map unquoted := rfl
  rw [hitems, List.map_eq_nil_iff, List.filter_eq_nil_iff, List.forall_mem_map]
  simp only [Bool.not_eq_true', Bool.not_eq_false, List.isEmpty_iff, Text.toList_trim_eq_nil_iff]

theorem withoutFront_enclosed {opening closing rest : String} (hopening : opening ∈ ["", "("])
    (hclosing : closing ∈ ["", ")"]) (hfree : '(' ∉ rest.toList) :
    Text.withoutFront "(" (opening ++ rest ++ closing) = rest ++ closing := by
  simp only [List.mem_cons, List.not_mem_nil, or_false] at hopening hclosing
  rcases hopening with rfl | rfl
  · rw [String.empty_append]
    refine Text.withoutFront_of_not_prefix fun t ht => ?_
    have hmem : '(' ∈ (rest ++ closing).toList := by
      rw [ht]
      simp
    rw [String.toList_append, List.mem_append] at hmem
    rcases hclosing with rfl | rfl
    · simp [hfree] at hmem
    · simp [hfree] at hmem
  · rw [String.append_assoc, Text.withoutFront_append]

theorem withoutBack_enclosed {closing rest : String} (hclosing : closing ∈ ["", ")"])
    (hfree : ')' ∉ rest.toList) : Text.withoutBack ")" (rest ++ closing) = rest := by
  simp only [List.mem_cons, List.not_mem_nil, or_false] at hclosing
  rcases hclosing with rfl | rfl
  · rw [String.append_empty]
    rcases Text.withoutBack_cases ")" rest with hback | hback
    · exact hback.symm
    · have hmem : ')' ∈ rest.toList := by
        rw [hback]
        simp
      exact absurd hmem hfree
  · exact Text.withoutBack_append _ _

/-- Where neither parenthesis stands inside, nothing but the marks around it is taken off. -/
theorem Encloses.listed_sublist (h : Encloses operand inner)
    (hinner : ∀ c ∈ ['(', ')'], c ∉ inner.toList) :
    (listed operand).toList.Sublist inner.toList := by
  obtain ⟨hbefore, hopening, hclosing, hbehind, h⟩ := h
  rename_i before opening closing behind
  have hmarks : ∀ mark ∈ ["", "("] ++ ["", ")"], ∀ c ∈ mark.toList, Text.isBlank c = false := by
    have hall : ∀ mark ∈ ["", "("] ++ ["", ")"],
        mark.toList.all (fun c => !Text.isBlank c) = true := by decide
    intro mark hmark c hc
    simpa using List.all_eq_true.mp (hall mark hmark) c hc
  obtain ⟨rest, hrest, htrimmed⟩ := Text.trimmed_enclosed inner.toList
    (hmarks opening (List.mem_append_left _ hopening))
    (hmarks closing (List.mem_append_right _ hclosing))
  have htrim : Text.trim operand = opening ++ String.ofList rest ++ closing := by
    rw [← String.toList_inj, Text.trim, String.toList_ofList, h]
    simp only [String.toList_append, String.toList_ofList]
    rw [Text.trimmed_append_blanks _ (List.all_eq_true.mp hbefore) (List.all_eq_true.mp hbehind),
      htrimmed]
  have hfree : ∀ c ∈ ['(', ')'], c ∉ (String.ofList rest).toList := by
    intro c hc hmem
    rw [String.toList_ofList] at hmem
    exact hinner c hc (hrest.subset hmem)
  rw [listed, htrim, withoutFront_enclosed hopening hclosing (hfree '(' (by decide)),
    withoutBack_enclosed hclosing (hfree ')' (by decide)), String.toList_ofList]
  exact hrest

theorem listItems_eq_nil_iff : listItems operand = [] ↔ HoldsNothing operand := by
  rw [listItems_eq_nil_iff_listed]
  constructor
  · intro h
    exact ⟨listed operand, encloses_listed operand, h⟩
  · rintro ⟨inner, hinner, hblank⟩
    rw [Text.forall_isBlankText_pieces] at hblank ⊢
    have hmarks : ∀ c ∈ ['(', ')'], c ≠ ',' ∧ Text.isBlank c = false := by
      simp [Text.isBlank]
    have hfree : ∀ c ∈ ['(', ')'], c ∉ inner.toList := by
      intro c hc hmem
      have hcblank := hblank c hmem (hmarks c hc).1
      rw [(hmarks c hc).2] at hcblank
      cases hcblank
    exact fun c hc => hblank c ((hinner.listed_sublist hfree).subset hc)

/-! ## Conditions -/

/-- The condition that a column is one of the items. -/
structure IsAmong (c : Condition) (column : String) (n : Nat) (items : List String) : Prop where
  text_eq : Sql.render c.fragments = "\"" ++ column ++ "\" = ANY($" ++ Numeral.text n ++ ")"
  value_eq : c.value = some (.textArray items)

/-- The condition that no row meets. -/
structure IsNever (c : Condition) : Prop where
  text_eq : Sql.render c.fragments = "1=0"
  value_eq : c.value = none

theorem condition?_in (hcolumn : Sql.Identifier.isValid column = true) (n : Nat)
    (operand : String) :
    condition? n (column, "in." ++ operand) = match listItems operand with
      | [] => some ⟨[.fixed "1=0"], none⟩
      | items => some ⟨[.name column, .fixed " = ANY(", .placeholder n, .fixed ")"],
          some (.textArray items)⟩ := by
  have hparse : Filter.parse? column ("in." ++ operand) = some ⟨column, .in, operand⟩ :=
    parse?_named hcolumn .in operand
  rw [condition?, hparse, Option.bind_some]
  cases hitems : listItems operand with
  | nil => simp only [Filter.condition?, hitems]
  | cons item items => simp only [Filter.condition?, hitems]

theorem isAmong (hcolumn : Sql.Identifier.isValid column = true) (n : Nat)
    (items : List String) :
    IsAmong ⟨[.name column, .fixed " = ANY(", .placeholder n, .fixed ")"],
      some (.textArray items)⟩ column n items where
  text_eq := by
    rw [← String.toList_inj]
    simp [Sql.toList_render, Sql.Fragment.chars, Sql.Identifier.quotedChars_of_isValid hcolumn,
      Numeral.toList_text]
  value_eq := rfl

theorem exists_among (hcolumn : Sql.Identifier.isValid column = true) (n : Nat)
    (hitems : listItems operand ≠ []) :
    ∃ c, condition? n (column, "in." ++ operand) = some c ∧
      IsAmong c column n (listItems operand) := by
  refine ⟨_, ?_, isAmong hcolumn n (listItems operand)⟩
  rw [condition?_in hcolumn]
  cases hlist : listItems operand with
  | nil => exact absurd hlist hitems
  | cons item items => rfl

theorem exists_never (hcolumn : Sql.Identifier.isValid column = true) (n : Nat)
    (hitems : listItems operand = []) :
    ∃ c, condition? n (column, "in." ++ operand) = some c ∧ IsNever c := by
  refine ⟨⟨[.fixed "1=0"], none⟩, ?_, by decide, rfl⟩
  rw [condition?_in hcolumn, hitems]

theorem exists_among_joined (hcolumn : Sql.Identifier.isValid column = true) (n : Nat)
    (hne : items ≠ []) (hitems : ∀ item ∈ items, IsItem item) :
    ∃ c, condition? n (column, "in.(" ++ Text.joined "," items ++ ")") = some c ∧
      IsAmong c column n (items.map unquoted) := by
  have hlist := listItems_joined hne hitems
  have hkept : listItems ("(" ++ Text.joined "," items ++ ")") ≠ [] := by
    rw [hlist]
    simpa using hne
  have hraw : "in.(" ++ Text.joined "," items ++ ")" =
      "in." ++ ("(" ++ Text.joined "," items ++ ")") := by
    rw [← String.toList_inj]
    simp
  rw [hraw, ← hlist]
  exact exists_among hcolumn n hkept

/-! ## Decoded lists -/

theorem exists_among_quotedList (hcolumn : Sql.Identifier.isValid column = true) (n : Nat)
    (hne : items ≠ []) (hfree : ∀ item ∈ items, ',' ∉ item.toList) :
    ∃ c, condition? n (column, "in.(" ++ Text.quotedList items ++ ")") = some c ∧
      IsAmong c column n items := by
  have hunquoted : (items.map Text.inQuotes).map unquoted = items := by
    rw [List.map_map]
    exact (List.map_congr_left fun item _ => unquoted_inQuotes item).trans (List.map_id items)
  have hquoted : ∀ text ∈ items.map Text.inQuotes, IsItem text :=
    List.forall_mem_map.mpr fun item hitem => isItem_inQuotes (hfree item hitem)
  have hcondition := exists_among_joined hcolumn n (by simpa using hne) hquoted
  rwa [hunquoted] at hcondition

theorem exists_among_integers (hcolumn : Sql.Identifier.isValid column = true) (n : Nat)
    {ks : List Int} (hne : ks ≠ []) :
    ∃ c, condition? n
        (column, "in.(" ++ Text.joined "," (ks.map Numeral.signedText) ++ ")") = some c ∧
      IsAmong c column n (ks.map Numeral.signedText) := by
  have hunquoted : (ks.map Numeral.signedText).map unquoted = ks.map Numeral.signedText := by
    rw [List.map_map]
    exact List.map_congr_left fun k _ => unquoted_signedText k
  have hitems : ∀ text ∈ ks.map Numeral.signedText, IsItem text :=
    List.forall_mem_map.mpr fun k _ => isItem_signedText k
  have hcondition := exists_among_joined hcolumn n (by simpa using hne) hitems
  rwa [hunquoted] at hcondition

/-- A filter by a list whose items are in quotes gives these items. Integers arrive in arrays of
each type whose words hold all of them, and a list of blanks is the only one that no row passes. -/
theorem membership_decoded (hcolumn : Sql.Identifier.isValid column = true) (n : Nat) :
    (∀ items : List String, items ≠ [] → (∀ item ∈ items, ',' ∉ item.toList) →
        ∃ c, condition? n (column, "in.(" ++ Text.quotedList items ++ ")") = some c ∧
          IsAmong c column n items) ∧
      (∀ ks : List Int, ks ≠ [] → ∃ c value,
        condition? n (column, "in.(" ++ Text.joined "," (ks.map Numeral.signedText) ++ ")") =
          some c ∧
        IsAmong c column n (ks.map Numeral.signedText) ∧ c.value = some value ∧
        ArrivesAsWords value ks) ∧
      ∀ operand, (HoldsNothing operand →
          ∃ c, condition? n (column, "in." ++ operand) = some c ∧ IsNever c) ∧
        (¬HoldsNothing operand →
          ∃ c items, condition? n (column, "in." ++ operand) = some c ∧ items ≠ [] ∧
            IsAmong c column n items) := by
  refine ⟨fun _ => exists_among_quotedList hcolumn n, fun ks hne => ?_,
    fun operand => ⟨fun hblank => ?_, fun hitem => ?_⟩⟩
  · obtain ⟨c, hc, hamong⟩ := exists_among_integers hcolumn n hne
    exact ⟨c, _, hc, hamong, hamong.value_eq, arrivesAsWords ks⟩
  · exact exists_never hcolumn n (listItems_eq_nil_iff.mpr hblank)
  · have hne : listItems operand ≠ [] := mt listItems_eq_nil_iff.mp hitem
    obtain ⟨c, hc, hamong⟩ := exists_among hcolumn n hne
    exact ⟨c, _, hc, hne, hamong⟩

/-- Items that are empty, a quote or the end of a list, two integers of which one is too great for
a short word, and a list whose only parenthesis and comma stand among blanks. -/
theorem membership_decoded_awkward :
    (∃ c, condition? 2 ("tag", "in.(\"\",\"\"\",\" a)\")") = some c ∧
        IsAmong c "tag" 2 ["", "\"", " a)"]) ∧
      (∃ c value, condition? 1 ("id", "in.(-32768,40000)") = some c ∧ c.value = some value ∧
        Parameter.convert (.ofName "Int2[]") value = .error ⟨⟩ ∧
        Parameter.convert (.ofName "int8[]") value =
          .ok (.array .int8 (some [.integer (-32768), .integer 40000]))) ∧
      ∃ c, condition? 1 ("id", "in. (, ") = some c ∧ IsNever c := by
  have htag : Sql.Identifier.isValid "tag" = true := by decide
  have hid : Sql.Identifier.isValid "id" = true := by decide
  have hmarks : " (, " = " " ++ ("(" ++ ", " ++ "") ++ "" := by decide
  have hblank : HoldsNothing " (, " :=
    ⟨", ", .intro (by decide) (by decide) (by decide) (by decide) hmarks, by decide⟩
  obtain ⟨c, value, hc, -, hvalue, hwords⟩ :=
    (membership_decoded hid 1).2.1 [-32768, 40000] (by decide)
  have hraw : "in.(" ++ Text.joined "," ([-32768, 40000].map Numeral.signedText) ++ ")" =
      "in.(-32768,40000)" := by decide +kernel
  refine ⟨(membership_decoded htag 2).1 ["", "\"", " a)"] (by decide) (by decide),
    ⟨c, value, hraw ▸ hc, hvalue, ?_, ?_⟩, ((membership_decoded hid 1).2.2 _).1 hblank⟩
  · exact hwords.beyond "INT2" .int2 16 "Int2[]" (by decide) (by decide +kernel) (by decide)
  · exact hwords.fits "INT8" .int8 64 "int8[]" (by decide) (by decide +kernel) (by decide)

end TableGateway.Query
