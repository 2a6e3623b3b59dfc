import Mathlib.Data.List.Forall2
import TableGateway.Proofs.Query.Parts
import TableGateway.Proofs.Sql.Fragment
import TableGateway.Proofs.Sql.Identifier
import TableGateway.Proofs.Text.Blank
import TableGateway.Proofs.Text.Cut

/-! # Orders are read as they are written

An order that was written term by term is read back term by term. Whatever else is written, each
term that is read names a plain column and says nothing but how to sort by it. -/

namespace TableGateway

/-! ## Characters of names -/

theorem Text.isAlpha_of_lower {s : String} (h : (Text.lower s).toList.all Char.isAlpha = true) :
    ∀ c ∈ s.toList, c.isAlpha = true := by
  simp only [Text.lower, String.toList_ofList, List.all_map, List.all_eq_true] at h
  intro c hc
  by_cases hupper : c.isUpper = true
  · exact Bool.or_eq_true_iff.mpr (.inl hupper)
  · have hsame : c.toLower = c := dif_neg fun hrange => hupper (decide_eq_true hrange)
    have hlower := h c hc
    rwa [Function.comp_apply, hsame] at hlower

theorem Sql.Identifier.isBlank_eq_false {c : Char} (h : isNameChar c = true) :
    Text.isBlank c = false := by
  rw [isNameChar, Bool.or_eq_true, beq_iff_eq, Char.isAlphanum, Bool.or_eq_true] at h
  rcases h with (halpha | hdigit) | rfl
  · exact Text.isBlank_of_isAlpha halpha
  · exact Text.isBlank_of_isDigit hdigit
  · decide

/-- What holds of a mark and of the characters of each item holds of all that is joined by it. -/
theorem Text.forall_mem_joined {p : Char → Prop} {mark : String} {separator : Char}
    {items : List String} (hmark : mark.toList = [separator]) (hs : p separator)
    (hitems : ∀ item ∈ items, ∀ c ∈ item.toList, p c) :
    ∀ c ∈ (Text.joined mark items).toList, p c := by
  have hlists : ∀ cs ∈ items.map String.toList, ∀ c ∈ cs, p c := by simpa using hitems
  rw [Text.joined, String.toList_intercalate, hmark]
  exact forall_mem_intercalate hs hlists

namespace Query

variable {t : OrderTerm} {part text : String} {terms : List OrderTerm} {texts : List String}

namespace OrderTerm

/-! ## Modifiers -/

/-- Where a word puts the rows without a value, if it says so. -/
def nullsPlace? (word : String) : Option NullsPlace :=
  if word = "nullsfirst" then some .first else if word = "nullslast" then some .last else none

/-- What words in lower case say of a column. One of them is enough for descending order, and of
those that place the rows without a value the last one counts. -/
def said (column : String) (words : List String) : OrderTerm :=
  ⟨column, words.contains "desc", (words.filterMap nullsPlace?).getLast?⟩

theorem modify_said (column : String) (words : List String) (modifier : String) :
    (said column words).modify modifier = said column (words ++ [Text.lower modifier]) := by
  simp only [modify, said, List.contains_append, List.filterMap_append]
  generalize Text.lower modifier = word
  by_cases hdesc : word = "desc"
  · simp [hdesc, nullsPlace?]
  · by_cases hfirst : word = "nullsfirst"
    · simp [hfirst, nullsPlace?]
    · by_cases hlast : word = "nullslast"
      · simp [hlast, nullsPlace?]
      · simp [hdesc, hfirst, hlast, nullsPlace?, Ne.symm hdesc]

theorem foldl_modify_said (column : String) (words modifiers : List String) :
    modifiers.foldl modify (said column words) =
      said column (words ++ modifiers.map Text.lower) := by
  induction modifiers generalizing words with
  | nil => simp
  | cons modifier modifiers ih =>
      rw [List.foldl_cons, modify_said, ih, List.append_assoc]
      rfl

/-! ## Parts -/

/-- What a part of an order says: in front of the first point it has a plain column, and behind it
modifiers. -/
inductive Reading (part : String) : OrderTerm → Prop where
  | intro {column : String} {modifiers : List String}
      (hpart : Text.pieces '.' (Text.trim part) = column :: modifiers)
      (hcolumn : Sql.Identifier.isValid column = true) :
      Reading part (said column (modifiers.map Text.lower))

theorem parse?_trim_eq_some_iff : parse? (Text.trim part) = some t ↔ Reading part t := by
  constructor
  · intro h
    unfold parse? at h
    split at h
    case h_1 => cases h
    case h_2 column modifiers hpart =>
      split at h
      case isTrue hcolumn =>
        cases h
        exact foldl_modify_said column [] modifiers ▸ .intro hpart hcolumn
      case isFalse => cases h
  · rintro ⟨hpart, hcolumn⟩
    rw [parse?, hpart]
    simp only [if_pos hcolumn]
    exact congrArg some (foldl_modify_said _ [] _)

theorem Reading.isValid_column (h : Reading part t) : Sql.Identifier.isValid t.column = true := by
  obtain ⟨-, hcolumn⟩ := h
  exact hcolumn

/-! ## Texts for terms -/

/-- The words that say how to sort by a column, as a request has them and as a statement does. -/
def words (descending : Bool) (nulls : Option NullsPlace) : List (String × String) :=
  (if descending then ("desc", "DESC") else ("asc", "ASC")) ::
    match nulls with
    | none => []
    | some .first => [("nullsfirst", "NULLS FIRST")]
    | some .last => [("nullslast", "NULLS LAST")]

/-- A text for a term: the column and the words for it behind points, in letters of either case and
with blanks on either side. -/
inductive Written (t : OrderTerm) : String → Prop where
  | intro {before behind : String} {modifiers : List String}
      (hcolumn : Sql.Identifier.isValid t.column = true)
      (hmodifiers : modifiers.map Text.lower = (words t.descending t.nulls).map Prod.fst)
      (hbefore : Text.isBlankText before = true) (hbehind : Text.isBlankText behind = true) :
      Written t (before ++ Text.joined "." (t.column :: modifiers) ++ behind)

theorem said_words (t : OrderTerm) :
    said t.column ((words t.descending t.nulls).map Prod.fst) = t := by
  -- The column has no part in it, so that all cases can be tried without it.
  have hword : ∀ descending nulls,
      (said "" ((words descending nulls).map Prod.fst)) = ⟨"", descending, nulls⟩ := by
    intro descending nulls
    cases descending <;> rcases nulls with _ | _ | _ <;> decide
  obtain ⟨column, descending, nulls⟩ := t
  exact congrArg (fun s : OrderTerm => (⟨column, s.descending, s.nulls⟩ : OrderTerm))
    (hword descending nulls)

theorem isAlpha_of_words (descending : Bool) (nulls : Option NullsPlace) :
    ∀ word ∈ (words descending nulls).map Prod.fst, word.toList.all Char.isAlpha = true := by
  cases descending <;> rcases nulls with _ | _ | _ <;> decide

/-- The column and the words of a term hold neither blanks nor points nor commas. -/
theorem isNameChar_of_written {modifiers : List String}
    (hcolumn : Sql.Identifier.isValid t.column = true)
    (hmodifiers : modifiers.map Text.lower = (words t.descending t.nulls).map Prod.fst) :
    ∀ piece ∈ t.column :: modifiers, ∀ c ∈ piece.toList,
      Sql.Identifier.isNameChar c = true := by
  rw [List.forall_mem_cons]
  refine ⟨Sql.Identifier.isNameChar_of_isValid hcolumn, fun modifier hmodifier c hc => ?_⟩
  have hword : Text.lower modifier ∈ (words t.descending t.nulls).map Prod.fst :=
    hmodifiers ▸ List.mem_map_of_mem hmodifier
  have halpha := Text.isAlpha_of_lower (isAlpha_of_words _ _ _ hword) c hc
  rw [Sql.Identifier.isNameChar, Char.isAlphanum, halpha, Bool.true_or, Bool.true_or]

theorem Written.reading (h : Written t text) : Reading text t := by
  obtain @⟨before, behind, modifiers, hcolumn, hmodifiers, hbefore, hbehind⟩ := h
  have hnames := isNameChar_of_written hcolumn hmodifiers
  have hblank : ∀ c ∈ (Text.joined "." (t.column :: modifiers)).toList, Text.isBlank c = false :=
    Text.forall_mem_joined rfl (by decide) fun piece hpiece c hc =>
      Sql.Identifier.isBlank_eq_false (hnames piece hpiece c hc)
  have htrim : Text.trim (before ++ Text.joined "." (t.column :: modifiers) ++ behind) =
      Text.joined "." (t.column :: modifiers) := by
    rw [← String.toList_inj, Text.trim, String.toList_ofList, String.toList_append,
      String.toList_append, Text.trimmed_append_blanks _ (List.all_eq_true.mp hbefore)
        (List.all_eq_true.mp hbehind), Text.trimmed_of_forall_not_isBlank hblank]
  have hpoint : ∀ piece ∈ t.column :: modifiers, '.' ∉ piece.toList := fun piece hpiece hmem =>
    absurd (hnames piece hpiece '.' hmem) (by decide)
  have hpieces : Text.pieces '.' (Text.joined "." (t.column :: modifiers)) =
      t.column :: modifiers :=
    Text.pieces_joined rfl (List.cons_ne_nil _ _) hpoint
  have hreading := Reading.intro ((congrArg (Text.pieces '.') htrim).trans hpieces) hcolumn
  rwa [hmodifiers, said_words] at hreading

theorem Written.comma_not_mem (h : Written t text) : ',' ∉ text.toList := by
  obtain @⟨before, behind, modifiers, hcolumn, hmodifiers, hbefore, hbehind⟩ := h
  have hnames := isNameChar_of_written hcolumn hmodifiers
  have hblanks : ∀ {s : String}, Text.isBlankText s = true → ∀ c ∈ s.toList, c ≠ ',' := by
    rintro s hs _ hc rfl
    exact absurd (List.all_eq_true.mp hs ',' hc) (by decide)
  have hjoined : ∀ c ∈ (Text.joined "." (t.column :: modifiers)).toList, c ≠ ',' :=
    Text.forall_mem_joined rfl (by decide) fun piece hpiece c hc hcomma =>
      absurd (hcomma ▸ hnames piece hpiece c hc) (by decide)
  simp only [String.toList_append, List.mem_append, not_or]
  exact ⟨⟨fun hmem => hblanks hbefore _ hmem rfl, fun hmem => hjoined _ hmem rfl⟩,
    fun hmem => hblanks hbehind _ hmem rfl⟩

/-! ## Terms in statements -/

/-- A term as a statement has it. -/
def shown (t : OrderTerm) : String :=
  Text.joined " " (("\"" ++ t.column ++ "\"") :: (words t.descending t.nulls).map Prod.snd)

theorem render_fragments (h : Sql.Identifier.isValid t.column = true) :
    Sql.render t.fragments = t.shown := by
  obtain ⟨column, descending, nulls⟩ := t
  rw [← String.toList_inj, Sql.toList_render, shown]
  cases descending <;> rcases nulls with _ | _ | _ <;>
    simp [fragments, words, Text.joined, Sql.Fragment.chars,
      Sql.Identifier.quotedChars_of_isValid h]

end OrderTerm

/-! ## Orders -/

theorem orderTerms_eq (raw : String) :
    orderTerms raw = (Text.pieces ',' raw).filterMap fun part =>
      OrderTerm.parse? (Text.trim part) := by
  simp only [orderTerms, List.filterMap_map, Function.comp_def]

theorem mem_orderTerms {raw : String} :
    t ∈ orderTerms raw ↔ ∃ part ∈ Text.pieces ',' raw, OrderTerm.Reading part t := by
  simp only [orderTerms_eq, List.mem_filterMap, OrderTerm.parse?_trim_eq_some_iff]

/-- Commas between the texts separate them and nothing else. -/
theorem pieces_written (h : List.Forall₂ OrderTerm.Written terms texts) (hne : texts ≠ []) :
    Text.pieces ',' (Text.joined "," texts) = texts := by
  refine Text.pieces_joined rfl hne ?_
  clear hne
  induction h with
  | nil => simp
  | cons hwritten _ ih => exact List.forall_mem_cons.mpr ⟨hwritten.comma_not_mem, ih⟩

theorem filterMap_written (h : List.Forall₂ OrderTerm.Written terms texts) :
    (texts.filterMap fun part => OrderTerm.parse? (Text.trim part)) = terms := by
  induction h with
  | nil => rfl
  | cons hwritten _ ih =>
      have hterm := OrderTerm.parse?_trim_eq_some_iff.mpr hwritten.reading
      rw [List.filterMap_cons, hterm, ih]

theorem orderTerms_joined (h : List.Forall₂ OrderTerm.Written terms texts) :
    orderTerms (Text.joined "," texts) = terms := by
  by_cases hne : texts = []
  · subst hne
    cases h
    decide
  · rw [orderTerms_eq, pieces_written h hne, filterMap_written h]

theorem orderTerms_append (front back : String) :
    orderTerms (front ++ "," ++ back) = orderTerms front ++ orderTerms back := by
  have hcomma : ",".toList = [','] := rfl
  simp only [orderTerms_eq, Text.pieces_append_separator hcomma, List.filterMap_append]

/-- An order that is written term by term gives these terms, two orders with a comma between them
give the terms of the one and then those of the other, and every term there can be is a plain column
in quotes with the words for it, which a part of the order says. -/
theorem orderTerms_decoded :
    (∀ terms texts, List.Forall₂ OrderTerm.Written terms texts →
        orderTerms (Text.joined "," texts) = terms ∧
        (orderTerms (Text.joined "," texts)).map (fun t => Sql.render t.fragments) =
          terms.map OrderTerm.shown) ∧
      (∀ front back, orderTerms (front ++ "," ++ back) = orderTerms front ++ orderTerms back) ∧
      ∀ raw, ∀ t ∈ orderTerms raw, (∃ part ∈ Text.pieces ',' raw, OrderTerm.Reading part t) ∧
        Sql.Identifier.isValid t.column = true ∧ Sql.render t.fragments = t.shown := by
  have hshown : ∀ raw, ∀ t ∈ orderTerms raw, Sql.Identifier.isValid t.column = true := by
    intro raw t ht
    obtain ⟨part, -, hreading⟩ := mem_orderTerms.mp ht
    exact hreading.isValid_column
  refine ⟨fun terms texts h => ?_, orderTerms_append, fun raw t ht => ?_⟩
  · have hterms := orderTerms_joined h
    refine ⟨hterms, ?_⟩
    rw [hterms]
    refine List.map_congr_left fun t ht => OrderTerm.render_fragments ?_
    exact hshown (Text.joined "," texts) t (hterms ▸ ht)
  · exact ⟨mem_orderTerms.mp ht, hshown raw t ht, OrderTerm.render_fragments (hshown raw t ht)⟩

/-- Two terms with words in mixed case and blanks around them, and columns that are called like
words. -/
theorem orderTerms_decoded_mixedCase :
    (orderTerms " desc.aSc.NullsLast\t,asc.DESC").map (fun t => Sql.render t.fragments) =
      ["\"desc\" ASC NULLS LAST", "\"asc\" DESC"] := by
  have hfirst : OrderTerm.Written ⟨"desc", false, some .last⟩ " desc.aSc.NullsLast\t" :=
    @OrderTerm.Written.intro ⟨"desc", false, some .last⟩ " " "\t" ["aSc", "NullsLast"]
      (by decide) (by decide) (by decide) (by decide)
  have hsecond : OrderTerm.Written ⟨"asc", true, none⟩ "asc.DESC" :=
    @OrderTerm.Written.intro ⟨"asc", true, none⟩ "" "" ["DESC"]
      (by decide) (by decide) (by decide) (by decide)
  exact (orderTerms_decoded.1 _ _ (.cons hfirst (.cons hsecond .nil))).2

end Query

end TableGateway
