import TableGateway.Proofs.Query.Columns
import TableGateway.Proofs.Query.Parts
import TableGateway.Proofs.Sql.Fragment

/-! # The words of statements

Apart from the expressions that a read selects, a statement is made of fixed words, numbers,
placeholders and plain identifiers between quotes. -/

namespace TableGateway.Query

open Sql (Fragment)

/-! ## Confined fragments -/

/-- The keywords and the punctuation of all statements. -/
def vocabulary : List String :=
  [".", ", ", "(", ")", " (", "*", "1=0",
    "SELECT ", "SELECT COUNT(*) FROM ", " AS ", " FROM ",
    " WHERE ", " AND ", " = ", " != ", " > ", " >= ", " < ", " <= ", " @> ", " <@ ",
    " LIKE ", " ILIKE ", " = ANY(", " IS NULL", " IS TRUE", " IS FALSE",
    " ORDER BY ", " ASC", " ASC NULLS FIRST", " ASC NULLS LAST", " DESC", " DESC NULLS FIRST",
    " DESC NULLS LAST", " LIMIT ", " OFFSET ",
    "INSERT INTO ", ") VALUES ", " ON CONFLICT DO NOTHING", " ON CONFLICT (", ") DO NOTHING",
    ") DO UPDATE SET ", " = EXCLUDED.",
    "UPDATE ", " SET ", "DELETE FROM ", " RETURNING *"]

/-- A fragment that lets nothing of a request but plain identifiers into the text. -/
def Confined : Fragment → Prop
  | .fixed text => text ∈ vocabulary
  | .name identifier => Sql.Identifier.isValid identifier = true
  | .placeholder _ => True
  | .number _ => True
  | .expression _ => False

/-- A character of a confined fragment stands in the vocabulary, in a plain identifier or between
its quotes, or marks a placeholder. -/
theorem Confined.not_mem_chars {f : Fragment} (h : Confined f) {c : Char}
    (hname : Sql.Identifier.isNameChar c = false) (hquote : c ≠ '"')
    (hmark : c = '$' → f.index? = none) (hwords : ∀ word ∈ vocabulary, c ∉ word.toList) :
    c ∉ f.chars := by
  have hdigits : ∀ n, c ∉ Numeral.digits n := by
    intro n hc
    rw [Numeral.isNameChar_of_mem_digits c hc] at hname
    cases hname
  cases f with
  | fixed text => exact hwords text h
  | name identifier =>
      intro hc
      simp only [Fragment.chars, Sql.Identifier.quotedChars_of_isValid h, List.cons_append,
        List.mem_cons, List.mem_append, List.not_mem_nil, or_false] at hc
      rcases hc with hc | hc | hc
      · exact hquote hc
      · simp [Sql.Identifier.isNameChar_of_isValid h c hc] at hname
      · exact hquote hc
  | placeholder index =>
      intro hc
      rcases List.mem_cons.mp hc with hc | hc
      · exact absurd (hmark hc) (by simp [Fragment.index?])
      · exact hdigits index hc
  | number n => exact hdigits n
  | expression text => exact h.elim

/-! ## Parts of statements

What holds of the fixed words, of the placeholders, and of the names and numbers that a request
brings in, holds of every fragment. -/

/-- The property holds of the vocabulary and of all placeholders. -/
structure Worded (P : Fragment → Prop) : Prop where
  word : ∀ word ∈ vocabulary, P (.fixed word)
  placeholder : ∀ n, P (.placeholder n)

theorem worded_confined : Worded Confined where
  word _ h := h
  placeholder _ := trivial

namespace Worded

variable {P : Fragment → Prop} (hp : Worded P) {settings : Settings} {request : Request}

include hp

theorem listed {items : List (List Fragment)} (h : ∀ item ∈ items, ∀ f ∈ item, P f) :
    ∀ f ∈ Fragment.listed items, P f :=
  Fragment.forall_mem_intercalate (hp.word ", " (by decide)) h

theorem names {identifiers : List String} (h : ∀ n ∈ identifiers, P (.name n)) :
    ∀ f ∈ Fragment.names identifiers, P f := by
  apply hp.listed
  intro item hitem
  obtain ⟨n, hn, rfl⟩ := List.mem_map.mp hitem
  simpa using h n hn

theorem target {fragments : List Fragment} (h : target settings request = .ok fragments)
    (htable : Sql.Identifier.isValid request.table = true → P (.name request.table))
    (hschema : ∀ schema, request.profile?.or settings.defaultSchema = some schema →
      Sql.Identifier.isValid schema = true → P (.name schema)) : ∀ f ∈ fragments, P f := by
  unfold Query.target at h
  split at h
  case isTrue => cases h
  case isFalse hvalid =>
    rw [Bool.not_eq_true, Bool.not_eq_false'] at hvalid
    split at h
    case h_1 =>
      cases h
      simpa using htable hvalid
    case h_2 schema hprofile =>
      split at h
      case isTrue hvalid' =>
        cases h
        simpa using ⟨hschema schema hprofile hvalid', hp.word "." (by decide), htable hvalid⟩
      case isFalse => cases h

theorem condition {column : String} (hcolumn : P (.name column)) {n : Nat} {c : Condition}
    (h : ConditionShape column n c) : ∀ f ∈ c.fragments, P f := by
  cases h with
  | @comparison symbol hsymbol value =>
      have hwords : ∀ symbol ∈ symbols, " " ++ symbol ++ " " ∈ vocabulary := by decide
      simpa [comparison] using ⟨hcolumn, hp.word _ (hwords symbol hsymbol), hp.placeholder n⟩
  | @keyword keyword hkeyword =>
      have hwords : ∀ keyword ∈ keywords, " IS " ++ keyword ∈ vocabulary := by decide
      simpa using ⟨hcolumn, hp.word _ (hwords keyword hkeyword)⟩
  | noItems => simpa using hp.word "1=0" (by decide)
  | items =>
      simpa using ⟨hcolumn, hp.word " = ANY(" (by decide), hp.placeholder n,
        hp.word ")" (by decide)⟩

theorem clauses (n : Nat) {filters : List (String × String)}
    (h : ∀ p ∈ filters, ∀ f m c, Filter.parse? p.1 p.2 = some f → f.condition? m = some c →
      P (.name p.1)) : ∀ f ∈ whereFragments (conditions n filters), P f := by
  have hitems : ∀ item ∈ (conditions n filters).map Condition.fragments, ∀ f ∈ item, P f := by
    intro item hitem
    obtain ⟨c, hc, rfl⟩ := List.mem_map.mp hitem
    obtain ⟨p, hmem, f, m, hparse, hcondition⟩ := exists_of_mem_conditions hc
    have hname := h p hmem f m c hparse hcondition
    rw [← (Filter.parse?_column hparse).1] at hname
    exact hp.condition hname (Filter.condition?_shape hcondition)
  have hjoined := Fragment.forall_mem_intercalate (hp.word " AND " (by decide)) hitems
  unfold whereFragments
  split
  case h_1 => simp
  case h_2 => simpa using ⟨hp.word " WHERE " (by decide), hjoined⟩

theorem order {raw : Option String}
    (h : ∀ term ∈ (Text.pieces ',' (raw.getD "")).map Text.trim, ∀ t,
      OrderTerm.parse? term = some t → P (.name t.column)) : ∀ f ∈ orderFragments raw, P f := by
  have hitems : ∀ item ∈ (orderTerms (raw.getD "")).map OrderTerm.fragments,
      ∀ f ∈ item, P f := by
    intro item hitem
    obtain ⟨t, ht, rfl⟩ := List.mem_map.mp hitem
    obtain ⟨term, hterm, hparse⟩ := List.mem_filterMap.mp ht
    obtain ⟨direction, hdirection, hfragments⟩ := t.fragments_shape
    have hwords : ∀ direction ∈ directions, direction ∈ vocabulary := by decide
    rw [hfragments]
    simpa using ⟨h term hterm t hparse, hp.word _ (hwords direction hdirection)⟩
  unfold orderFragments
  split
  case h_1 => simp
  case h_2 => simpa using ⟨hp.word " ORDER BY " (by decide), hp.listed hitems⟩

theorem page {page : Request.Page} (hlimit : ∀ n, page.limit = some n → P (.number n))
    (hoffset : P (.number page.offset)) : ∀ f ∈ page.fragments, P f := by
  intro f hf
  simp only [Request.Page.fragments, List.mem_append] at hf
  rcases hf with hf | hf
  · split at hf
    case h_1 limit hsome =>
      simp only [List.mem_cons, List.not_mem_nil, or_false] at hf
      rcases hf with rfl | rfl
      · exact hp.word " LIMIT " (by decide)
      · exact hlimit limit hsome
    case h_2 => cases hf
  · split at hf
    case isTrue =>
      simp only [List.mem_cons, List.not_mem_nil, or_false] at hf
      rcases hf with rfl | rfl
      · exact hp.word " OFFSET " (by decide)
      · exact hoffset
    case isFalse => cases hf

theorem returning (returning : Bool) : ∀ f ∈ returningFragments returning, P f := by
  cases returning with
  | false => simp [returningFragments]
  | true => simpa [returningFragments] using hp.word " RETURNING *" (by decide)

theorem groups (width first count : Nat) :
    ∀ group ∈ placeholderGroups width first count, ∀ f ∈ group, P f := by
  have hlisted : ∀ first, ∀ f ∈ Fragment.listed
      ((List.range' first width).map fun n => [Fragment.placeholder n]), P f := by
    intro first
    apply hp.listed
    intro item hitem
    obtain ⟨n, -, rfl⟩ := List.mem_map.mp hitem
    simpa using hp.placeholder n
  induction count generalizing first with
  | zero => simp [placeholderGroups]
  | succ count ih =>
      intro group hgroup
      rcases List.mem_cons.mp hgroup with rfl | hgroup
      · intro f hf
        simp only [List.mem_cons, List.mem_append, List.not_mem_nil, or_false] at hf
        rcases hf with (rfl | hf) | rfl
        · exact hp.word "(" (by decide)
        · exact hlisted first f hf
        · exact hp.word ")" (by decide)
      · exact ih (first + width) group hgroup

theorem merge {key columns : List String} (hkey : ∀ n ∈ key, P (.name n))
    (hcolumns : ∀ c ∈ columns, P (.name c)) : ∀ f ∈ mergeFragments key columns, P f := by
  have hupdates : ∀ f ∈ Fragment.listed (columns.map fun column =>
      [.name column, .fixed " = EXCLUDED.", .name column]), P f := by
    apply hp.listed
    intro item hitem
    obtain ⟨column, hcolumn, rfl⟩ := List.mem_map.mp hitem
    have hname := hcolumns column hcolumn
    simpa using ⟨hname, hp.word " = EXCLUDED." (by decide), hname⟩
  intro f hf
  rw [mergeFragments] at hf
  rcases List.mem_append.mp hf with hf | hf
  · rcases List.mem_cons.mp hf with rfl | hf
    · exact hp.word " ON CONFLICT (" (by decide)
    · exact hp.names hkey f hf
  · split at hf
    case isTrue =>
      rw [List.mem_singleton.mp hf]
      exact hp.word ") DO NOTHING" (by decide)
    case isFalse =>
      rcases List.mem_cons.mp hf with rfl | hf
      · exact hp.word ") DO UPDATE SET " (by decide)
      · exact hupdates f hf

theorem conflict {locks : LockMap} {columns : List String} {fragments : List Fragment}
    (h : conflictFragments request locks columns = .ok fragments)
    (hkey : ∀ key, conflictTarget request = .ok key → ∀ n ∈ key, P (.name n))
    (hcolumns : ∀ c ∈ columns, P (.name c)) : ∀ f ∈ fragments, P f := by
  cases conflict_shape h with
  | unsaid => simp
  | ignored => simpa using hp.word " ON CONFLICT DO NOTHING" (by decide)
  | merged _ htarget =>
      apply hp.merge (hkey _ htarget)
      intro c hc
      exact hcolumns c (List.mem_filter.mp hc).1

theorem assignments {columns : List String} (n : Nat) (h : ∀ c ∈ columns, P (.name c)) :
    ∀ assignment ∈ assignments n columns, ∀ f ∈ assignment, P f := by
  induction columns generalizing n with
  | nil => simp [Query.assignments]
  | cons column columns ih =>
      intro assignment hassignment
      rcases List.mem_cons.mp hassignment with rfl | hrest
      · simpa using ⟨h column (by simp), hp.word " = " (by decide), hp.placeholder n⟩
      · exact ih (n + 1) (fun c hc => h c (by simp [hc])) assignment hrest

end Worded

theorem OrderTerm.column_foldl_modify (modifiers : List String) (t : OrderTerm) :
    (modifiers.foldl OrderTerm.modify t).column = t.column := by
  induction modifiers generalizing t with
  | nil => rfl
  | cons m ms ih =>
      rw [List.foldl_cons, ih]
      simp only [OrderTerm.modify]
      repeat' split
      all_goals rfl

theorem OrderTerm.parse?_column {term : String} {t : OrderTerm}
    (h : OrderTerm.parse? term = some t) :
    (Text.pieces '.' term).head? = some t.column ∧ Sql.Identifier.isValid t.column = true := by
  unfold OrderTerm.parse? at h
  split at h
  case h_1 => cases h
  case h_2 column modifiers hpieces =>
    split at h
    case isTrue hvalid =>
      cases h
      rw [OrderTerm.column_foldl_modify, hpieces]
      exact ⟨rfl, hvalid⟩
    case isFalse => cases h

/-! ## Confined parts -/

theorem confined_target {settings : Settings} {request : Request} {fragments : List Fragment}
    (h : target settings request = .ok fragments) : ∀ f ∈ fragments, Confined f :=
  worded_confined.target h id fun _ _ hschema => hschema

theorem confined_where (n : Nat) (filters : List (String × String)) :
    ∀ f ∈ whereFragments (conditions n filters), Confined f :=
  worded_confined.clauses n fun _ _ _ _ _ hparse _ => (Filter.parse?_column hparse).2

theorem confined_order (raw : Option String) : ∀ f ∈ orderFragments raw, Confined f :=
  worded_confined.order fun _ _ _ hparse => (OrderTerm.parse?_column hparse).2

theorem confined_page (page : Request.Page) : ∀ f ∈ page.fragments, Confined f :=
  worded_confined.page (fun _ _ => trivial) trivial

/-! ## Statements -/

variable {settings : Settings} {request : Request} {context : Governance.Context}
  {target columns conflict : List Fragment} {payload : Payload} {rows : List Row}
  {attempted row : Row} {compiled : Compiled}

/-- What follows the target of a read. -/
def readTail (settings : Settings) (request : Request) : List Fragment :=
  whereFragments (conditions 1 request.filters) ++ orderFragments (request.parameter? "order")
    ++ (requestedPage settings request).fragments

theorem ReadSpec.statement_eq_tail (h : ReadSpec settings request target columns compiled) :
    compiled.query.statement = .fixed "SELECT " ::
      (columns ++ .fixed " FROM " :: (target ++ readTail settings request)) := by
  simp [h.statement_eq, readTail]

theorem confined_readTail : ∀ f ∈ readTail settings request, Confined f := by
  intro f hf
  simp only [readTail, List.mem_append] at hf
  rcases hf with (hf | hf) | hf
  · exact confined_where 1 request.filters f hf
  · exact confined_order _ f hf
  · exact confined_page _ f hf

section Worded

variable {P : Fragment → Prop}

theorem ReadSpec.worded (h : ReadSpec settings request target columns compiled) (hp : Worded P)
    (hcolumns : ∀ f ∈ columns, P f) (htarget : ∀ f ∈ target, P f)
    (htail : ∀ f ∈ readTail settings request, P f) : ∀ f ∈ compiled.query.statement, P f := by
  intro f hf
  simp only [h.statement_eq_tail, List.mem_cons, List.mem_append] at hf
  rcases hf with rfl | hf | rfl | hf | hf
  · exact hp.word "SELECT " (by decide)
  · exact hcolumns f hf
  · exact hp.word " FROM " (by decide)
  · exact htarget f hf
  · exact htail f hf

theorem ReadSpec.worded_count (h : ReadSpec settings request target columns compiled)
    (hp : Worded P) (htarget : ∀ f ∈ target, P f)
    (hclauses : ∀ f ∈ whereFragments (conditions 1 request.filters), P f) :
    ∀ count ∈ compiled.query.count, ∀ f ∈ count, P f := by
  intro count hcount f hf
  rw [h.eq_of_count hcount, List.mem_cons, List.mem_append] at hf
  rcases hf with rfl | hf | hf
  · exact hp.word "SELECT COUNT(*) FROM " (by decide)
  · exact htarget f hf
  · exact hclauses f hf

theorem InsertSpec.worded
    (h : InsertSpec settings request context target payload rows conflict compiled)
    (hp : Worded P) (htarget : ∀ f ∈ target, P f)
    (hcolumns : ∀ c ∈ columnUnion rows, P (.name c))
    (hkey : ∀ key, conflictTarget request = .ok key → ∀ n ∈ key, P (.name n)) :
    ∀ f ∈ compiled.query.statement, P f := by
  intro f hf
  simp only [h.statement_eq, List.mem_append, List.mem_cons] at hf
  rcases hf with ((((rfl | hf) | rfl | hf) | rfl | hf) | hf) | hf
  · exact hp.word "INSERT INTO " (by decide)
  · exact htarget f hf
  · exact hp.word " (" (by decide)
  · exact hp.names hcolumns f hf
  · exact hp.word ") VALUES " (by decide)
  · exact hp.listed (hp.groups _ 1 _) f hf
  · exact hp.conflict h.conflict_eq hkey hcolumns f hf
  · exact hp.returning _ f hf

theorem UpdateSpec.worded
    (h : UpdateSpec settings request context target attempted row compiled) (hp : Worded P)
    (htarget : ∀ f ∈ target, P f) (hcolumns : ∀ c ∈ row.names, P (.name c))
    (hclauses : ∀ f ∈ whereFragments (conditions (row.size + 1) request.filters), P f) :
    ∀ f ∈ compiled.query.statement, P f := by
  intro f hf
  simp only [h.statement_eq, List.mem_append, List.mem_cons] at hf
  rcases hf with (((rfl | hf) | rfl | hf) | hf) | hf
  · exact hp.word "UPDATE " (by decide)
  · exact htarget f hf
  · exact hp.word " SET " (by decide)
  · exact hp.listed (hp.assignments 1 hcolumns) f hf
  · exact hclauses f hf
  · exact hp.returning _ f hf

theorem DeleteSpec.worded (h : DeleteSpec settings request target compiled) (hp : Worded P)
    (htarget : ∀ f ∈ target, P f)
    (hclauses : ∀ f ∈ whereFragments (conditions 1 request.filters), P f) :
    ∀ f ∈ compiled.query.statement, P f := by
  intro f hf
  simp only [h.statement_eq, List.mem_append, List.mem_cons] at hf
  rcases hf with ((rfl | hf) | hf) | hf
  · exact hp.word "DELETE FROM " (by decide)
  · exact htarget f hf
  · exact hclauses f hf
  · exact hp.returning _ f hf

end Worded

theorem ReadSpec.confined_count (h : ReadSpec settings request target columns compiled) :
    ∀ count ∈ compiled.query.count, ∀ f ∈ count, Confined f :=
  h.worded_count worded_confined (confined_target h.target_eq) (confined_where 1 request.filters)

theorem InsertSpec.confined
    (h : InsertSpec settings request context target payload rows conflict compiled) :
    ∀ f ∈ compiled.query.statement, Confined f :=
  h.worded worded_confined (confined_target h.target_eq) h.isValid_column
    fun _ hkey => isValid_of_mem_conflictTarget hkey

theorem UpdateSpec.confined
    (h : UpdateSpec settings request context target attempted row compiled) :
    ∀ f ∈ compiled.query.statement, Confined f :=
  h.worded worded_confined (confined_target h.target_eq) h.isValid_column
    (confined_where _ request.filters)

theorem DeleteSpec.confined (h : DeleteSpec settings request target compiled) :
    ∀ f ∈ compiled.query.statement, Confined f :=
  h.worded worded_confined (confined_target h.target_eq) (confined_where 1 request.filters)

theorem confined_count (h : compile settings request context = .ok compiled) :
    ∀ count ∈ compiled.query.count, ∀ f ∈ count, Confined f := by
  intro count hcount
  obtain ⟨-, target, columns, hread⟩ := compile_count h hcount
  exact hread.confined_count count hcount

end TableGateway.Query
