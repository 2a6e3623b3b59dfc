import Mathlib.Data.List.Chain
import TableGateway.Proofs.Query.Vocabulary

/-! # Placeholders are counted through -/

namespace TableGateway.Query

open Sql (Fragment)

/-! ## Placeholders of a text -/

/-- The digits behind each dollar sign of a text, as far as they go. -/
def placeholderTexts : List Char → List (List Char)
  | [] => []
  | c :: cs =>
      if c = '$' then cs.takeWhile Char.isDigit :: placeholderTexts cs else placeholderTexts cs

/-- The dollar signs of a text mark the placeholders from one on, each of them once and in this
order. -/
def CountsThrough (count : Nat) (text : String) : Prop :=
  placeholderTexts text.toList = (List.range' 1 count).map Numeral.digits

theorem placeholderTexts_append_of_not_mem {cs : List Char} (h : '$' ∉ cs) (rest : List Char) :
    placeholderTexts (cs ++ rest) = placeholderTexts rest := by
  induction cs with
  | nil => rfl
  | cons c cs ih =>
      simp only [List.mem_cons, not_or] at h
      rw [List.cons_append, placeholderTexts, if_neg (Ne.symm h.1)]
      exact ih h.2

/-- The digits of a placeholder end where no digit follows. -/
theorem placeholderTexts_placeholder (n : Nat) {rest : List Char}
    (h : ∀ c ∈ rest.head?, c.isDigit = false) :
    placeholderTexts ('$' :: Numeral.digits n ++ rest) =
      Numeral.digits n :: placeholderTexts rest := by
  have hrun : (Numeral.digits n ++ rest).takeWhile Char.isDigit = Numeral.digits n := by
    rw [List.takeWhile_append_of_pos Numeral.isDigit_of_mem_digits]
    cases rest with
    | nil => simp
    | cons c rest => simp [h c (by simp)]
  have hmark : '$' ∉ Numeral.digits n := by
    intro hmem
    exact absurd (Numeral.isDigit_of_mem_digits '$' hmem) (by decide)
  rw [List.cons_append, placeholderTexts, if_pos rfl, hrun,
    placeholderTexts_append_of_not_mem hmark]

/-! ## Spaced fragments -/

/-- The text of a fragment starts with a character that is no digit. -/
def startsClear (f : Fragment) : Bool :=
  f.chars.head?.any fun c => !c.isDigit

/-- Behind a placeholder no digit follows at once. -/
def Spaced (fragments : List Fragment) : Prop :=
  fragments.IsChain fun f g => f.index? ≠ none → startsClear g = true

theorem spaced_append {front back : List Fragment} (hfront : Spaced front) (hback : Spaced back)
    (hhead : ∀ g ∈ back.head?, startsClear g = true) : Spaced (front ++ back) :=
  List.isChain_append.mpr ⟨hfront, hback, fun _ _ g hg _ => hhead g hg⟩

theorem spaced_fixed_cons {text : String} {fragments : List Fragment} (h : Spaced fragments) :
    Spaced (.fixed text :: fragments) :=
  List.isChain_cons.mpr ⟨fun _ _ hindex => absurd rfl hindex, h⟩

theorem spaced_of_indices_eq_nil {fragments : List Fragment}
    (h : Fragment.indices fragments = []) : Spaced fragments := by
  induction fragments with
  | nil => exact .nil
  | cons f fragments ih =>
      have hf : f.index? = none := List.filterMap_eq_nil_iff.mp h f (by simp)
      have hrest : Fragment.indices fragments = [] :=
        List.filterMap_eq_nil_iff.mpr fun g hg => List.filterMap_eq_nil_iff.mp h g (by simp [hg])
      exact List.isChain_cons.mpr ⟨fun _ _ hindex => absurd hf hindex, ih hrest⟩

theorem spaced_intercalate {separator : String} (hs : startsClear (.fixed separator) = true)
    {items : List (List Fragment)} (hi : ∀ item ∈ items, Spaced item) :
    Spaced ([Fragment.fixed separator].intercalate items) := by
  induction items with
  | nil => exact .nil
  | cons item items ih =>
      have hitem : Spaced item := hi item (by simp)
      have hitems : Spaced ([Fragment.fixed separator].intercalate items) :=
        ih fun it hit => hi it (by simp [hit])
      cases items with
      | nil => simpa using hitem
      | cons next rest =>
          rw [List.intercalate_cons_cons, List.append_assoc]
          exact spaced_append hitem (spaced_fixed_cons hitems) (by simpa using hs)

/-- In a spaced text of confined fragments every dollar sign is that of a placeholder. -/
theorem placeholderTexts_render {fragments : List Fragment}
    (hconfined : ∀ f ∈ fragments, Confined f) (hspaced : Spaced fragments) :
    placeholderTexts (Sql.render fragments).toList =
      (Fragment.indices fragments).map Numeral.digits := by
  rw [Sql.toList_render]
  induction fragments with
  | nil => rfl
  | cons f fragments ih =>
      have hf : Confined f := hconfined f (by simp)
      obtain ⟨hnext, hspaced⟩ := List.isChain_cons.mp hspaced
      have hrest := ih (fun g hg => hconfined g (by simp [hg])) hspaced
      rw [List.flatMap_cons]
      cases hindex : f.index? with
      | none =>
          have hclean : '$' ∉ f.chars :=
            hf.not_mem_chars (by decide) (by decide) (fun _ => hindex) (by decide +kernel)
          have hskip : Fragment.indices (f :: fragments) = Fragment.indices fragments :=
            List.filterMap_cons_none hindex
          rw [placeholderTexts_append_of_not_mem hclean, hrest, hskip]
      | some n =>
          have hplaceholder : f = .placeholder n := by
            cases f <;> simp_all [Fragment.index?]
          subst hplaceholder
          have hhead : ∀ c ∈ (fragments.flatMap Fragment.chars).head?, c.isDigit = false := by
            cases fragments with
            | nil => simp
            | cons g gs =>
                have hclear := hnext g (by simp) (by simp [hindex])
                unfold startsClear at hclear
                cases hg : g.chars with
                | nil => simp [hg] at hclear
                | cons c cs => simpa [hg] using hclear
          rw [Fragment.chars, placeholderTexts_placeholder n hhead, hrest]
          rfl

/-! ## Conditions -/

/-- A condition has a placeholder if it has a value, and no other. -/
theorem ConditionShape.indices {column : String} {n : Nat} {c : Condition}
    (h : ConditionShape column n c) :
    Fragment.indices c.fragments = List.range' n c.value.toList.length ∧ Spaced c.fragments := by
  cases h with
  | comparison => simp [Query.comparison, Spaced, Fragment.index?]
  | keyword => simp [Spaced, Fragment.index?]
  | noItems => simp [Spaced]
  | items =>
      have hclear : startsClear (.fixed ")") = true := by decide
      simp [Spaced, Fragment.index?, hclear]

theorem indices_conditions (n : Nat) (filters : List (String × String)) :
    ((conditions n filters).flatMap fun c => Fragment.indices c.fragments) =
      List.range' n (conditionValues (conditions n filters)).length := by
  induction filters generalizing n with
  | nil => rfl
  | cons p filters ih =>
      obtain ⟨column, raw⟩ := p
      simp only [conditions]
      split
      case h_1 => exact ih n
      case h_2 c hc =>
        obtain ⟨f, -, hcondition⟩ := Option.bind_eq_some_iff.mp hc
        obtain ⟨hindices, -⟩ := (Filter.condition?_shape hcondition).indices
        have hlength : ∀ cs, (conditionValues (c :: cs)).length =
            c.value.toList.length + (conditionValues cs).length := by
          intro cs
          cases hv : c.value <;> simp [conditionValues, hv, Nat.add_comm]
        rw [List.flatMap_cons, hindices, ih, hlength, List.range'_append_1]

theorem indices_where (cs : List Condition) :
    Fragment.indices (whereFragments cs) = cs.flatMap fun c => Fragment.indices c.fragments := by
  cases cs with
  | nil => rfl
  | cons c cs =>
      rw [whereFragments, Fragment.indices_fixed_cons, Fragment.indices_intercalate,
        List.flatMap_map]
      simp

theorem spaced_where (n : Nat) (filters : List (String × String)) :
    Spaced (whereFragments (conditions n filters)) := by
  have hitems : ∀ item ∈ (conditions n filters).map Condition.fragments, Spaced item := by
    intro item hitem
    obtain ⟨c, hc, rfl⟩ := List.mem_map.mp hitem
    obtain ⟨column, m, -, hshape⟩ := shape_of_mem_conditions hc
    exact hshape.indices.2
  unfold whereFragments
  split
  case h_1 => exact .nil
  case h_2 => exact spaced_fixed_cons (spaced_intercalate (by decide) hitems)

theorem startsClear_head_where (cs : List Condition) :
    ∀ g ∈ (whereFragments cs).head?, startsClear g = true := by
  cases cs with
  | nil => simp [whereFragments]
  | cons c cs => simp [whereFragments, startsClear, Fragment.chars]

/-! ## Order and page -/

theorem indices_order (raw : Option String) : Fragment.indices (orderFragments raw) = [] := by
  unfold orderFragments
  split
  case h_1 => rfl
  case h_2 =>
    rw [Fragment.indices_fixed_cons, Fragment.indices_listed, List.flatMap_eq_nil_iff]
    intro item hitem
    obtain ⟨t, -, rfl⟩ := List.mem_map.mp hitem
    rfl

theorem startsClear_head_order (raw : Option String) :
    ∀ g ∈ (orderFragments raw).head?, startsClear g = true := by
  unfold orderFragments
  split <;> simp [startsClear, Fragment.chars]

theorem indices_page (page : Request.Page) : Fragment.indices page.fragments = [] := by
  obtain ⟨offset, limit⟩ := page
  cases limit <;> by_cases h : 0 < offset <;> simp [Request.Page.fragments, h]

theorem startsClear_head_page (page : Request.Page) :
    ∀ g ∈ page.fragments.head?, startsClear g = true := by
  obtain ⟨offset, limit⟩ := page
  cases limit <;> by_cases h : 0 < offset <;>
    simp [Request.Page.fragments, h, startsClear, Fragment.chars]

theorem indices_target {settings : Settings} {request : Request} {fragments : List Fragment}
    (h : target settings request = .ok fragments) : Fragment.indices fragments = [] := by
  cases target_shape h <;> rfl

/-! ## Writing -/

theorem indices_returning (returning : Bool) :
    Fragment.indices (returningFragments returning) = [] := by
  cases returning <;> rfl

theorem startsClear_head_returning (returning : Bool) :
    ∀ g ∈ (returningFragments returning).head?, startsClear g = true := by
  cases returning <;> simp [returningFragments, startsClear, Fragment.chars]

theorem indices_placeholders (first width : Nat) :
    Fragment.indices (Fragment.listed
      ((List.range' first width).map fun n => [.placeholder n])) = List.range' first width := by
  rw [Fragment.indices_listed, List.flatMap_map]
  simp

theorem indices_groups (width first count : Nat) :
    (placeholderGroups width first count).flatMap Fragment.indices =
      List.range' first (count * width) := by
  induction count generalizing first with
  | zero => simp [placeholderGroups]
  | succ count ih =>
      rw [placeholderGroups, List.flatMap_cons, ih, Fragment.indices_append,
        Fragment.indices_fixed_cons, indices_placeholders, Fragment.indices_fixed_cons,
        Fragment.indices_nil, List.append_nil, List.range'_append_1, Nat.succ_mul, Nat.add_comm]

theorem spaced_groups (width first count : Nat) :
    ∀ group ∈ placeholderGroups width first count, Spaced group := by
  induction count generalizing first with
  | zero => simp [placeholderGroups]
  | succ count ih =>
      intro group hgroup
      rcases List.mem_cons.mp hgroup with rfl | hgroup
      · have hitems : ∀ item ∈ (List.range' first width).map fun n => [Fragment.placeholder n],
            Spaced item := by
          intro item hitem
          obtain ⟨n, -, rfl⟩ := List.mem_map.mp hitem
          simp [Spaced]
        have hcomma : startsClear (.fixed ", ") = true := by decide
        exact spaced_append (spaced_fixed_cons (spaced_intercalate hcomma hitems))
          (by simp [Spaced])
          (by simp [startsClear, Fragment.chars])
      · exact ih (first + width) group hgroup

theorem indices_merge (key columns : List String) :
    Fragment.indices (mergeFragments key columns) = [] := by
  rw [mergeFragments, Fragment.indices_append, Fragment.indices_fixed_cons,
    Fragment.indices_names, List.nil_append]
  split
  case isTrue => rfl
  case isFalse =>
    rw [Fragment.indices_fixed_cons, Fragment.indices_listed, List.flatMap_map]
    simp

theorem indices_conflict {request : Request} {locks : LockMap} {columns : List String}
    {fragments : List Fragment} (h : conflictFragments request locks columns = .ok fragments) :
    Fragment.indices fragments = [] := by
  cases conflict_shape h with
  | unsaid => rfl
  | ignored => rfl
  | merged => exact indices_merge _ _

theorem indices_assignments (n : Nat) (columns : List String) :
    (assignments n columns).flatMap Fragment.indices = List.range' n columns.length := by
  induction columns generalizing n with
  | nil => rfl
  | cons column columns ih => simp [assignments, ih, List.range'_succ]

theorem spaced_assignments (n : Nat) (columns : List String) :
    ∀ assignment ∈ assignments n columns, Spaced assignment := by
  induction columns generalizing n with
  | nil => simp [assignments]
  | cons column columns ih =>
      intro assignment hassignment
      rcases List.mem_cons.mp hassignment with rfl | hrest
      · simp [Spaced, Fragment.index?]
      · exact ih (n + 1) assignment hrest

theorem startsClear_head_conflict {request : Request} {locks : LockMap} {columns : List String}
    {fragments : List Fragment} (h : conflictFragments request locks columns = .ok fragments) :
    ∀ g ∈ fragments.head?, startsClear g = true := by
  cases conflict_shape h <;> simp [mergeFragments, startsClear, Fragment.chars]

/-! ## Statements -/

variable {settings : Settings} {request : Request} {context : Governance.Context}
  {target columns conflict : List Fragment} {payload : Payload} {rows : List Row}
  {attempted row : Row} {compiled : Compiled}

theorem countsThrough_render {fragments : List Fragment} {count : Nat}
    (hconfined : ∀ f ∈ fragments, Confined f) (hspaced : Spaced fragments)
    (hindices : Fragment.indices fragments = List.range' 1 count) :
    CountsThrough count (Sql.render fragments) := by
  rw [CountsThrough, placeholderTexts_render hconfined hspaced, hindices]

theorem ReadSpec.indices_tail (h : ReadSpec settings request target columns compiled) :
    Fragment.indices (readTail settings request) =
      List.range' 1 compiled.query.parameters.length := by
  rw [readTail, Fragment.indices_append, Fragment.indices_append, indices_order, indices_page,
    indices_where, indices_conditions, h.parameters_eq, List.append_nil, List.append_nil]

theorem ReadSpec.indices_count (h : ReadSpec settings request target columns compiled) :
    ∀ count ∈ compiled.query.count,
      Fragment.indices count = List.range' 1 compiled.query.parameters.length := by
  intro count hcount
  rw [h.eq_of_count hcount, Fragment.indices_fixed_cons, Fragment.indices_append,
    indices_target h.target_eq, indices_where, indices_conditions, h.parameters_eq, List.nil_append]

theorem ReadSpec.countsThrough_tail (h : ReadSpec settings request target columns compiled) :
    CountsThrough compiled.query.parameters.length (Sql.render (readTail settings request)) := by
  apply countsThrough_render confined_readTail
  · refine spaced_append (spaced_append (spaced_where 1 request.filters) ?_ ?_) ?_ ?_
    · exact spaced_of_indices_eq_nil (indices_order _)
    · exact startsClear_head_order _
    · exact spaced_of_indices_eq_nil (indices_page _)
    · exact startsClear_head_page _
  · exact h.indices_tail

theorem ReadSpec.countsThrough_count (h : ReadSpec settings request target columns compiled) :
    ∀ count ∈ compiled.query.count,
      CountsThrough compiled.query.parameters.length (Sql.render count) := by
  intro count hcount
  have hconfined := h.confined_count count hcount
  have hindices := h.indices_count count hcount
  apply countsThrough_render hconfined _ hindices
  rw [h.eq_of_count hcount]
  apply spaced_fixed_cons
  exact spaced_append (spaced_of_indices_eq_nil (indices_target h.target_eq))
    (spaced_where 1 request.filters) (startsClear_head_where _)

theorem InsertSpec.indices_statement
    (h : InsertSpec settings request context target payload rows conflict compiled) :
    Fragment.indices compiled.query.statement =
      List.range' 1 compiled.query.parameters.length := by
  have hcount : compiled.query.parameters.length = rows.length * (columnUnion rows).length := by
    simp [h.parameters_eq, List.length_flatMap]
  simp only [h.statement_eq, Fragment.indices_append, Fragment.indices_fixed_cons,
    List.cons_append, Fragment.indices_names, Fragment.indices_listed,
    indices_target h.target_eq, indices_conflict h.conflict_eq, indices_returning,
    List.nil_append, List.append_nil]
  rw [indices_groups, hcount]

theorem InsertSpec.countsThrough
    (h : InsertSpec settings request context target payload rows conflict compiled) :
    CountsThrough compiled.query.parameters.length compiled.query.text := by
  apply countsThrough_render h.confined
  · have hgroups : Spaced (Fragment.listed
        (placeholderGroups (columnUnion rows).length 1 rows.length)) :=
      spaced_intercalate (by decide) (spaced_groups _ 1 _)
    have hopening : Spaced (.fixed "INSERT INTO " :: target
        ++ .fixed " (" :: Fragment.names (columnUnion rows)) := by
      apply spaced_of_indices_eq_nil
      simp [indices_target h.target_eq]
    rw [h.statement_eq]
    refine spaced_append (spaced_append (spaced_append hopening (spaced_fixed_cons hgroups) ?_)
      ?_ ?_) ?_ ?_
    · simp [startsClear, Fragment.chars]
    · exact spaced_of_indices_eq_nil (indices_conflict h.conflict_eq)
    · exact startsClear_head_conflict h.conflict_eq
    · exact spaced_of_indices_eq_nil (indices_returning _)
    · exact startsClear_head_returning _
  · exact h.indices_statement

theorem UpdateSpec.indices_statement
    (h : UpdateSpec settings request context target attempted row compiled) :
    Fragment.indices compiled.query.statement =
      List.range' 1 compiled.query.parameters.length := by
  have hcount : compiled.query.parameters.length =
      row.names.length + (conditionValues (conditions (row.size + 1) request.filters)).length := by
    simp [h.parameters_eq, Row.names, Association.names]
  have hsize : row.size + 1 = 1 + row.names.length := by
    rw [row.size_eq_length_names, Nat.add_comm]
  simp only [h.statement_eq, Fragment.indices_append, Fragment.indices_fixed_cons,
    List.cons_append, Fragment.indices_listed, indices_target h.target_eq, indices_where,
    indices_returning, List.nil_append, List.append_nil]
  rw [indices_assignments, indices_conditions, hcount, hsize, List.range'_append_1]

theorem UpdateSpec.countsThrough
    (h : UpdateSpec settings request context target attempted row compiled) :
    CountsThrough compiled.query.parameters.length compiled.query.text := by
  apply countsThrough_render h.confined
  · have hassigned : Spaced (Fragment.listed (assignments 1 row.names)) :=
      spaced_intercalate (by decide) (spaced_assignments 1 row.names)
    have hopening : Spaced (.fixed "UPDATE " :: target) := by
      apply spaced_of_indices_eq_nil
      simp [indices_target h.target_eq]
    rw [h.statement_eq]
    refine spaced_append (spaced_append (spaced_append hopening (spaced_fixed_cons hassigned) ?_)
      (spaced_where _ _) (startsClear_head_where _))
      (spaced_of_indices_eq_nil (indices_returning _)) (startsClear_head_returning _)
    simp [startsClear, Fragment.chars]
  · exact h.indices_statement

theorem DeleteSpec.indices_statement (h : DeleteSpec settings request target compiled) :
    Fragment.indices compiled.query.statement =
      List.range' 1 compiled.query.parameters.length := by
  simp only [h.statement_eq, Fragment.indices_append, Fragment.indices_fixed_cons,
    List.cons_append, indices_target h.target_eq, indices_where, indices_returning,
    List.nil_append, List.append_nil]
  rw [indices_conditions, h.parameters_eq]

theorem DeleteSpec.countsThrough (h : DeleteSpec settings request target compiled) :
    CountsThrough compiled.query.parameters.length compiled.query.text := by
  apply countsThrough_render h.confined
  · have hopening : Spaced (.fixed "DELETE FROM " :: target) := by
      apply spaced_of_indices_eq_nil
      simp [indices_target h.target_eq]
    rw [h.statement_eq]
    exact spaced_append (spaced_append hopening (spaced_where _ _) (startsClear_head_where _))
      (spaced_of_indices_eq_nil (indices_returning _)) (startsClear_head_returning _)
  · exact h.indices_statement

/-- The placeholders of a write are counted through, and so are those behind the target of a read
and those of its count, which therefore takes the same parameters. -/
theorem compile_countsThrough (h : compile settings request context = .ok compiled) :
    (request.method ≠ .get →
      CountsThrough compiled.query.parameters.length compiled.query.text) ∧
    (request.method = .get → ∃ columns target tail,
      selectList (request.parameter? "select") = .ok columns ∧
      Query.target settings request = .ok target ∧
      compiled.query.text =
        "SELECT " ++ Sql.render columns ++ " FROM " ++ Sql.render target ++ tail ∧
      CountsThrough compiled.query.parameters.length tail ∧
      ∀ count, compiled.query.countText? = some count →
        CountsThrough compiled.query.parameters.length count) := by
  cases hm : request.method with
  | get =>
      refine ⟨fun hne => absurd rfl hne, fun _ => ?_⟩
      obtain ⟨target, columns, hread⟩ := compile_get hm h
      refine ⟨columns, target, Sql.render (readTail settings request), hread.columns_eq,
        hread.target_eq, ?_, hread.countsThrough_tail, ?_⟩
      · rw [Query.text, hread.statement_eq_tail]
        simp only [Sql.render_fixed_cons, Sql.render_append, String.append_assoc]
      · intro count hcount
        obtain ⟨fragments, hfragments, rfl⟩ := Option.map_eq_some_iff.mp hcount
        exact hread.countsThrough_count fragments hfragments
  | post =>
      obtain ⟨target, payload, rows, conflict, hinsert⟩ := compile_post hm h
      exact ⟨fun _ => hinsert.countsThrough, fun he => nomatch he⟩
  | patch =>
      obtain ⟨target, attempted, row, hupdate⟩ := compile_patch hm h
      exact ⟨fun _ => hupdate.countsThrough, fun he => nomatch he⟩
  | delete =>
      obtain ⟨target, hdelete⟩ := compile_delete hm h
      exact ⟨fun _ => hdelete.countsThrough, fun he => nomatch he⟩

/-- An update of two columns and an attempt at a third one, with filters of every kind. -/
def filteredUpdate : Request where
  method := .patch
  table := "tasks"
  query := [("id", "gt.7"), ("state", "in.()"), ("done", "is.maybe"), ("bad key", "eq.1"),
    ("owner", "is.null"), ("tag", "in.(a,b)"), ("note", "like.x*$9")]
  body := some (.object
    [("title", .string "a $1 b"), ("id", .number (.integer 3)), ("rank", .null)])
  headers := .none

theorem compile_countsThrough_filteredUpdate :
    ∃ compiled, compile ⟨none, none⟩ filteredUpdate ⟨⟨[("id", .immutable)]⟩, "anon", "p", none⟩ =
        .ok compiled ∧
      compiled.query.text = "UPDATE \"tasks\" SET \"title\" = $1, \"rank\" = $2 WHERE \"id\" > $3"
        ++ " AND 1=0 AND \"owner\" IS NULL AND \"tag\" = ANY($4) AND \"note\" LIKE $5" ∧
      CountsThrough compiled.query.parameters.length compiled.query.text := by
  have h : compile ⟨none, none⟩ filteredUpdate ⟨⟨[("id", .immutable)]⟩, "anon", "p", none⟩ =
      .ok _ := rfl
  exact ⟨_, h, by decide +kernel, (compile_countsThrough h).1 (by decide)⟩

end TableGateway.Query
