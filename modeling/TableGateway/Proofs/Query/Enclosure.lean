import TableGateway.Proofs.Query.SelectList
import TableGateway.Proofs.Query.Vocabulary
import TableGateway.Session.Execution

/-! # Statements within parentheses

The parentheses of a statement are balanced where those of the list that it selects are, and only
there. The statement that answers with rows as JSON wraps another one between two parentheses. -/

namespace TableGateway

open Sql (Region scan Neutral SameNesting isPlain)

/-! ## Parentheses of fragments -/

namespace Sql.Fragment

/-- The parentheses among the fixed words. -/
def parentheses (fragments : List Fragment) : List Char :=
  fragments.flatMap fun
    | fixed text => text.toList.filter fun c => c ∈ ['(', ')']
    | _ => []

@[simp] theorem parentheses_nil : parentheses [] = [] := rfl

@[simp] theorem parentheses_append (front back : List Fragment) :
    parentheses (front ++ back) = parentheses front ++ parentheses back :=
  List.flatMap_append

theorem parentheses_fixed_cons (text : String) (fragments : List Fragment) :
    parentheses (fixed text :: fragments) =
      (text.toList.filter fun c => c ∈ ['(', ')']) ++ parentheses fragments := rfl

@[simp] theorem parentheses_name_cons (identifier : String) (fragments : List Fragment) :
    parentheses (name identifier :: fragments) = parentheses fragments := rfl

@[simp] theorem parentheses_placeholder_cons (index : Nat) (fragments : List Fragment) :
    parentheses (placeholder index :: fragments) = parentheses fragments := rfl

theorem parentheses_intercalate {separator : String} (h : parentheses [fixed separator] = [])
    (items : List (List Fragment)) :
    parentheses ([fixed separator].intercalate items) = items.flatMap parentheses := by
  induction items with
  | nil => rfl
  | cons item items ih =>
      cases items with
      | nil => simp
      | cons next rest =>
          rw [List.intercalate_cons_cons, parentheses_append, parentheses_append, h, ih,
            List.append_nil]
          rfl

theorem parentheses_listed (items : List (List Fragment)) :
    parentheses (listed items) = items.flatMap parentheses :=
  parentheses_intercalate rfl items

@[simp] theorem parentheses_names (identifiers : List String) :
    parentheses (names identifiers) = [] := by
  simp [names, parentheses_listed, List.flatMap_map]

end Sql.Fragment

namespace Query

open Sql (Fragment)
open Sql.Fragment (parentheses)

theorem neutral_pair : Neutral ['(', ')'] := by
  intro region depth
  cases region <;> rfl

theorem neutral_flatMap {α : Type} {items : List α} {f : α → List Char}
    (h : ∀ item ∈ items, Neutral (f item)) : Neutral (items.flatMap f) := by
  induction items with
  | nil => exact .of_eq rfl
  | cons item items ih =>
      exact Sql.neutral_append (h item (by simp)) (ih fun it hit => h it (by simp [hit]))

/-! ## Confined fragments -/

theorem sameNesting_filter {cs : List Char} (h : '\'' ∉ cs ∧ '"' ∉ cs) :
    SameNesting cs (cs.filter fun c => c ∈ ['(', ')']) := by
  induction cs with
  | nil => exact .of_eq rfl
  | cons c cs ih =>
      simp only [List.mem_cons, not_or] at h
      obtain ⟨⟨hapostrophe, hrest⟩, hquote, hback⟩ := h
      have hcs := ih ⟨hrest, hback⟩
      rw [List.filter_cons]
      split
      case isTrue => exact SameNesting.append (.of_eq (rfl : [c] = [c])) hcs
      case isFalse hparenthesis =>
        have hplain : isPlain c = true := by
          simpa [isPlain, Ne.symm hapostrophe, Ne.symm hquote] using hparenthesis
        intro region depth
        rw [Sql.scan_cons_of_isPlain hplain]
        exact hcs region depth

/-- Among the fixed words of a statement there is no quote. -/
theorem no_quote_in_vocabulary :
    ∀ word ∈ vocabulary, '\'' ∉ word.toList ∧ '"' ∉ word.toList := by
  decide +kernel

theorem neutral_digits (n : Nat) : Neutral (Numeral.digits n) :=
  Sql.neutral_of_isPlain fun c hc =>
    isPlain_of_isNameChar (Numeral.isNameChar_of_mem_digits c hc)

theorem sameNesting_of_confined {fragments : List Fragment} (h : ∀ f ∈ fragments, Confined f) :
    SameNesting (fragments.flatMap Fragment.chars) (parentheses fragments) := by
  induction fragments with
  | nil => exact .of_eq rfl
  | cons f fragments ih =>
      have hrest := ih fun g hg => h g (by simp [hg])
      have hf := h f (by simp)
      refine SameNesting.append ?_ hrest
      cases f with
      | fixed text => exact sameNesting_filter (no_quote_in_vocabulary text hf)
      | name identifier => exact neutral_name hf
      | placeholder index =>
          have hmark : Neutral ['$'] := Sql.neutral_of_all rfl
          exact Sql.neutral_append hmark (neutral_digits index)
      | number n => exact neutral_digits n
      | expression text => exact hf.elim

/-! ## The parts of statements -/

theorem parentheses_target {settings : Settings} {request : Request} {fragments : List Fragment}
    (h : target settings request = .ok fragments) : parentheses fragments = [] := by
  cases target_shape h <;> rfl

theorem parentheses_order (raw : Option String) : parentheses (orderFragments raw) = [] := by
  have hword : ∀ direction ∈ directions, parentheses [.fixed direction] = [] := by decide
  have hterm : ∀ t : OrderTerm, parentheses t.fragments = [] := by
    intro t
    obtain ⟨direction, hdirection, hfragments⟩ := t.fragments_shape
    rw [hfragments, Fragment.parentheses_name_cons]
    exact hword direction hdirection
  unfold orderFragments
  split
  case h_1 => rfl
  case h_2 terms _ =>
    rw [Fragment.parentheses_fixed_cons, Fragment.parentheses_listed]
    simp [List.flatMap_map, hterm]

theorem parentheses_page (page : Request.Page) : parentheses page.fragments = [] := by
  rw [Request.Page.fragments, Fragment.parentheses_append]
  split <;> split <;> rfl

theorem parentheses_returning (returning : Bool) :
    parentheses (returningFragments returning) = [] := by
  cases returning <;> rfl

theorem parentheses_assignments (n : Nat) (columns : List String) :
    (assignments n columns).flatMap parentheses = [] := by
  induction columns generalizing n with
  | nil => rfl
  | cons column columns ih =>
      rw [assignments, List.flatMap_cons, ih]
      rfl

/-- The only parentheses of a condition stand around the list of an array. -/
theorem ConditionShape.neutral {column : String} {n : Nat} {c : Condition}
    (h : ConditionShape column n c) : Neutral (parentheses c.fragments) := by
  cases h with
  | @comparison symbol hsymbol value =>
      have hwords : ∀ symbol ∈ symbols, parentheses [.fixed (" " ++ symbol ++ " ")] = [] := by
        decide
      exact .of_eq (hwords symbol hsymbol)
  | @keyword keyword hkeyword =>
      have hwords : ∀ keyword ∈ keywords, parentheses [.fixed (" IS " ++ keyword)] = [] := by
        decide
      exact .of_eq (hwords keyword hkeyword)
  | noItems => exact .of_eq rfl
  | items => exact neutral_pair

theorem neutral_where (n : Nat) (filters : List (String × String)) :
    Neutral (parentheses (whereFragments (conditions n filters))) := by
  have hconditions : ∀ c ∈ conditions n filters, Neutral (parentheses c.fragments) := by
    intro c hc
    obtain ⟨column, m, -, hshape⟩ := shape_of_mem_conditions hc
    exact hshape.neutral
  cases hc : conditions n filters with
  | nil => exact .of_eq rfl
  | cons c cs =>
      rw [hc] at hconditions
      rw [whereFragments, Fragment.parentheses_fixed_cons, Fragment.parentheses_intercalate rfl,
        List.flatMap_map]
      · exact neutral_flatMap hconditions
      · simp

theorem neutral_groups (width first count : Nat) :
    Neutral ((placeholderGroups width first count).flatMap parentheses) := by
  induction count generalizing first with
  | zero => exact .of_eq rfl
  | succ count ih =>
      have hplaceholders : parentheses (Fragment.listed
          ((List.range' first width).map fun n => [Fragment.placeholder n])) = [] := by
        rw [Fragment.parentheses_listed]
        simp [List.flatMap_map]
      rw [placeholderGroups, List.flatMap_cons, Fragment.parentheses_append,
        Fragment.parentheses_fixed_cons, hplaceholders]
      exact Sql.neutral_append neutral_pair (ih (first + width))

theorem neutral_merge (key columns : List String) :
    Neutral (parentheses (mergeFragments key columns)) := by
  have hupdates : (columns.map fun column =>
      [Fragment.name column, .fixed " = EXCLUDED.", .name column]).flatMap parentheses = [] := by
    rw [List.flatMap_eq_nil_iff]
    intro item hitem
    obtain ⟨column, -, rfl⟩ := List.mem_map.mp hitem
    rfl
  rw [mergeFragments, Fragment.parentheses_append, Fragment.parentheses_fixed_cons,
    Fragment.parentheses_names]
  split
  case isTrue => exact neutral_pair
  case isFalse =>
    rw [Fragment.parentheses_fixed_cons, Fragment.parentheses_listed, hupdates]
    exact neutral_pair

theorem neutral_conflict {request : Request} {locks : LockMap} {columns : List String}
    {fragments : List Fragment} (h : conflictFragments request locks columns = .ok fragments) :
    Neutral (parentheses fragments) := by
  cases conflict_shape h with
  | unsaid => exact .of_eq rfl
  | ignored => exact .of_eq rfl
  | merged => exact neutral_merge _ _

/-! ## Statements -/

variable {settings : Settings} {request : Request} {context : Governance.Context}
  {target columns conflict : List Fragment} {payload : Payload} {rows : List Row}
  {attempted row : Row} {compiled : Compiled}

/-- A confined statement changes nothing if its parentheses do not. -/
theorem neutral_text {q : Query} (h : ∀ f ∈ q.statement, Confined f)
    (hparentheses : Neutral (parentheses q.statement)) : Neutral q.text.toList := by
  rw [Query.text, Sql.toList_render]
  exact (sameNesting_of_confined h).trans hparentheses

theorem InsertSpec.neutral
    (h : InsertSpec settings request context target payload rows conflict compiled) :
    Neutral compiled.query.text.toList := by
  refine neutral_text h.confined ?_
  have hstatement : parentheses compiled.query.statement =
      ['(', ')'] ++ (placeholderGroups (columnUnion rows).length 1 rows.length).flatMap parentheses
        ++ parentheses conflict := by
    simp only [h.statement_eq, Fragment.parentheses_append, Fragment.parentheses_fixed_cons,
      parentheses_target h.target_eq, Fragment.parentheses_names, Fragment.parentheses_listed,
      parentheses_returning]
    rw [List.append_nil]
    rfl
  rw [hstatement]
  exact Sql.neutral_append (Sql.neutral_append neutral_pair (neutral_groups _ _ _))
    (neutral_conflict h.conflict_eq)

theorem UpdateSpec.neutral
    (h : UpdateSpec settings request context target attempted row compiled) :
    Neutral compiled.query.text.toList := by
  refine neutral_text h.confined ?_
  have hstatement : parentheses compiled.query.statement =
      parentheses (whereFragments (conditions (row.size + 1) request.filters)) := by
    simp only [h.statement_eq, Fragment.parentheses_append, Fragment.parentheses_fixed_cons,
      parentheses_target h.target_eq, Fragment.parentheses_listed, parentheses_assignments,
      parentheses_returning]
    rw [List.append_nil]
    rfl
  rw [hstatement]
  exact neutral_where _ _

theorem DeleteSpec.neutral (h : DeleteSpec settings request target compiled) :
    Neutral compiled.query.text.toList := by
  refine neutral_text h.confined ?_
  have hstatement : parentheses compiled.query.statement =
      parentheses (whereFragments (conditions 1 request.filters)) := by
    simp only [h.statement_eq, Fragment.parentheses_append, Fragment.parentheses_fixed_cons,
      parentheses_target h.target_eq, parentheses_returning]
    rw [List.append_nil]
    rfl
  rw [hstatement]
  exact neutral_where _ _

/-- A read nests as the list that it selects. -/
theorem ReadSpec.sameNesting (h : ReadSpec settings request target columns compiled) :
    SameNesting compiled.query.text.toList ((request.parameter? "select").getD "").toList := by
  have htail : ∀ f ∈ target ++ readTail settings request, Confined f := by
    intro f hf
    rcases List.mem_append.mp hf with hf | hf
    · exact confined_target h.target_eq f hf
    · exact confined_readTail f hf
  have hneutral : Neutral ((target ++ readTail settings request).flatMap Fragment.chars) := by
    refine (sameNesting_of_confined htail).trans ?_
    rw [readTail, Fragment.parentheses_append, Fragment.parentheses_append,
      Fragment.parentheses_append, parentheses_target h.target_eq, parentheses_order,
      parentheses_page, List.append_nil, List.append_nil]
    exact neutral_where _ _
  have hselect : Neutral "SELECT ".toList := Sql.neutral_of_all rfl
  have hfrom : Neutral " FROM ".toList := Sql.neutral_of_all rfl
  have htext : compiled.query.text.toList = "SELECT ".toList ++
      (columns.flatMap Fragment.chars ++ (" FROM ".toList ++
        (target ++ readTail settings request).flatMap Fragment.chars)) := by
    rw [Query.text, Sql.toList_render, h.statement_eq_tail]
    simp only [List.flatMap_cons, List.flatMap_append, Fragment.chars]
  rw [htext]
  refine SameNesting.append hselect ?_
  have hback := SameNesting.append (sameNesting_selectList h.columns_eq)
    (Sql.neutral_append hfrom hneutral)
  rwa [List.append_nil] at hback

/-! ## Wrapped statements -/

/-- The parentheses around a statement enclose it, and nothing else, if it closes all that it
opens. -/
theorem group?_jsonRowsSql {sql : String} :
    Sql.group? (Session.jsonRowsSql sql) = some sql ↔ Sql.Closed sql := by
  have hchars : (Session.jsonRowsSql sql).toList = "WITH _rg AS (".toList ++
      (sql.toList ++ ')' :: " SELECT to_jsonb(_rg) AS row FROM _rg".toList) := by
    rw [Session.jsonRowsSql, String.toList_append, String.toList_append, List.append_assoc]
    rfl
  have hgroup : ∀ cs, Sql.groupChars .outside ("WITH _rg AS (".toList ++ cs) =
      (Sql.untilClosing .outside 0 cs).map Prod.fst := fun _ => rfl
  have hinside : (Sql.untilClosing .outside 0
        (sql.toList ++ ')' :: " SELECT to_jsonb(_rg) AS row FROM _rg".toList)).map Prod.fst =
      some sql.toList ↔ scan .outside 0 sql.toList = some (.outside, 0) :=
    Sql.untilClosing_append_iff
  rw [Sql.closed_iff, ← hinside, Sql.group?, hchars, hgroup, Option.map_eq_some_iff]
  constructor
  · rintro ⟨inside, hread, htext⟩
    rw [← htext, String.toList_ofList] at hread ⊢
    exact hread
  · intro hinside
    exact ⟨sql.toList, hinside, String.ofList_toList⟩

/-- The parentheses of a statement are balanced, and those around it enclose it, unless it reads a
list of which this does not hold. -/
theorem compile_balanced_iff (h : compile settings request context = .ok compiled) :
    (Sql.Balanced compiled.query.text ↔
      (request.method = .get → Sql.Balanced ((request.parameter? "select").getD ""))) ∧
    (Sql.group? (Session.jsonRowsSql compiled.query.text) = some compiled.query.text ↔
      (request.method = .get → Sql.Closed ((request.parameter? "select").getD ""))) := by
  rw [group?_jsonRowsSql]
  cases hmethod : request.method with
  | get =>
      obtain ⟨target, columns, hread⟩ := compile_get hmethod h
      simpa using hread.sameNesting.balanced_closed_iff
  | post =>
      obtain ⟨target, payload, rows, conflict, hinsert⟩ := compile_post hmethod h
      simpa using hinsert.neutral.balanced_closed
  | patch =>
      obtain ⟨target, payload, row, hupdate⟩ := compile_patch hmethod h
      simpa using hupdate.neutral.balanced_closed
  | delete =>
      obtain ⟨target, hdelete⟩ := compile_delete hmethod h
      simpa using hdelete.neutral.balanced_closed

/-- A read of a list that closes its own parentheses. -/
def nestedRead : Request where
  method := .get
  table := "tasks"
  query := [("select", "count(*), max((a)), note:text")]
  body := none
  headers := .none

theorem compile_balanced_iff_nestedRead :
    ∃ compiled, compile ⟨none, none⟩ nestedRead ⟨⟨[]⟩, "anon", "p", none⟩ = .ok compiled ∧
      (Sql.Balanced compiled.query.text ↔
        (nestedRead.method = .get → Sql.Balanced "count(*), max((a)), note:text")) ∧
      (Sql.group? (Session.jsonRowsSql compiled.query.text) = some compiled.query.text ↔
        (nestedRead.method = .get → Sql.Closed "count(*), max((a)), note:text")) := by
  have h : compile ⟨none, none⟩ nestedRead ⟨⟨[]⟩, "anon", "p", none⟩ = .ok _ := rfl
  exact ⟨_, h, compile_balanced_iff h⟩

/-- A read of a list that closes a parenthesis which it did not open. -/
def unnestedRead : Request where
  method := .get
  table := "t"
  query := [("select", "1.0), b AS (DELETE FROM users RETURNING *), c AS (SELECT 1")]
  body := none
  headers := .none

/-- The parenthesis closes the one in front of the statement, and what follows stands beside it. -/
theorem not_balanced_unnestedRead :
    ∃ compiled, compile ⟨none, none⟩ unnestedRead ⟨⟨[]⟩, "anon", "p", none⟩ = .ok compiled ∧
      ¬Sql.Balanced compiled.query.text ∧
      Sql.group? (Session.jsonRowsSql compiled.query.text) = some "SELECT 1.0" := by
  have h : compile ⟨none, none⟩ unnestedRead ⟨⟨[]⟩, "anon", "p", none⟩ = .ok _ := rfl
  refine ⟨_, h, ?_, by decide +kernel⟩
  intro hbalanced
  have hfront := hbalanced.fronts "SELECT 1.0)".toList (by decide +kernel)
  exact absurd hfront (by decide +kernel)

end Query

end TableGateway
