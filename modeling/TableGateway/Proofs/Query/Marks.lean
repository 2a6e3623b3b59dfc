import Mathlib.Data.List.Chain
import TableGateway.Proofs.Query.SelectList
import TableGateway.Proofs.Query.Vocabulary
import TableGateway.Proofs.Text.Occurrence

/-! # No statement is broken off

The marks that end a statement or open a comment occur in no compiled text, although an expression
is taken over as it stands: they are looked for in each entry, and none arises where two parts
meet. -/

namespace TableGateway

open Sql (Fragment)

namespace Sql

/-! ## Texts without a mark -/

/-- Side by side the two characters open no comment. -/
def Apart (a b : Char) : Prop :=
  ¬(a = '-' ∧ b = '-') ∧ ¬(a = '/' ∧ b = '*')

/-- No character ends a statement, and no two of them open a comment. -/
structure Unbroken (cs : List Char) : Prop where
  no_end : ';' ∉ cs
  chain : cs.IsChain Apart

/-- No character has a part in a mark, except that of a comment behind another one. -/
def Quiet (cs : List Char) : Prop :=
  ∀ c ∈ cs, c ≠ ';' ∧ c ≠ '-' ∧ c ≠ '/'

theorem pair_infix_cons {x y a b : Char} {cs : List Char} :
    [x, y] <:+: a :: b :: cs ↔ (a = x ∧ b = y) ∨ [x, y] <:+: b :: cs := by
  rw [List.infix_cons_iff, List.cons_prefix_cons, List.cons_prefix_cons, eq_comm (a := x),
    eq_comm (a := y)]
  simp

theorem isChain_apart_iff {cs : List Char} :
    cs.IsChain Apart ↔ ¬['-', '-'] <:+: cs ∧ ¬['/', '*'] <:+: cs := by
  induction cs with
  | nil => simp
  | cons a cs ih =>
      cases cs with
      | nil => simp [List.infix_cons_iff]
      | cons b cs =>
          rw [List.isChain_cons_cons, ih, pair_infix_cons, pair_infix_cons, not_or, not_or, Apart]
          exact and_and_and_comm

theorem unbroken_iff {cs : List Char} :
    Unbroken cs ↔ ∀ mark ∈ [";", "--", "/*"], ¬mark.toList <:+: cs := by
  have hmarks : (∀ mark ∈ [";", "--", "/*"], ¬mark.toList <:+: cs) ↔
      ¬[';'] <:+: cs ∧ ¬['-', '-'] <:+: cs ∧ ¬['/', '*'] <:+: cs := by
    simp
  rw [hmarks, List.singleton_infix_iff, ← isChain_apart_iff]
  exact ⟨fun h => ⟨h.no_end, h.chain⟩, fun h => ⟨h.1, h.2⟩⟩

namespace Quiet

variable {front back cs : List Char}

theorem apart (h : Quiet cs) {a : Char} (ha : a ∈ cs) (b : Char) : Apart a b :=
  ⟨fun hab => (h a ha).2.1 hab.1, fun hab => (h a ha).2.2 hab.1⟩

theorem unbroken (h : Quiet cs) : Unbroken cs where
  no_end hmem := (h _ hmem).1 rfl
  chain := by
    induction cs with
    | nil => exact .nil
    | cons c cs ih =>
        have hrest := ih fun d hd => h d (by simp [hd])
        exact List.isChain_cons.mpr ⟨fun b _ => h.apart (by simp) b, hrest⟩

theorem append (hfront : Quiet front) (hback : Quiet back) : Quiet (front ++ back) := by
  intro c hc
  rcases List.mem_append.mp hc with hc | hc
  · exact hfront c hc
  · exact hback c hc

/-- Nothing that follows a quiet text makes a mark with it. -/
theorem append_unbroken (hfront : Quiet front) (hback : Unbroken back) :
    Unbroken (front ++ back) where
  no_end := by
    rw [List.mem_append, not_or]
    exact ⟨hfront.unbroken.no_end, hback.no_end⟩
  chain := List.isChain_append.mpr ⟨hfront.unbroken.chain, hback.chain,
    fun a ha b _ => hfront.apart (List.mem_of_getLast? ha) b⟩

end Quiet

/-- A text that starts with neither the second character of a mark makes none with what stands in
front of it. -/
theorem Unbroken.append {front back : List Char} (hfront : Unbroken front) (hback : Unbroken back)
    (hhead : ∀ c ∈ back.head?, c ≠ '-' ∧ c ≠ '*') : Unbroken (front ++ back) where
  no_end := by
    rw [List.mem_append, not_or]
    exact ⟨hfront.no_end, hback.no_end⟩
  chain := List.isChain_append.mpr ⟨hfront.chain, hback.chain,
    fun _ _ b hb => ⟨fun hab => (hhead b hb).1 hab.2, fun hab => (hhead b hb).2 hab.2⟩⟩

theorem unbroken_intercalate {items : List (List Char)} (h : ∀ item ∈ items, Unbroken item) :
    Unbroken (", ".toList.intercalate items) := by
  induction items with
  | nil => exact Quiet.unbroken (by simp [Quiet])
  | cons item items ih =>
      have hitem : Unbroken item := h item (by simp)
      have hrest := ih fun it hit => h it (by simp [hit])
      cases items with
      | nil => simpa using hitem
      | cons next rest =>
          have hcomma : Quiet ", ".toList := by simp [Quiet]
          rw [List.intercalate_cons_cons, List.append_assoc]
          exact hitem.append (hcomma.append_unbroken hrest) (by simp)

end Sql

namespace Query

open Sql (Unbroken Quiet)

/-! ## Fragments -/

theorem quiet_of_isValid {identifier : String} (h : Sql.Identifier.isValid identifier = true) :
    Quiet (Fragment.name identifier).chars := by
  have hnames : ∀ c, Sql.Identifier.isNameChar c = true ∨ c = '"' →
      c ≠ ';' ∧ c ≠ '-' ∧ c ≠ '/' := by
    rintro c (hc | rfl)
    · refine ⟨?_, ?_, ?_⟩ <;>
        · rintro rfl
          exact absurd hc (by decide)
    · decide
  intro c hc
  rw [Fragment.chars, Sql.Identifier.quotedChars_of_isValid h] at hc
  simp only [List.cons_append, List.mem_cons, List.mem_append, List.not_mem_nil, or_false] at hc
  rcases hc with hc | hc | hc
  · exact hnames c (.inr hc)
  · exact hnames c (.inl (Sql.Identifier.isNameChar_of_isValid h c hc))
  · exact hnames c (.inr hc)

theorem quiet_of_confined {fragments : List Fragment} (h : ∀ f ∈ fragments, Confined f) :
    Quiet (fragments.flatMap Fragment.chars) := by
  have hmark : ∀ mark ∈ [';', '-', '/'], ∀ f ∈ fragments, mark ∉ f.chars := by
    intro mark hmark f hf
    simp only [List.mem_cons, List.not_mem_nil, or_false] at hmark
    rcases hmark with rfl | rfl | rfl <;>
      exact (h f hf).not_mem_chars (by decide) (by decide) (by simp) (by decide +kernel)
  intro c hc
  obtain ⟨f, hf, hcf⟩ := List.mem_flatMap.mp hc
  refine ⟨?_, ?_, ?_⟩ <;>
    · rintro rfl
      exact hmark _ (by simp) f hf hcf

/-! ## The list of a read -/

theorem unbroken_selectEntry {entry : String} {fragments : List Fragment}
    (h : selectEntry entry = .ok fragments) : Unbroken (fragments.flatMap Fragment.chars) := by
  obtain ⟨hmarks, hshape⟩ := selectEntry_shape h
  have hentry : Unbroken entry.toList := by
    rw [Sql.unbroken_iff]
    intro mark hmark hinfix
    have hoccurs : Text.occursIn mark entry = true := Text.occursIn_iff.mpr hinfix
    rw [hmarks mark hmark] at hoccurs
    cases hoccurs
  cases hshape with
  | star hstar =>
      rw [hstar] at hentry
      exact hentry
  | expression => simpa [Fragment.chars] using hentry
  | column _ hcolumn =>
      rw [List.flatMap_singleton]
      exact (quiet_of_isValid hcolumn).unbroken
  | labelled _ hcolumn hlabel =>
      have has : Quiet (Fragment.fixed " AS ").chars := by simp [Quiet, Fragment.chars]
      have hback := has.append (quiet_of_isValid hlabel)
      simpa using ((quiet_of_isValid hcolumn).append hback).unbroken

theorem unbroken_selectList {raw : Option String} {columns : List Fragment}
    (h : selectList raw = .ok columns) : Unbroken (columns.flatMap Fragment.chars) := by
  obtain ⟨items, rfl | rfl, hitems⟩ := selectList_items h
  · exact Quiet.unbroken (by simp [Quiet, Fragment.chars])
  · rw [flatMap_chars_listed]
    refine Sql.unbroken_intercalate fun cs hcs => ?_
    obtain ⟨item, hitem, rfl⟩ := List.mem_map.mp hcs
    obtain ⟨part, -, hselect⟩ := hitems item hitem
    exact unbroken_selectEntry hselect

/-! ## Statements -/

variable {settings : Settings} {request : Request} {context : Governance.Context}
  {compiled : Compiled}

theorem unbroken_render {fragments : List Fragment} (h : ∀ f ∈ fragments, Confined f) :
    Unbroken (Sql.render fragments).toList := by
  rw [Sql.toList_render]
  exact (quiet_of_confined h).unbroken

theorem ReadSpec.unbroken {target columns : List Fragment}
    (h : ReadSpec settings request target columns compiled) :
    Unbroken compiled.query.text.toList := by
  have hconfined : ∀ f ∈ .fixed " FROM " :: (target ++ readTail settings request), Confined f := by
    intro f hf
    simp only [List.mem_cons, List.mem_append] at hf
    rcases hf with rfl | hf | hf
    · exact (show " FROM " ∈ vocabulary by decide)
    · exact confined_target h.target_eq f hf
    · exact confined_readTail f hf
  have hselect : Quiet "SELECT ".toList := by simp [Quiet]
  -- An expression may end in a character that opens a mark, but a blank follows it.
  have hback := (unbroken_selectList h.columns_eq).append (quiet_of_confined hconfined).unbroken
    (by simp [Fragment.chars])
  rw [Query.text, Sql.toList_render, h.statement_eq_tail, List.flatMap_cons, List.flatMap_append]
  exact hselect.append_unbroken hback

theorem unbroken_text (h : compile settings request context = .ok compiled) :
    Unbroken compiled.query.text.toList := by
  cases hmethod : request.method with
  | get =>
      obtain ⟨target, columns, hread⟩ := compile_get hmethod h
      exact hread.unbroken
  | post =>
      obtain ⟨target, payload, rows, conflict, hinsert⟩ := compile_post hmethod h
      exact unbroken_render hinsert.confined
  | patch =>
      obtain ⟨target, payload, row, hupdate⟩ := compile_patch hmethod h
      exact unbroken_render hupdate.confined
  | delete =>
      obtain ⟨target, hdelete⟩ := compile_delete hmethod h
      exact unbroken_render hdelete.confined

/-- No compiled text holds a mark that ends a statement or opens a comment. -/
theorem compile_unbroken (h : compile settings request context = .ok compiled) :
    ∀ mark ∈ [";", "--", "/*"], ¬mark.toList <:+: compiled.query.text.toList ∧
      ∀ count, compiled.query.countText? = some count → ¬mark.toList <:+: count.toList := by
  intro mark hmark
  refine ⟨Sql.unbroken_iff.mp (unbroken_text h) mark hmark, ?_⟩
  intro count hcount
  obtain ⟨fragments, hfragments, rfl⟩ := Option.map_eq_some_iff.mp hcount
  exact Sql.unbroken_iff.mp (unbroken_render (confined_count h fragments hfragments)) mark hmark

/-- A read of expressions that end or start with one half of a mark. -/
def seamedRead : Request where
  method := .get
  table := "tasks"
  query := [("select", "a.b/, *, a.c-, -a.d -, *.1/")]
  body := none
  headers := { Request.Headers.none with
    prefer := { Request.Prefer.none with countExact := true } }

theorem compile_unbroken_seamedRead :
    ∃ compiled, compile ⟨none, none⟩ seamedRead ⟨⟨[]⟩, "anon", "p", none⟩ = .ok compiled ∧
      compiled.query.text = "SELECT a.b/, *, a.c-, -a.d -, *.1/ FROM \"tasks\"" ∧
      ∀ mark ∈ [";", "--", "/*"], ¬mark.toList <:+: compiled.query.text.toList ∧
        ∀ count, compiled.query.countText? = some count → ¬mark.toList <:+: count.toList := by
  have h : compile ⟨none, none⟩ seamedRead ⟨⟨[]⟩, "anon", "p", none⟩ = .ok _ := rfl
  exact ⟨_, h, by decide +kernel, compile_unbroken h⟩

end Query

end TableGateway
