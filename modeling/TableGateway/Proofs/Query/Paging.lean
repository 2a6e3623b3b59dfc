import TableGateway.Proofs.Query.Compilation
import TableGateway.Proofs.Request.Page

/-! # The page of a read

What a read asks for is said in up to three places, and a deployment may bound it. The end of the
statement and the page that is answered with it say the same. -/

namespace TableGateway.Query

open Sql (Fragment)
open Request (IsCount Page RangeHeader)

variable {settings : Settings} {request : Request} {context : Governance.Context}
  {compiled : Compiled}

/-! ## What is asked for -/

/-- The parameter is there and is a count. -/
def CountParameter (request : Request) (key : String) (n : Nat) : Prop :=
  ∃ raw, request.parameter? key = some raw ∧ IsCount raw n

/-- The range header is there and says a page. -/
def Ranged (request : Request) (page : Page) : Prop :=
  ∃ header, request.headers.range = some header ∧ RangeHeader header page

/-- The parameter says what is asked for. The header says it where the parameter is no count, and
where the header says no page it goes without saying. -/
inductive Asked {α : Type} (request : Request) (key : String) (ofCount : Nat → α)
    (ofPage : Page → α) (unsaid : α) : α → Prop where
  | parameter {n : Nat} (h : CountParameter request key n) :
      Asked request key ofCount ofPage unsaid (ofCount n)
  | header {page : Page} (hcount : ∀ n, ¬ CountParameter request key n)
      (h : Ranged request page) : Asked request key ofCount ofPage unsaid (ofPage page)
  | unsaid (hcount : ∀ n, ¬ CountParameter request key n)
      (hranged : ∀ page, ¬ Ranged request page) :
      Asked request key ofCount ofPage unsaid unsaid

/-- The limit that is asked for, if there is one. -/
def AskedLimit (request : Request) : Option Nat → Prop :=
  Asked request "limit" some Page.limit none

/-- The offset that is asked for. -/
def AskedOffset (request : Request) : Nat → Prop :=
  Asked request "offset" id Page.offset 0

theorem countParameter_iff {key : String} {n : Nat} :
    CountParameter request key n ↔ (request.parameter? key).bind Page.count? = some n := by
  simp only [CountParameter, Option.bind_eq_some_iff, Request.count?_eq_some_iff]

theorem ranged_iff {page : Page} :
    Ranged request page ↔ request.headers.range.bind Page.ofRange? = some page := by
  simp only [Ranged, Option.bind_eq_some_iff, Request.ofRange?_eq_some_iff]

/-- What is asked for is found, and is one thing only. -/
theorem asked_iff {α : Type} {key : String} {ofCount : Nat → α} {ofPage : Page → α} {unsaid a : α} :
    Asked request key ofCount ofPage unsaid a ↔
      a = ((request.parameter? key).bind Page.count?).elim
        ((request.headers.range.bind Page.ofRange?).elim unsaid ofPage) ofCount := by
  constructor
  · rintro (h | ⟨hcount, h⟩ | ⟨hcount, hranged⟩)
    · rw [countParameter_iff.mp h, Option.elim_some]
    · simp only [countParameter_iff, ← Option.eq_none_iff_forall_ne_some] at hcount
      rw [hcount, ranged_iff.mp h, Option.elim_none, Option.elim_some]
    · simp only [countParameter_iff, ← Option.eq_none_iff_forall_ne_some] at hcount
      simp only [ranged_iff, ← Option.eq_none_iff_forall_ne_some] at hranged
      rw [hcount, hranged, Option.elim_none, Option.elim_none]
  · rintro rfl
    cases hcount : (request.parameter? key).bind Page.count? with
    | some n => exact .parameter (countParameter_iff.mpr hcount)
    | none =>
        have hnone : ∀ n, ¬ CountParameter request key n := by
          simp [countParameter_iff, hcount]
        cases hranged : request.headers.range.bind Page.ofRange? with
        | some page => exact .header hnone (ranged_iff.mpr hranged)
        | none => exact .unsaid hnone (by simp [ranged_iff, hranged])

/-! ## What is given -/

/-- The limit is the one that is asked for, unless there is a greatest number of rows. It does not
exceed that number then, and falls short of it only where less is asked for. -/
structure Capped (greatest : Option Nat) (asked limit : Option Nat) : Prop where
  free : greatest = none → limit = asked
  present : ∀ m, greatest = some m → ∃ n ≤ m, limit = some n
  least : ∀ m n, greatest = some m → asked = some n → limit = some (min n m)
  full : ∀ m, greatest = some m → asked = none → limit = some m

theorem capped_elim (greatest asked : Option Nat) :
    Capped greatest asked (greatest.elim asked fun m => some (asked.elim m (min · m))) where
  free := by
    rintro rfl
    rfl
  present := by
    rintro m rfl
    cases asked with
    | none => exact ⟨m, Nat.le_refl m, rfl⟩
    | some n => exact ⟨min n m, Nat.min_le_right n m, rfl⟩
  least := by
    rintro m n rfl rfl
    rfl
  full := by
    rintro m rfl rfl
    rfl

theorem askedOffset_requestedPage (settings : Settings) (request : Request) :
    AskedOffset request (requestedPage settings request).offset := by
  rw [AskedOffset, asked_iff, requestedPage, Page.resolve_offset]
  cases (request.parameter? "offset").bind Page.count? <;>
    cases request.headers.range.bind Page.ofRange? <;> rfl

theorem capped_requestedPage (settings : Settings) (request : Request) :
    ∃ asked, AskedLimit request asked ∧
      Capped settings.maxRows asked (requestedPage settings request).limit := by
  have hasked : ((request.parameter? "limit").bind Page.count?).or
      ((request.headers.range.bind Page.ofRange?).getD Page.whole).limit =
      ((request.parameter? "limit").bind Page.count?).elim
        ((request.headers.range.bind Page.ofRange?).elim none Page.limit) some := by
    cases (request.parameter? "limit").bind Page.count? <;>
      cases request.headers.range.bind Page.ofRange? <;> rfl
  refine ⟨_, asked_iff.mpr rfl, ?_⟩
  rw [← hasked, requestedPage, Page.resolve_limit]
  exact capped_elim _ _

/-- No offset is greater than a word. -/
theorem AskedOffset.lt {offset : Nat} (h : AskedOffset request offset) :
    offset < twoTo Request.countBits := by
  cases h with
  | parameter h =>
      obtain ⟨raw, -, hcount⟩ := h
      exact hcount.lt
  | header _ h =>
      obtain ⟨header, -, hpage⟩ := h
      exact hpage.fits.offset_lt
  | unsaid => decide

/-! ## Statement and page -/

/-- A read without its page. -/
def unpaged (request : Request) (target columns : List Fragment) : List Fragment :=
  .fixed "SELECT " :: columns ++ .fixed " FROM " ::
    (target ++ whereFragments (conditions 1 request.filters))
    ++ orderFragments (request.parameter? "order")

/-- The page that a read is answered with is the one that its statement ends with, and the one that
was asked for, as far as the deployment allows. -/
structure ReadsPage (settings : Settings) (request : Request) (compiled : Compiled) (page : Page) :
    Prop where
  announced : compiled.page = some page
  ending : ∃ target columns, Query.target settings request = .ok target ∧
    selectList (request.parameter? "select") = .ok columns ∧
    compiled.query.text =
      Sql.render (unpaged request target columns) ++ Sql.render page.fragments
  read_back : Page.ofEnd? (Sql.render page.fragments) = some page
  limit : ∃ asked, AskedLimit request asked ∧ Capped settings.maxRows asked page.limit
  offset : AskedOffset request page.offset

theorem ReadSpec.text_eq {target columns : List Fragment}
    (h : ReadSpec settings request target columns compiled) :
    compiled.query.text = Sql.render (unpaged request target columns)
      ++ Sql.render (requestedPage settings request).fragments := by
  rw [Query.text, h.statement_eq, ← Sql.render_append]
  rfl

theorem ReadSpec.readsPage {target columns : List Fragment}
    (h : ReadSpec settings request target columns compiled) :
    ReadsPage settings request compiled (requestedPage settings request) where
  announced := h.page_eq
  ending := ⟨target, columns, h.target_eq, h.columns_eq, h.text_eq⟩
  read_back := Page.ofEnd?_render _
  limit := capped_requestedPage settings request
  offset := askedOffset_requestedPage settings request

/-- A read that compiles says its page at its end, announces it, and takes it from what was asked
for. -/
theorem compile_readsPage (hget : request.method = .get)
    (h : compile settings request context = .ok compiled) :
    ∃ page, ReadsPage settings request compiled page := by
  obtain ⟨target, columns, hread⟩ := compile_get hget h
  exact ⟨_, hread.readsPage⟩

/-- A read whose limit is a count, whose offset is none, and whose range header says both. -/
def pagedRead : Request where
  method := .get
  table := "tasks"
  query := [("limit", " +70 "), ("offset", "1O"), ("done", "is.false")]
  body := none
  headers := { Request.Headers.none with range := some "items=20-29" }

theorem compile_readsPage_pagedRead :
    ∃ compiled, compile ⟨none, some 50⟩ pagedRead ⟨⟨[]⟩, "anon", "p", none⟩ = .ok compiled ∧
      compiled.query.text =
        "SELECT * FROM \"tasks\" WHERE \"done\" IS FALSE LIMIT 50 OFFSET 20" ∧
      ∃ page, ReadsPage ⟨none, some 50⟩ pagedRead compiled page := by
  have h : compile ⟨none, some 50⟩ pagedRead ⟨⟨[]⟩, "anon", "p", none⟩ = .ok _ := rfl
  exact ⟨_, h, by decide +kernel, compile_readsPage rfl h⟩

end TableGateway.Query
