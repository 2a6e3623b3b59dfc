import TableGateway.Proofs.Query.Filtering
import TableGateway.Proofs.Query.Redaction
import TableGateway.Proofs.Text.Occurrence

/-! # Names are confined to quoted identifiers

A request reaches the text of its statement through names between quotes only, each of them a plain
identifier that the request gives at one of a few places, and through the numbers of its page. -/

namespace TableGateway

open Sql (Fragment)

namespace Query

/-! ## Where names come from -/

/-- A column in the list of a read, or the label that it is given behind a colon. -/
inductive Selected (raw : String) : String → Prop where
  | column {part : String} (h : part ∈ splitTopLevel raw)
      (hcut : Text.cut ':' (Text.trim part) = none) : Selected raw (Text.trim (Text.trim part))
  | labelled {part column label : String} (h : part ∈ splitTopLevel raw)
      (hcut : Text.cut ':' (Text.trim part) = some (column, label)) :
      Selected raw (Text.trim column)
  | label {part column label : String} (h : part ∈ splitTopLevel raw)
      (hcut : Text.cut ':' (Text.trim part) = some (column, label)) :
      Selected raw (Text.trim label)

/-- A column to sort by, which its modifiers follow behind points. -/
def Ordered (raw name : String) : Prop :=
  ∃ term ∈ (Text.pieces ',' raw).map Text.trim, (Text.pieces '.' term).head? = some name

/-- The places of a request that give a name to its statement. -/
inductive Origin (settings : Settings) (request : Request) (context : Governance.Context) :
    String → Prop where
  | table : Origin settings request context request.table
  | schema {name : String} (h : request.profile?.or settings.defaultSchema = some name) :
      Origin settings request context name
  | selected {name : String} (hmethod : request.method = .get)
      (h : Selected ((request.parameter? "select").getD "") name) :
      Origin settings request context name
  | ordered {name : String} (hmethod : request.method = .get)
      (h : Ordered ((request.parameter? "order").getD "") name) :
      Origin settings request context name
  | filtered {p : String × String} (hmethod : request.method ≠ .post) (h : p ∈ request.effective) :
      Origin settings request context p.1
  | written {operation : WriteOperation} {body : Json} {payload : Payload} {row : Row}
      {name : String} (hoperation : request.method.operation? = some operation)
      (hbody : request.body = some body) (hpayload : Payload.ofJson body = .ok payload)
      (hrow : row ∈ payload.rows) (hname : name ∈ row.names)
      (hlocks : context.strips operation name = false)
      (hcolumns : request.method = .post → Admits request name) :
      Origin settings request context name
  | conflict {raw name : String} (hmethod : request.method = .post)
      (hraw : request.parameter? "on_conflict" = some raw)
      (h : name ∈ (Text.pieces ',' raw).map Text.trim) : Origin settings request context name
  | byDefault (hmethod : request.method = .post) (h : request.parameter? "on_conflict" = none) :
      Origin settings request context "id"

/-- A number of the page that a read asks for. -/
def Paged (settings : Settings) (request : Request) (n : Nat) : Prop :=
  request.method = .get ∧
    ((requestedPage settings request).limit = some n ∨ (requestedPage settings request).offset = n)

/-- The names and the numbers among fragments come from the request. -/
def Traced (settings : Settings) (request : Request) (context : Governance.Context) :
    Fragment → Prop
  | .fixed _ => True
  | .name name => Origin settings request context name
  | .placeholder _ => True
  | .number n => Paged settings request n
  | .expression _ => False

variable {settings : Settings} {request : Request} {context : Governance.Context}

theorem worded_traced : Worded (Traced settings request context) where
  word _ _ := trivial
  placeholder _ := trivial

/-! ## Lists of columns -/

/-- No entry of the list of a read holds a mark of an expression. -/
def SelectsNames (request : Request) : Prop :=
  request.method = .get →
    ∀ entry ∈ splitTopLevel ((request.parameter? "select").getD ""),
      ∀ mark ∈ ["(", "->", "::", "."], ¬mark.toList <:+: entry.toList

theorem SelectsNames.isExpression_eq_false (h : SelectsNames request)
    (hmethod : request.method = .get) {part : String}
    (hpart : part ∈ splitTopLevel ((request.parameter? "select").getD "")) :
    isExpression (Text.trim part) = false := by
  rw [isExpression, List.any_eq_false]
  intro mark hmark hoccurs
  have hinfix := (Text.occursIn_iff.mp hoccurs).trans (Text.trim_infix part)
  exact h hmethod part hpart mark hmark hinfix

theorem traced_columns {columns : List Fragment} (hselects : SelectsNames request)
    (hmethod : request.method = .get) (h : selectList (request.parameter? "select") = .ok columns) :
    ∀ f ∈ columns, Confined f ∧ Traced settings request context f ∧ f.index? = none := by
  have hfixed : ∀ {text}, text ∈ vocabulary → Confined (.fixed text) ∧
      Traced settings request context (.fixed text) ∧ (Fragment.fixed text).index? = none :=
    fun htext => ⟨htext, trivial, rfl⟩
  have hname : ∀ {name}, Sql.Identifier.isValid name = true →
      Selected ((request.parameter? "select").getD "") name → Confined (.name name) ∧
        Traced settings request context (.name name) ∧ (Fragment.name name).index? = none :=
    fun hvalid hselected => ⟨hvalid, .selected hmethod hselected, rfl⟩
  obtain ⟨items, rfl | rfl, hitems⟩ := selectList_items h
  · intro f hf
    rw [List.mem_singleton.mp hf]
    exact hfixed (by decide)
  · refine Fragment.forall_mem_intercalate (hfixed (by decide)) fun item hitem => ?_
    obtain ⟨part, hpart, hselect⟩ := hitems item hitem
    cases (selectEntry_shape hselect).2 with
    | star => simpa using hfixed (by decide)
    | expression hexpression =>
        rw [hselects.isExpression_eq_false hmethod hpart] at hexpression
        cases hexpression
    | column hcut hcolumn => simpa using hname hcolumn (.column hpart hcut)
    | labelled hcut hcolumn hlabel =>
        have has := hfixed (show " AS " ∈ vocabulary by decide)
        simpa using ⟨hname hcolumn (.labelled hpart hcut), has, hname hlabel (.label hpart hcut)⟩

/-! ## Other parts -/

theorem traced_target {fragments : List Fragment} (h : target settings request = .ok fragments) :
    ∀ f ∈ fragments, Traced settings request context f :=
  worded_traced.target h (fun _ => .table) fun _ hschema _ => .schema hschema

theorem traced_where (hmethod : request.method ≠ .post) (n : Nat) :
    ∀ f ∈ whereFragments (conditions n request.filters), Traced settings request context f := by
  apply worded_traced.clauses
  intro p hp f m c hparse hcondition
  have hsome : condition? m p = some c := by
    rw [condition?, hparse]
    exact hcondition
  refine .filtered hmethod ?_
  rw [← request.filter_filters, List.mem_filter, isSome_condition? p 1 m, hsome]
  exact ⟨hp, rfl⟩

theorem traced_readTail (hmethod : request.method = .get) :
    ∀ f ∈ readTail settings request, Traced settings request context f := by
  intro f hf
  simp only [readTail, List.mem_append] at hf
  rcases hf with (hf | hf) | hf
  · exact traced_where (by simp [hmethod]) 1 f hf
  · refine worded_traced.order (fun term hterm t hparse => ?_) f hf
    exact .ordered hmethod ⟨term, hterm, (OrderTerm.parse?_column hparse).1⟩
  · exact worded_traced.page (fun n hn => ⟨hmethod, .inl hn⟩) ⟨hmethod, .inr rfl⟩ f hf

theorem origin_of_conflictTarget (hmethod : request.method = .post) {key : List String}
    (h : conflictTarget request = .ok key) :
    ∀ name ∈ key, Origin settings request context name := by
  intro name hname
  have hvalid := isValid_of_mem_conflictTarget h name hname
  unfold conflictTarget at h
  split at h
  case h_1 hnone =>
    cases h
    rw [List.mem_singleton.mp hname]
    exact .byDefault hmethod hnone
  case h_2 raw hraw =>
    have hne := Sql.Identifier.toList_ne_nil_of_isValid hvalid
    exact .conflict hmethod hraw ((mem_identifierList h hne).mp hname)

/-! ## Statements -/

variable {target columns conflict : List Fragment} {payload : Payload} {rows : List Row}
  {attempted row : Row} {compiled : Compiled}

/-- All that a text can be made of: fragments that let in plain identifiers only, names and numbers
of the request, and the placeholders of the parameters. -/
structure Composed (settings : Settings) (request : Request) (context : Governance.Context)
    (count : Nat) (fragments : List Fragment) : Prop where
  confined : ∀ f ∈ fragments, Confined f
  traced : ∀ f ∈ fragments, Traced settings request context f
  indices : Fragment.indices fragments = List.range' 1 count

theorem ReadSpec.composed (hselects : SelectsNames request) (hmethod : request.method = .get)
    (h : ReadSpec settings request target columns compiled) :
    Composed settings request context compiled.query.parameters.length
      compiled.query.statement := by
  have hcolumns : ∀ f ∈ columns,
      Confined f ∧ Traced settings request context f ∧ f.index? = none :=
    traced_columns hselects hmethod h.columns_eq
  constructor
  · exact h.worded worded_confined (fun f hf => (hcolumns f hf).1) (confined_target h.target_eq)
      confined_readTail
  · exact h.worded worded_traced (fun f hf => (hcolumns f hf).2.1) (traced_target h.target_eq)
      (traced_readTail hmethod)
  · have hnone : Fragment.indices columns = [] :=
      List.filterMap_eq_nil_iff.mpr fun f hf => (hcolumns f hf).2.2
    rw [h.statement_eq_tail]
    simp [hnone, indices_target h.target_eq, h.indices_tail]

theorem InsertSpec.composed (hmethod : request.method = .post)
    (h : InsertSpec settings request context target payload rows conflict compiled) :
    Composed settings request context compiled.query.parameters.length
      compiled.query.statement := by
  have hcolumns : ∀ column ∈ columnUnion rows, Origin settings request context column := by
    intro column hcolumn
    obtain ⟨body, hbody, hpayload⟩ := h.payload_eq
    obtain ⟨⟨row, hrow, hname⟩, hlocks, hadmits⟩ := h.mem_columns.mp hcolumn
    have hoperation : request.method.operation? = some .insert := by rw [hmethod]; rfl
    exact .written hoperation hbody hpayload hrow hname hlocks fun _ => hadmits
  have htraced := h.worded worded_traced (traced_target h.target_eq) hcolumns
    fun _ hkey => origin_of_conflictTarget hmethod hkey
  exact ⟨h.confined, htraced, h.indices_statement⟩

theorem UpdateSpec.composed (hmethod : request.method = .patch)
    (h : UpdateSpec settings request context target attempted row compiled) :
    Composed settings request context compiled.query.parameters.length
      compiled.query.statement := by
  have hcolumns : ∀ column ∈ row.names, Origin settings request context column := by
    intro column hcolumn
    obtain ⟨body, hbody, hpayload⟩ := h.exists_body
    obtain ⟨hname, hlocks⟩ := h.mem_columns.mp hcolumn
    have hoperation : request.method.operation? = some .update := by rw [hmethod]; rfl
    have hmem : attempted ∈ (Payload.single attempted).rows := by simp [Payload.rows]
    exact .written hoperation hbody hpayload hmem hname hlocks (by simp [hmethod])
  have htraced := h.worded worded_traced (traced_target h.target_eq) hcolumns
    (traced_where (by simp [hmethod]) _)
  exact ⟨h.confined, htraced, h.indices_statement⟩

theorem DeleteSpec.composed (hmethod : request.method = .delete)
    (h : DeleteSpec settings request target compiled) :
    Composed settings request context compiled.query.parameters.length
      compiled.query.statement := by
  have htarget : ∀ f ∈ target, Traced settings request context f := traced_target h.target_eq
  have htraced := h.worded worded_traced htarget (traced_where (by simp [hmethod]) 1)
  exact ⟨h.confined, htraced, h.indices_statement⟩

theorem composed_statement (h : compile settings request context = .ok compiled)
    (hselects : SelectsNames request) :
    Composed settings request context compiled.query.parameters.length
      compiled.query.statement := by
  cases hmethod : request.method with
  | get =>
      obtain ⟨target, columns, hread⟩ := compile_get hmethod h
      exact hread.composed hselects hmethod
  | post =>
      obtain ⟨target, payload, rows, conflict, hinsert⟩ := compile_post hmethod h
      exact hinsert.composed hmethod
  | patch =>
      obtain ⟨target, attempted, row, hupdate⟩ := compile_patch hmethod h
      exact hupdate.composed hmethod
  | delete =>
      obtain ⟨target, hdelete⟩ := compile_delete hmethod h
      exact hdelete.composed hmethod

theorem composed_count (h : compile settings request context = .ok compiled) :
    ∀ count ∈ compiled.query.count,
      Composed settings request context compiled.query.parameters.length count := by
  intro count hcount
  obtain ⟨hmethod, target, columns, hread⟩ := compile_count h hcount
  have htarget : ∀ f ∈ target, Traced settings request context f := traced_target hread.target_eq
  have htraced := hread.worded_count worded_traced htarget (traced_where (by simp [hmethod]) 1)
  exact ⟨hread.confined_count count hcount, htraced count hcount,
    hread.indices_count count hcount⟩

/-! ## Texts -/

/-- One to sixty-three characters, all of them letters of `A` to `Z` and `a` to `z`, digits and
underscores. -/
structure Plain (name : String) : Prop where
  nonempty : 1 ≤ name.length
  bounded : name.length ≤ 63
  chars : ∀ c ∈ name.toList, c.isAlpha = true ∨ c.isDigit = true ∨ c = '_'

theorem plain_of_isValid {name : String} (h : Sql.Identifier.isValid name = true) : Plain name := by
  have hchars := Sql.Identifier.isNameChar_of_isValid h
  have hne := List.length_pos_of_ne_nil (Sql.Identifier.toList_ne_nil_of_isValid h)
  simp only [Sql.Identifier.isValid, Bool.and_eq_true, decide_eq_true_eq] at h
  rw [String.length_toList] at hne
  have hbound : name.length ≤ 63 := by
    rw [← String.length_toList]
    exact h.1.2
  refine ⟨hne, hbound, fun c hc => ?_⟩
  have hc := hchars c hc
  simp only [Sql.Identifier.isNameChar, Char.isAlphanum, Bool.or_eq_true, beq_iff_eq] at hc
  exact or_assoc.mp hc

/-- What the text of a statement with so many parameters is made of. -/
inductive Piece (settings : Settings) (request : Request) (context : Governance.Context)
    (count : Nat) : String → Prop where
  | word {text : String} (h : text ∈ vocabulary) : Piece settings request context count text
  | number {n : Nat} (h : Paged settings request n) :
      Piece settings request context count (Numeral.text n)
  | placeholder {n : Nat} (hpos : 1 ≤ n) (hle : n ≤ count) :
      Piece settings request context count ("$" ++ Numeral.text n)
  | name {name : String} (hplain : Plain name) (h : Origin settings request context name) :
      Piece settings request context count ("\"" ++ name ++ "\"")

theorem Composed.pieces {count : Nat} {fragments : List Fragment}
    (h : Composed settings request context count fragments) :
    ∃ pieces, Sql.render fragments = String.join pieces ∧
      ∀ piece ∈ pieces, Piece settings request context count piece := by
  refine ⟨fragments.map fun f => String.ofList f.chars, ?_, fun piece hpiece => ?_⟩
  · rw [← String.toList_inj, Sql.toList_render, String.toList_join, List.flatMap_map]
    simp
  · obtain ⟨f, hf, rfl⟩ := List.mem_map.mp hpiece
    have hconfined := h.confined f hf
    have htraced := h.traced f hf
    cases f with
    | fixed text =>
        rw [Fragment.chars, String.ofList_toList]
        exact .word hconfined
    | name name =>
        have hquoted : String.ofList (Fragment.name name).chars = "\"" ++ name ++ "\"" :=
          Sql.Identifier.quoted_of_isValid hconfined
        rw [hquoted]
        exact .name (plain_of_isValid hconfined) htraced
    | placeholder n =>
        have hmem : n ∈ Fragment.indices fragments := List.mem_filterMap.mpr ⟨_, hf, rfl⟩
        rw [h.indices, List.mem_range'_1] at hmem
        have htext : String.ofList (Fragment.placeholder n).chars = "$" ++ Numeral.text n := by
          simp [Fragment.chars, Numeral.text]
        rw [htext]
        exact .placeholder hmem.1 (by omega)
    | number n => exact .number htraced
    | expression => exact htraced.elim

/-- The texts of a request without expressions are made of fixed words, numbers of its page,
placeholders, and plain names of the request between quotes. -/
theorem compile_namesConfined (h : compile settings request context = .ok compiled)
    (hselects : SelectsNames request) :
    ∀ text, (text = compiled.query.text ∨ compiled.query.countText? = some text) →
      ∃ pieces, text = String.join pieces ∧ ∀ piece ∈ pieces,
        Piece settings request context compiled.query.parameters.length piece := by
  rintro text (rfl | htext)
  · exact (composed_statement h hselects).pieces
  · obtain ⟨count, hcount, rfl⟩ := Option.map_eq_some_iff.mp htext
    exact (composed_count h count hcount).pieces

/-- A read with a name at every place that a read has for one. -/
def namedRead : Request where
  method := .get
  table := "tasks"
  query := [("select", "id, heading : title"), ("owner", "eq.7\"; --"), ("order", "rank.desc"),
    ("limit", "10"), ("bad\"key", "eq.1")]
  body := none
  headers := { Request.Headers.none with
    acceptProfile := some "api"
    prefer := { Request.Prefer.none with countExact := true } }

theorem compile_namesConfined_namedRead :
    SelectsNames namedRead ∧ ∃ compiled,
      compile ⟨none, none⟩ namedRead ⟨⟨[]⟩, "anon", "p", none⟩ = .ok compiled ∧
      compiled.query.text = "SELECT \"id\", \"heading\" AS \"title\" FROM \"api\".\"tasks\""
        ++ " WHERE \"owner\" = $1 ORDER BY \"rank\" DESC LIMIT 10" ∧
      ∃ pieces, compiled.query.text = String.join pieces ∧ ∀ piece ∈ pieces,
        Piece ⟨none, none⟩ namedRead ⟨⟨[]⟩, "anon", "p", none⟩ 1 piece := by
  have hselects : SelectsNames namedRead := fun _ => by decide +kernel
  have h : compile ⟨none, none⟩ namedRead ⟨⟨[]⟩, "anon", "p", none⟩ = .ok _ := rfl
  exact ⟨hselects, _, h, by decide +kernel, compile_namesConfined h hselects _ (.inl rfl)⟩

end Query

end TableGateway
