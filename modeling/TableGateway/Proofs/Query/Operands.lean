import TableGateway.Proofs.Query.Filtering
import TableGateway.Proofs.Text.Cut
import TableGateway.Session.Execution

/-! # Operands arrive unchanged

Whatever text stands behind the first point of a filter reaches the database as it is, and so does a
text of a body. Only patterns are changed, and of these only the stars. -/

namespace TableGateway

/-! ## Types of texts -/

namespace Parameter

/-- The names of the types whose values are texts. -/
def textNames : List String :=
  ["TEXT", "VARCHAR", "BPCHAR", "CHAR", "NAME", "UNKNOWN"]

theorem SqlType.ofName_eq_text {name : String} (h : Text.upper name ∈ textNames) :
    SqlType.ofName name = ⟨some .text, false⟩ := by
  rw [ofName]
  generalize Text.upper name = upper at h
  revert upper
  decide +kernel

/-- A value becomes the text in a parameter of the type, and can be sent as that. -/
structure Arrives (type : String) (value : Sql.Value) (s : String) : Prop where
  convert_eq : convert (.ofName type) value = .ok (.ofText s)
  argument?_eq : Session.argument? type value = some (.ofText s)

theorem arrives_text {type : String} (h : Text.upper type ∈ textNames) (s : String) :
    Arrives type (.text s) s := by
  have hconvert : convert (.ofName type) (.text s) = .ok (.ofText s) := by
    rw [SqlType.ofName_eq_text h]
    rfl
  refine ⟨hconvert, ?_⟩
  rw [Session.argument?, hconvert]
  rfl

end Parameter

namespace Query

open Parameter (Arrives arrives_text textNames)

variable {column raw front back v : String} {op : Operator} {f : Filter}

/-! ## Operators in front -/

theorem Operator.point_not_mem_text (op : Operator) : '.' ∉ op.text.toList := by
  cases op <;> decide

theorem Operator.ofText?_eq_some_iff {s : String} : Operator.ofText? s = some op ↔ s = op.text := by
  constructor
  · intro h
    unfold ofText? at h
    have hname := List.find?_some h
    exact (of_decide_eq_true hname).symm
  · rintro rfl
    cases op <;> decide

/-- No operator stands in front of the first point, or there is no point. -/
inductive IsPlain (raw : String) : Prop where
  | noPoint (h : '.' ∉ raw.toList)
  | noOperator {front back : String} (hraw : raw = front ++ "." ++ back)
      (hfirst : '.' ∉ front.toList) (hfront : ∀ op : Operator, front ≠ op.text)

/-- What a parameter of a query says of its column: a comparison by the operator in front with all
that follows the point, and without an operator equality to the whole. -/
inductive Reading (column raw : String) : Filter → Prop where
  | named {op : Operator} {v : String} (hraw : raw = op.text ++ "." ++ v) :
      Reading column raw ⟨column, op, v⟩
  | plain (h : IsPlain raw) : Reading column raw ⟨column, .eq, raw⟩

theorem cut_point (hfirst : '.' ∉ front.toList) :
    Text.cut '.' (front ++ "." ++ back) = some (front, back) :=
  Text.cut_eq_some_iff.mpr ⟨by simp, hfirst⟩

theorem splitOperand_named (op : Operator) (v : String) :
    splitOperand (op.text ++ "." ++ v) = (op, v) := by
  have hop : Operator.ofText? op.text = some op := Operator.ofText?_eq_some_iff.mpr rfl
  rw [splitOperand, cut_point op.point_not_mem_text]
  simp only [hop]

theorem splitOperand_plain (h : IsPlain raw) : splitOperand raw = (.eq, raw) := by
  cases h with
  | noPoint h => rw [splitOperand, Text.cut_eq_none_iff.mpr h]
  | @noOperator front back hraw hfirst hfront =>
      have hnone : Operator.ofText? front = none :=
        Option.eq_none_iff_forall_ne_some.mpr fun op hop =>
          hfront op (Operator.ofText?_eq_some_iff.mp hop)
      rw [splitOperand, hraw, cut_point hfirst]
      simp only [hnone]

/-- Every text has an operator in front or is plain. -/
theorem named_or_isPlain (raw : String) :
    (∃ (op : Operator) (v : String), raw = op.text ++ "." ++ v) ∨ IsPlain raw := by
  cases hcut : Text.cut '.' raw with
  | none => exact .inr (.noPoint (Text.cut_eq_none_iff.mp hcut))
  | some parts =>
      obtain ⟨front, back⟩ := parts
      obtain ⟨hsplit, hfirst⟩ := Text.cut_eq_some_iff.mp hcut
      have hraw : raw = front ++ "." ++ back := by
        rw [← String.toList_inj, hsplit]
        simp
      by_cases hop : ∃ op : Operator, front = op.text
      · obtain ⟨op, rfl⟩ := hop
        exact .inl ⟨op, back, hraw⟩
      · exact .inr (.noOperator hraw hfirst fun op hfront => hop ⟨op, hfront⟩)

theorem parse?_eq (hcolumn : Sql.Identifier.isValid column = true) (raw : String) :
    Filter.parse? column raw = some ⟨column, (splitOperand raw).1, (splitOperand raw).2⟩ := by
  rw [Filter.parse?, if_pos hcolumn]

theorem parse?_named (hcolumn : Sql.Identifier.isValid column = true) (op : Operator) (v : String) :
    Filter.parse? column (op.text ++ "." ++ v) = some ⟨column, op, v⟩ := by
  rw [parse?_eq hcolumn, splitOperand_named]

theorem parse?_plain (hcolumn : Sql.Identifier.isValid column = true) (h : IsPlain raw) :
    Filter.parse? column raw = some ⟨column, .eq, raw⟩ := by
  rw [parse?_eq hcolumn, splitOperand_plain h]

theorem parse?_eq_some_iff (hcolumn : Sql.Identifier.isValid column = true) :
    Filter.parse? column raw = some f ↔ Reading column raw f := by
  constructor
  · intro h
    rcases named_or_isPlain raw with ⟨op, v, hraw⟩ | hplain
    · rw [hraw, parse?_named hcolumn] at h
      cases h
      exact .named hraw
    · rw [parse?_plain hcolumn hplain] at h
      cases h
      exact .plain hplain
  · rintro (⟨rfl⟩ | ⟨hplain⟩)
    · exact parse?_named hcolumn _ _
    · exact parse?_plain hcolumn hplain

/-! ## Operands in conditions -/

/-- The operators that compare with their operand as it is, and the symbols they are written by. -/
def comparisons : List (Operator × String) :=
  [(.eq, "="), (.neq, "!="), (.gt, ">"), (.gte, ">="), (.lt, "<"), (.lte, "<="), (.cs, "@>"),
    (.cd, "<@")]

/-- The operators whose operand is a pattern, and the symbols they are written by. -/
def patterns : List (Operator × String) :=
  [(.like, "LIKE"), (.ilike, "ILIKE")]

/-- The second text is the first one with a percent sign in the place of each star. -/
def Starred (v w : String) : Prop :=
  List.Forall₂ (fun c d => if c = '*' then d = '%' else d = c) v.toList w.toList

theorem starred_substitute (v : String) : Starred v (Text.substitute '*' '%' v) := by
  rw [Starred, Text.substitute, String.toList_ofList, List.forall₂_map_right_iff,
    List.forall₂_same]
  intro c _
  split <;> rfl

/-- A parameter of a query is a comparison, whose value arrives as the text. -/
def Sent (column raw symbol type s : String) : Prop :=
  ∀ n, ∃ value, condition? n (column, raw) = some (comparison column symbol n value) ∧
    Arrives type value s

theorem sent_of_parse? {symbol type s : String} (h : Filter.parse? column raw = some f)
    (hcondition : ∀ n, f.condition? n = some (comparison column symbol n (.text s)))
    (htype : Text.upper type ∈ textNames) : Sent column raw symbol type s := by
  intro n
  refine ⟨.text s, ?_, arrives_text htype s⟩
  rw [condition?, h, Option.bind_some, hcondition]

theorem sent_comparison {symbol type : String} (hcolumn : Sql.Identifier.isValid column = true)
    (htype : Text.upper type ∈ textNames) (hop : (op, symbol) ∈ comparisons) (v : String) :
    Sent column (op.text ++ "." ++ v) symbol type v := by
  refine sent_of_parse? (parse?_named hcolumn op v) (fun n => ?_) htype
  simp only [comparisons, List.mem_cons, List.not_mem_nil, or_false, Prod.mk.injEq] at hop
  rcases hop with ⟨rfl, rfl⟩ | ⟨rfl, rfl⟩ | ⟨rfl, rfl⟩ | ⟨rfl, rfl⟩ | ⟨rfl, rfl⟩ | ⟨rfl, rfl⟩ |
    ⟨rfl, rfl⟩ | ⟨rfl, rfl⟩ <;> rfl

theorem sent_plain {type : String} (hcolumn : Sql.Identifier.isValid column = true)
    (htype : Text.upper type ∈ textNames) (h : IsPlain raw) : Sent column raw "=" type raw :=
  sent_of_parse? (parse?_plain hcolumn h) (fun _ => rfl) htype

theorem sent_pattern {symbol type : String} (hcolumn : Sql.Identifier.isValid column = true)
    (htype : Text.upper type ∈ textNames) (hop : (op, symbol) ∈ patterns) (v : String) :
    Sent column (op.text ++ "." ++ v) symbol type (Text.substitute '*' '%' v) := by
  refine sent_of_parse? (parse?_named hcolumn op v) (fun n => ?_) htype
  simp only [patterns, List.mem_cons, List.not_mem_nil, or_false, Prod.mk.injEq] at hop
  rcases hop with ⟨rfl, rfl⟩ | ⟨rfl, rfl⟩ <;> rfl

/-! ## Texts of statements -/

variable {settings : Settings} {request : Request} {context : Governance.Context}
  {compiled : Compiled}

/-- What a filter binds is among the parameters of the statement. -/
theorem mem_parameters_of_mem_filters (h : compile settings request context = .ok compiled)
    (hmethod : request.method ≠ .post) {p : String × String} (hmem : p ∈ request.filters)
    {value : Sql.Value} (hvalue : boundValue? p = some value) :
    value ∈ compiled.query.parameters := by
  have hbound : ∀ n, value ∈ conditionValues (conditions n request.filters) := by
    intro n
    rw [conditionValues_conditions]
    exact List.mem_filterMap.mpr ⟨p, hmem, hvalue⟩
  cases hm : request.method with
  | get =>
      obtain ⟨target, columns, hread⟩ := compile_get hm h
      rw [hread.parameters_eq]
      exact hbound 1
  | post => exact absurd hm hmethod
  | patch =>
      obtain ⟨target, attempted, row, hupdate⟩ := compile_patch hm h
      rw [hupdate.parameters_eq]
      exact List.mem_append_right _ (hbound _)
  | delete =>
      obtain ⟨target, hdelete⟩ := compile_delete hm h
      rw [hdelete.parameters_eq]
      exact hbound 1

theorem ofJson_single {value : Json} (hcolumn : Sql.Identifier.isValid column = true) :
    Payload.ofJson (.object [(column, value)]) = .ok (.single ⟨[(column, .ofJson value)]⟩) := by
  simp only [Payload.ofJson, Payload.rowOfMembers, List.all_cons, hcolumn]
  rfl

/-- A row of one column is kept as it is, or nothing is left of it. -/
theorem retain_single (column : String) (value : Sql.Value) (keep : String → Bool) :
    (Row.mk [(column, value)]).retain (fun c _ => keep c) = ⟨[(column, value)]⟩ ∨
      (Row.mk [(column, value)]).retain (fun c _ => keep c) = ⟨[]⟩ := by
  cases hkeep : keep column <;> simp [Row.retain, hkeep]

/-- The value of a body with one column is the first parameter of the statement that writes it. -/
theorem head?_parameters_of_body (hcolumn : Sql.Identifier.isValid column = true)
    (h : compile settings request context = .ok compiled)
    (hmethod : request.method = .post ∨ request.method = .patch) {value : Json}
    (hbody : request.body = some (.object [(column, value)])) :
    compiled.query.parameters.head? = some (.ofJson value) := by
  rcases hmethod with hm | hm
  · obtain ⟨target, payload, rows, conflict, hinsert⟩ := compile_post hm h
    obtain ⟨body, hsome, hpayload⟩ := hinsert.payload_eq
    cases hbody.symm.trans hsome
    cases (ofJson_single hcolumn).symm.trans hpayload
    obtain ⟨keep, hrows, -⟩ := hinsert.exists_keep
    have hcolumns := hinsert.columns_ne
    rw [Payload.rows, List.map_singleton] at hrows
    rcases retain_single column (.ofJson value) keep with hkept | hkept
    · rw [hkept] at hrows
      rw [hinsert.parameters_eq, hrows]
      simp [columnUnion, Row.names, Association.names, Row.get?, Association.get?]
    · rw [hrows, hkept] at hcolumns
      exact absurd rfl hcolumns
  · obtain ⟨target, attempted, row, hupdate⟩ := compile_patch hm h
    obtain ⟨body, hsome, hpayload⟩ := hupdate.exists_body
    cases hbody.symm.trans hsome
    cases (ofJson_single hcolumn).symm.trans hpayload
    have hrow := hupdate.row_eq_retain
    have hne := hupdate.row_ne
    rcases retain_single column (.ofJson value)
        (fun c => !context.strips .update c) with hkept | hkept
    · rw [hkept] at hrow
      rw [hupdate.parameters_eq, hrow]
      rfl
    · rw [hrow, hkept] at hne
      exact absurd rfl hne

/-! ## Unchanged texts -/

/-- A text that is sent to a column of a type, in a filter or in a body. -/
structure Unchanged (column type v : String) : Prop where
  comparison : ∀ p ∈ comparisons, Sent column (p.1.text ++ "." ++ v) p.2 type v
  plain : IsPlain v → Sent column v "=" type v
  pattern : ∀ p ∈ patterns, ∃ w, Starred v w ∧ Sent column (p.1.text ++ "." ++ v) p.2 type w
  body : ∃ value, Payload.ofJson (.object [(column, .string v)]) =
    .ok (.single ⟨[(column, value)]⟩) ∧ Arrives type value v

/-- What is sent to a column of a type is among the parameters of the statement. -/
structure Carried (request : Request) (compiled : Compiled) (column type : String) : Prop where
  filter : ∀ raw symbol s, Sent column raw symbol type s → (column, raw) ∈ request.filters →
    request.method ≠ .post → ∃ value ∈ compiled.query.parameters, Arrives type value s
  body : ∀ v, request.body = some (.object [(column, .string v)]) →
    request.method = .post ∨ request.method = .patch →
    ∃ value, compiled.query.parameters.head? = some value ∧ Arrives type value v

theorem unchanged {type : String} (hcolumn : Sql.Identifier.isValid column = true)
    (htype : Text.upper type ∈ textNames) (v : String) : Unchanged column type v where
  comparison _ hp := sent_comparison hcolumn htype hp v
  plain h := sent_plain hcolumn htype h
  pattern _ hp := ⟨_, starred_substitute v, sent_pattern hcolumn htype hp v⟩
  body := ⟨_, ofJson_single hcolumn, arrives_text htype v⟩

theorem carried {type : String} (hcolumn : Sql.Identifier.isValid column = true)
    (htype : Text.upper type ∈ textNames)
    (h : compile settings request context = .ok compiled) :
    Carried request compiled column type where
  filter raw symbol s hsent hmem hmethod := by
    obtain ⟨value, hcondition, harrives⟩ := hsent 1
    have hvalue : boundValue? (column, raw) = some value := by
      rw [boundValue?, hcondition]
      rfl
    exact ⟨value, mem_parameters_of_mem_filters h hmethod hmem hvalue, harrives⟩
  body v hbody hmethod :=
    ⟨_, head?_parameters_of_body hcolumn h hmethod hbody, arrives_text htype v⟩

/-- The operator of a filter is read from its front, and the text behind it reaches the database
unchanged, whatever it holds. So does the text of a body, and a pattern but for its stars. -/
theorem operands_unchanged (hcolumn : Sql.Identifier.isValid column = true) :
    (∀ raw f, Filter.parse? column raw = some f ↔ Reading column raw f) ∧
      ∀ type, Text.upper type ∈ textNames → (∀ v, Unchanged column type v) ∧
        ∀ settings request context compiled, compile settings request context = .ok compiled →
          Carried request compiled column type :=
  ⟨fun _ _ => parse?_eq_some_iff hcolumn, fun _ htype =>
    ⟨unchanged hcolumn htype, fun _ _ _ _ h => carried hcolumn htype h⟩⟩

/-- A read whose filter starts like a filter once more behind its operator. -/
def dottedRead : Request where
  method := .get
  table := "people"
  query := [("email", "eq.neq..a*.b")]
  body := none
  headers := .none

theorem operands_unchanged_dottedRead :
    Reading "email" "eq.neq..a*.b" ⟨"email", .eq, "neq..a*.b"⟩ ∧
      Filter.parse? "email" "a.eq.b" = some ⟨"email", .eq, "a.eq.b"⟩ ∧
      Sent "email" "eq.neq..a*.b" "=" "varchar" "neq..a*.b" ∧ Unchanged "email" "varchar" "" ∧
      ∃ compiled, compile ⟨none, none⟩ dottedRead ⟨⟨[]⟩, "anon", "p", none⟩ = .ok compiled ∧
        ∃ value ∈ compiled.query.parameters, Arrives "varchar" value "neq..a*.b" := by
  have hcolumn : Sql.Identifier.isValid "email" = true := by decide
  have htype : Text.upper "varchar" ∈ textNames := by decide +kernel
  have hplain : IsPlain "a.eq.b" :=
    .noOperator (show "a.eq.b" = "a" ++ "." ++ "eq.b" by decide) (by decide)
      fun op => by cases op <;> decide
  have hcompiled : compile ⟨none, none⟩ dottedRead ⟨⟨[]⟩, "anon", "p", none⟩ = .ok _ := rfl
  obtain ⟨hreading, hunchanged⟩ := operands_unchanged hcolumn
  have hsent : Sent "email" "eq.neq..a*.b" "=" "varchar" "neq..a*.b" :=
    ((hunchanged "varchar" htype).1 "neq..a*.b").comparison (.eq, "=") (by decide)
  exact ⟨(hreading _ _).mp (by decide +kernel), (hreading _ _).mpr (.plain hplain), hsent,
    (hunchanged "varchar" htype).1 "", _, hcompiled,
    ((hunchanged "varchar" htype).2 _ _ _ _ hcompiled).filter _ _ _ hsent (by decide) (by decide)⟩

end Query

end TableGateway
