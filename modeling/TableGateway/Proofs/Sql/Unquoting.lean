import TableGateway.Proofs.Result
import TableGateway.Proofs.Text.Cut
import TableGateway.Sql.Identifier

/-! # Quoted identifiers are read back

A quoted identifier ends at the first quote that is not written twice. So it is known where it ends
and which name it stands for, whatever the name holds and whatever follows but a quote. -/

namespace TableGateway.Sql.Identifier

variable {s name rest q : String} {cs inside behind : List Char}

/-! ## Reading behind the opening quote -/

/-- The characters of a name up to the quote that closes it, and what follows that quote. A quote
that is written twice stands for one and closes nothing. -/
def unquoteChars : List Char → Option (List Char × List Char)
  | [] => none
  | '"' :: '"' :: cs => (unquoteChars cs).map fun (inside, behind) => ('"' :: inside, behind)
  | '"' :: cs => some ([], cs)
  | c :: cs => (unquoteChars cs).map fun (inside, behind) => (c :: inside, behind)

theorem unquoteChars_closing (h : behind.head? ≠ some '"') :
    unquoteChars ('"' :: behind) = some ([], behind) := by
  cases behind with
  | nil => rfl
  | cons c cs => simp_all [unquoteChars]

theorem unquoteChars_doubled (c : Char) (cs : List Char) :
    unquoteChars (doubled c ++ cs) =
      (unquoteChars cs).map fun (inside, behind) => (c :: inside, behind) := by
  by_cases hc : c = '"'
  · rw [hc]
    rfl
  · rw [doubled, if_neg hc, List.singleton_append, unquoteChars]
    · exact fun _ h _ => hc h
    · exact hc

/-- By the characters of the name, each of which is read as one step whether it is written once or
twice. -/
theorem unquoteChars_flatMap (inside : List Char) (h : behind.head? ≠ some '"') :
    unquoteChars (inside.flatMap doubled ++ '"' :: behind) = some (inside, behind) := by
  induction inside with
  | nil => exact unquoteChars_closing h
  | cons c inside ih =>
      rw [List.flatMap_cons, List.append_assoc, unquoteChars_doubled, ih]
      rfl

theorem of_unquoteChars (h : unquoteChars cs = some (inside, behind)) :
    cs = inside.flatMap doubled ++ '"' :: behind ∧ behind.head? ≠ some '"' := by
  fun_induction unquoteChars cs generalizing inside with
  | case1 => cases h
  | case2 cs ih =>
      obtain ⟨⟨front, back⟩, hread, hp⟩ := Option.map_eq_some_iff.mp h
      cases hp
      obtain ⟨rfl, hback⟩ := ih hread
      exact ⟨rfl, hback⟩
  | case3 cs hsingle =>
      cases h
      refine ⟨rfl, fun hhead => ?_⟩
      obtain ⟨rest, hrest⟩ := List.head?_eq_some_iff.mp hhead
      exact hsingle rest hrest
  | case4 c cs _ hc ih =>
      obtain ⟨⟨front, back⟩, hread, hp⟩ := Option.map_eq_some_iff.mp h
      cases hp
      obtain ⟨rfl, hback⟩ := ih hread
      rw [List.flatMap_cons, doubled, if_neg hc]
      exact ⟨rfl, hback⟩

/-! ## Quoted identifiers -/

/-- The name that a quoted identifier at the front of a text stands for, and what follows it. -/
def unquote? (s : String) : Option (String × String) :=
  match s.toList with
  | '"' :: cs =>
      (unquoteChars cs).map fun (inside, behind) => (String.ofList inside, String.ofList behind)
  | _ => none

/-- What is read is a name between its quotes with no quote behind it, and all of these are read. -/
theorem unquote?_eq_some_iff :
    unquote? s = some (name, rest) ↔ s = quoted name ++ rest ∧ rest.toList.head? ≠ some '"' := by
  have hchars : s = quoted name ++ rest ↔
      s.toList = '"' :: (name.toList.flatMap doubled ++ '"' :: rest.toList) := by
    rw [← String.toList_inj]
    simp [quoted, quotedChars]
  rw [hchars]
  constructor
  · intro h
    unfold unquote? at h
    split at h
    case h_1 cs hcs =>
      obtain ⟨⟨inside, behind⟩, hread, hp⟩ := Option.map_eq_some_iff.mp h
      cases hp
      obtain ⟨rfl, hbehind⟩ := of_unquoteChars hread
      simpa using ⟨hcs, hbehind⟩
    case h_2 => cases h
  · rintro ⟨hcs, hrest⟩
    simp only [unquote?, hcs, unquoteChars_flatMap _ hrest, Option.map_some, String.ofList_toList]

theorem unquote?_quoted_append (name : String) (h : rest.toList.head? ≠ some '"') :
    unquote? (quoted name ++ rest) = some (name, rest) :=
  unquote?_eq_some_iff.mpr ⟨rfl, h⟩

theorem unquote?_quoted (name : String) : unquote? (quoted name) = some (name, "") := by
  have h : unquote? (quoted name ++ "") = some (name, "") :=
    unquote?_quoted_append name (by decide)
  rwa [String.append_empty] at h

theorem quoted_injective : Function.Injective quoted := by
  intro s t h
  have hread := congrArg unquote? h
  rw [unquote?_quoted, unquote?_quoted] at hread
  cases hread
  rfl

theorem quote_of_ne (h : s ≠ "") : quote s = .ok (quoted s) :=
  if_neg (by simpa using h)

theorem quote_eq_error_iff {e : Error} : quote s = .error e ↔ s = "" := by
  constructor
  · intro herror
    by_contra hne
    rw [quote_of_ne hne] at herror
    cases herror
  · rintro rfl
    rfl

theorem quote_injective : Function.Injective quote := by
  intro s t h
  by_cases hs : s = ""
  · rw [hs] at h ⊢
    exact (quote_eq_error_iff.mp h.symm).symm
  · by_cases ht : t = ""
    · rw [ht] at h ⊢
      exact quote_eq_error_iff.mp h
    · rw [quote_of_ne hs, quote_of_ne ht] at h
      exact quoted_injective (Except.ok.inj h)

/-! ## Qualified names -/

/-- The name of a table, and that of its schema where one stands in front of it, if the text holds
nothing else. -/
def unqualify? (s : String) : Option (Option String × String) := do
  let (name, rest) ← unquote? s
  match Text.afterFront? "." rest with
  | none => if rest = "" then some (none, name) else none
  | some rest => do
      let (table, rest) ← unquote? rest
      if rest = "" then some (some name, table) else none

theorem unqualify?_quoted (table : String) : unqualify? (quoted table) = some (none, table) := by
  rw [unqualify?, unquote?_quoted]
  rfl

theorem unqualify?_point (schema table : String) :
    unqualify? (quoted schema ++ "." ++ quoted table) = some (some schema, table) := by
  have hpoint : ("." ++ quoted table).toList.head? ≠ some '"' := by
    simp
  have hrest : Text.afterFront? "." ("." ++ quoted table) = some (quoted table) :=
    Text.afterFront?_eq_some_iff.mpr rfl
  rw [unqualify?, String.append_assoc, unquote?_quoted_append schema hpoint, Option.bind_eq_bind,
    Option.bind_some]
  simp only [hrest, unquote?_quoted]
  rfl

theorem exists_of_qualified {schema : Option String} {table : String} (hschema : schema ≠ some "")
    (htable : table ≠ "") : ∃ q, qualified schema table = .ok q ∧
      unqualify? q = some (schema, table) := by
  cases schema with
  | none => exact ⟨_, quote_of_ne htable, unqualify?_quoted table⟩
  | some schema =>
      have hne : schema ≠ "" := fun h => hschema (congrArg some h)
      refine ⟨_, ?_, unqualify?_point schema table⟩
      rw [qualified, quote_of_ne hne, quote_of_ne htable]
      rfl

theorem qualified_eq_error_iff {schema : Option String} {table : String} {e : Error} :
    qualified schema table = .error e ↔ schema = some "" ∨ table = "" := by
  constructor
  · intro herror
    by_contra hne
    rw [not_or] at hne
    obtain ⟨q, hq, -⟩ := exists_of_qualified hne.1 hne.2
    cases hq.symm.trans herror
  · rintro (rfl | rfl)
    · rfl
    · cases schema with
      | none => rfl
      | some schema =>
          cases e
          rw [qualified, bind_eq_error]
          cases quote schema with
          | error cause => exact .inl (by cases cause; rfl)
          | ok text => exact .inr ⟨text, rfl, rfl⟩

theorem unqualify?_of_qualified {schema : Option String} {table : String}
    (h : qualified schema table = .ok q) : unqualify? q = some (schema, table) := by
  have hnames : ¬(schema = some "" ∨ table = "") := fun hempty => by
    cases h.symm.trans (qualified_eq_error_iff (e := .empty).mpr hempty)
  rw [not_or] at hnames
  obtain ⟨text, htext, hread⟩ := exists_of_qualified hnames.1 hnames.2
  cases h.symm.trans htext
  exact hread

/-- A quoted name is told from all that may follow it but a quote, and gives the name again. So no
two names are quoted alike, and a qualified name says whether it has a schema and what the names
are. Nothing but an empty name cannot be quoted. -/
theorem quote_unambiguous :
    (∀ s rest, s ≠ "" → rest.toList.head? ≠ some '"' →
        ∃ q, quote s = .ok q ∧ unquote? (q ++ rest) = some (s, rest)) ∧
      Function.Injective quote ∧
      (∀ schema table, schema ≠ some "" → table ≠ "" →
        ∃ q, qualified schema table = .ok q ∧ unqualify? q = some (schema, table)) ∧
      (∀ schema table schema' table' q, qualified schema table = .ok q →
        qualified schema' table' = .ok q → schema = schema' ∧ table = table') ∧
      (∀ s, quote s = .error .empty ↔ s = "") ∧
      ∀ schema table, qualified schema table = .error .empty ↔ schema = some "" ∨ table = "" := by
  refine ⟨fun s rest hs hrest => ?_, quote_injective, fun _ _ => exists_of_qualified,
    fun schema table schema' table' q h h' => ?_, fun _ => quote_eq_error_iff,
    fun _ _ => qualified_eq_error_iff⟩
  · exact ⟨quoted s, quote_of_ne hs, unquote?_quoted_append s hrest⟩
  · have hnames := (unqualify?_of_qualified h).symm.trans (unqualify?_of_qualified h')
    rwa [Option.some_inj, Prod.mk.injEq] at hnames

/-- Names that are made of quotes, or look like a schema and a table in quotes, in front of what a
statement goes on with. -/
theorem quote_unambiguous_quotes :
    unquote? "\"\"\"\"\"\".\"t\"" = some ("\"\"", ".\"t\"") ∧
      unqualify? "\"a\"\".\"\"b\".\"\"\"\"" = some (some "a\".\"b", "\"") ∧
      unqualify? "\"a.b\"" = some (none, "a.b") := by
  obtain ⟨hname, -, hnames, -⟩ := quote_unambiguous
  obtain ⟨q, hq, hread⟩ := hname "\"\"" ".\"t\"" (by decide) (by decide)
  obtain ⟨two, htwo, hreadTwo⟩ := hnames (some "a\".\"b") "\"" (by decide) (by decide)
  obtain ⟨one, hone, hreadOne⟩ := hnames none "a.b" (by decide) (by decide)
  cases hq
  cases htwo
  cases hone
  exact ⟨hread, hreadTwo, hreadOne⟩

end TableGateway.Sql.Identifier
