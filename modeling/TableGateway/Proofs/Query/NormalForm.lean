import Mathlib.Data.List.Induction
import TableGateway.Proofs.Text.Cut
import TableGateway.Query.Compile

/-! # Statements hang on the normal form of a request

Of the headers that win over each other the last one counts, and of the parameters that are no
filters as well. Preferences are taken one directive after the other, wherever they stand, and the
filters in their order. Nothing else of a request bears on its statement. -/

namespace TableGateway

namespace Request

/-! ## The last value of a name -/

/-- The value of the last pair of a name. -/
def lastValue? (name : String) (pairs : List (String × String)) : Option String :=
  (pairs.filter fun p => p.1 = name).getLast?.map Prod.snd

variable {name : String} {pairs : List (String × String)} {p : String × String}

theorem lastValue?_append_of_eq (h : p.1 = name) : lastValue? name (pairs ++ [p]) = some p.2 := by
  simp [lastValue?, List.filter_append, h]

theorem lastValue?_append_of_ne (h : p.1 ≠ name) :
    lastValue? name (pairs ++ [p]) = lastValue? name pairs := by
  simp [lastValue?, List.filter_append, h]

theorem parameter?_eq_lastValue? (r : Request) (key : String) :
    r.parameter? key = lastValue? key r.query := by
  rw [parameter?]
  induction r.query using List.reverseRecOn with
  | nil => rfl
  | append_singleton query p ih =>
      rw [List.reverse_append, List.reverse_singleton, List.singleton_append, List.lookup_cons]
      by_cases h : p.1 = key
      · rw [lastValue?_append_of_eq h, h, beq_self_eq_true]
      · rw [lastValue?_append_of_ne h, beq_false_of_ne (Ne.symm h)]
        exact ih

/-! ## Headers -/

/-- Headers with their names in lower case. -/
def lowered (headers : List (String × String)) : List (String × String) :=
  headers.map fun p => (Text.lower p.1, p.2)

/-- The last value of a header, whatever the case of its name, without blanks around it. -/
def lastHeader? (name : String) (headers : List (String × String)) : Option String :=
  (lastValue? name (lowered headers)).map Text.trim

/-- The directives of all preferences, one after the other. -/
def directives (headers : List (String × String)) : List String :=
  ((lowered headers).filter fun p => p.1 = "prefer").flatMap fun p => Prefer.directives p.2

theorem lastHeader?_append_of_eq (h : Text.lower p.1 = name) :
    lastHeader? name (pairs ++ [p]) = some (Text.trim p.2) := by
  rw [lastHeader?, lowered, List.map_append, List.map_singleton, lastValue?_append_of_eq h]
  rfl

theorem lastHeader?_append_of_ne (h : Text.lower p.1 ≠ name) :
    lastHeader? name (pairs ++ [p]) = lastHeader? name pairs := by
  rw [lastHeader?, lowered, List.map_append, List.map_singleton, lastValue?_append_of_ne h]
  rfl

theorem directives_append (p : String × String) :
    directives (pairs ++ [p]) =
      directives pairs ++ if Text.lower p.1 = "prefer" then Prefer.directives p.2 else [] := by
  by_cases h : Text.lower p.1 = "prefer" <;>
    simp [directives, lowered, List.filter_append, h]

/-- A comma separates directives just as another header does. -/
theorem Prefer.directives_comma (front back : String) :
    Prefer.directives (front ++ "," ++ back) =
      Prefer.directives front ++ Prefer.directives back := by
  have hpieces : Text.pieces ',' (front ++ "," ++ back) =
      Text.pieces ',' front ++ Text.pieces ',' back := Text.pieces_append_separator rfl front back
  rw [Prefer.directives, hpieces, List.map_append]
  rfl

theorem Prefer.merge_comma (p : Prefer) (front back : String) :
    p.merge (front ++ "," ++ back) = (p.merge front).merge back := by
  rw [merge, Prefer.directives_comma, List.foldl_append]
  rfl

/-- The headers that bear on a statement, each found on its own. -/
theorem Headers.ofPairs_eq (pairs : List (String × String)) :
    ofPairs pairs =
      { range := lastHeader? "range" pairs
        prefer := (directives pairs).foldl Prefer.apply Prefer.none
        acceptProfile := lastHeader? "accept-profile" pairs
        contentProfile := lastHeader? "content-profile" pairs } := by
  -- The header that wins is the last one, so the list is taken apart from its end.
  induction pairs using List.reverseRecOn with
  | nil => rfl
  | append_singleton pairs p ih =>
      have hstep : ofPairs (pairs ++ [p]) = (ofPairs pairs).add p.1 p.2 := by
        rw [ofPairs, List.foldl_append]
        rfl
      rw [hstep, ih, directives_append]
      by_cases hrange : Text.lower p.1 = "range"
      · simp [add, hrange, lastHeader?_append_of_eq, lastHeader?_append_of_ne]
      by_cases hprefer : Text.lower p.1 = "prefer"
      · simp [add, hprefer, lastHeader?_append_of_ne, Prefer.merge]
      by_cases haccept : Text.lower p.1 = "accept-profile"
      · simp [add, haccept, lastHeader?_append_of_eq, lastHeader?_append_of_ne]
      by_cases hcontent : Text.lower p.1 = "content-profile"
      · simp [add, hcontent, lastHeader?_append_of_eq, lastHeader?_append_of_ne]
      · simp [add, hrange, hprefer, haccept, hcontent, lastHeader?_append_of_ne]

/-! ## Normal forms -/

/-- A request as it comes in, with its headers one by one. -/
structure Incoming where
  method : Method
  table : String
  query : List (String × String)
  body : Option Json
  headers : List (String × String)

/-- What of a request bears on its statement. -/
structure NormalForm where
  method : Method
  table : String
  body : Option Json
  range : Option String
  acceptProfile : Option String
  contentProfile : Option String
  /-- The directives of all preferences in order. -/
  directives : List String
  /-- The parameters that are no filters, each with its last value. -/
  parameters : List (String × Option String)
  /-- The other parameters in order. -/
  filters : List (String × String)

namespace Incoming

def request (r : Incoming) : Request where
  method := r.method
  table := r.table
  query := r.query
  body := r.body
  headers := .ofPairs r.headers

def normalForm (r : Incoming) : NormalForm where
  method := r.method
  table := r.table
  body := r.body
  range := lastHeader? "range" r.headers
  acceptProfile := lastHeader? "accept-profile" r.headers
  contentProfile := lastHeader? "content-profile" r.headers
  directives := directives r.headers
  parameters := reservedKeys.map fun key => (key, lastValue? key r.query)
  filters := r.query.filter fun p => p.1 ∉ reservedKeys

end Incoming

/-- The requests have in common what a statement is made from. -/
structure Agrees (r s : Request) : Prop where
  method : r.method = s.method
  table : r.table = s.table
  body : r.body = s.body
  headers : r.headers = s.headers
  parameters : ∀ key ∈ reservedKeys, r.parameter? key = s.parameter? key
  filters : r.filters = s.filters

theorem Incoming.agrees {r s : Incoming} (h : r.normalForm = s.normalForm) :
    r.request.Agrees s.request where
  method := congrArg NormalForm.method h
  table := congrArg NormalForm.table h
  body := congrArg NormalForm.body h
  headers := by
    have hrange : lastHeader? "range" r.headers = lastHeader? "range" s.headers :=
      congrArg NormalForm.range h
    have haccept : lastHeader? "accept-profile" r.headers =
      lastHeader? "accept-profile" s.headers := congrArg NormalForm.acceptProfile h
    have hcontent : lastHeader? "content-profile" r.headers =
      lastHeader? "content-profile" s.headers := congrArg NormalForm.contentProfile h
    have hdirectives : Request.directives r.headers = Request.directives s.headers :=
      congrArg NormalForm.directives h
    rw [request, request, Headers.ofPairs_eq, Headers.ofPairs_eq, hrange, haccept, hcontent,
      hdirectives]
  parameters key hkey := by
    have hparameters : (reservedKeys.map fun key => (key, lastValue? key r.query)) =
        reservedKeys.map fun key => (key, lastValue? key s.query) :=
      congrArg NormalForm.parameters h
    rw [parameter?_eq_lastValue?, parameter?_eq_lastValue?]
    exact congrArg Prod.snd (List.map_inj_left.mp hparameters key hkey)
  filters := congrArg NormalForm.filters h

end Request

/-! ## Statements -/

namespace Query

open Request (Agrees Incoming)

variable {settings : Settings} {context : Governance.Context} {r s : Request}

theorem target_congr (h : r.Agrees s) : target settings r = target settings s := by
  have hprofile : r.profile? = s.profile? := by
    rw [Request.profile?, Request.profile?, h.method, h.headers]
  rw [target, target, h.table, hprofile]

theorem compileRead_congr (h : r.Agrees s) (fragments : List Sql.Fragment) :
    compileRead settings r fragments = compileRead settings s fragments := by
  have hparameter : ∀ key ∈ Request.reservedKeys, r.parameter? key = s.parameter? key :=
    h.parameters
  rw [compileRead, compileRead, hparameter "select" (by decide), hparameter "limit" (by decide),
    hparameter "offset" (by decide), hparameter "order" (by decide), h.filters, h.headers]

theorem restrictColumns_congr (h : r.Agrees s) (rows : List Row) :
    restrictColumns r rows = restrictColumns s rows := by
  rw [restrictColumns, restrictColumns, h.parameters "columns" (by decide)]

theorem conflictFragments_congr (h : r.Agrees s) (locks : LockMap) (columns : List String) :
    conflictFragments r locks columns = conflictFragments s locks columns := by
  have htarget : conflictTarget r = conflictTarget s := by
    rw [conflictTarget, conflictTarget, h.parameters "on_conflict" (by decide)]
  rw [conflictFragments, conflictFragments, h.headers, htarget]

theorem compileInsert_congr (h : r.Agrees s) (fragments : List Sql.Fragment) :
    compileInsert r fragments context = compileInsert s fragments context := by
  simp only [compileInsert, h.body, h.table, h.headers, restrictColumns_congr h,
    conflictFragments_congr h]

theorem compileUpdate_congr (h : r.Agrees s) (fragments : List Sql.Fragment) :
    compileUpdate r fragments context = compileUpdate s fragments context := by
  have hrow : updatedRow r = updatedRow s := by rw [updatedRow, updatedRow, h.body]
  simp only [compileUpdate, hrow, h.method, h.table, h.filters, h.headers]

theorem compileDelete_congr (h : r.Agrees s) (fragments : List Sql.Fragment) :
    compileDelete r fragments = compileDelete s fragments := by
  simp only [compileDelete, h.method, h.filters, h.headers]

theorem compile_congr (h : r.Agrees s) :
    compile settings r context = compile settings s context := by
  simp only [compile, h.method, target_congr h, compileRead_congr h, compileInsert_congr h,
    compileUpdate_congr h, compileDelete_congr h]

/-- Requests of one normal form have the same statement, or fail alike. In the value of a preference
a comma may stand for the end of the header and the start of the next. -/
theorem compile_normalForm (settings : Settings) (context : Governance.Context) :
    (∀ r s : Incoming, r.normalForm = s.normalForm →
      compile settings r.request context = compile settings s.request context) ∧
    ∀ (p : Request.Prefer) (front back : String),
      p.merge (front ++ "," ++ back) = (p.merge front).merge back :=
  ⟨fun _ _ h => compile_congr (Incoming.agrees h), Request.Prefer.merge_comma⟩

/-- The preferences stand in one header, and some keys and headers come twice. -/
def crowdedRead : Incoming :=
  ⟨.get, "items", [("select", "id"), ("a", "eq.1"), ("limit", "5"), ("select", "name"),
    ("b", "gt.2")], none, [("Range", "0-4"), ("PREFER", "count=exact, return=minimal"),
    ("X-Other", "1"), ("range", " 5-9 ")]⟩

/-- The same read with a header for each preference. -/
def spreadRead : Incoming :=
  ⟨.get, "items", [("select", "name"), ("limit", "5"), ("a", "eq.1"), ("b", "gt.2")], none,
    [("prefer", "count=exact"), ("RANGE", "5-9"), ("Prefer", " return=minimal")]⟩

theorem compile_normalForm_spread :
    crowdedRead.normalForm = spreadRead.normalForm ∧
      ∃ compiled,
        compile ⟨none, none⟩ crowdedRead.request ⟨⟨[]⟩, "anon", "p", none⟩ = .ok compiled ∧
        compile ⟨none, none⟩ spreadRead.request ⟨⟨[]⟩, "anon", "p", none⟩ = .ok compiled ∧
        compiled.query.text =
          "SELECT \"name\" FROM \"items\" WHERE \"a\" = $1 AND \"b\" > $2 LIMIT 5 OFFSET 5" := by
  have hform : crowdedRead.normalForm = spreadRead.normalForm := by
    simp only [Incoming.normalForm, Request.NormalForm.mk.injEq]
    refine ⟨rfl, rfl, rfl, ?_, ?_, ?_, ?_, ?_, ?_⟩ <;> decide +kernel
  have hcompile := (compile_normalForm ⟨none, none⟩ ⟨⟨[]⟩, "anon", "p", none⟩).1 _ _ hform
  have hcrowded : compile ⟨none, none⟩ crowdedRead.request ⟨⟨[]⟩, "anon", "p", none⟩ = .ok _ := rfl
  refine ⟨hform, _, hcrowded, hcompile ▸ hcrowded, ?_⟩
  decide +kernel

end Query

end TableGateway
