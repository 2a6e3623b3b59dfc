import TableGateway.Proofs.Config.Validation
import TableGateway.Proofs.Http.Isolation
import TableGateway.Proofs.Query.Refusals
import TableGateway.Proofs.Session.Opening
import TableGateway.Proofs.Text.Occurrence

/-! # Gateways with validated settings

Settings that pass validation fix the roles and the timeouts of all transactions. What a caller says
of itself picks one of these roles at most. -/

namespace TableGateway

namespace Request

/-! ## Profiles -/

/-- The names of the headers that ask for a schema. -/
def profileHeaders : List String :=
  ["accept-profile", "content-profile"]

theorem Headers.add_profiles {name : String} (h : Text.lower name ∉ profileHeaders)
    (headers : Headers) (value : String) :
    (headers.add name value).acceptProfile = headers.acceptProfile ∧
      (headers.add name value).contentProfile = headers.contentProfile := by
  simp only [profileHeaders, List.mem_cons, List.not_mem_nil, or_false, not_or] at h
  unfold add
  simp only [h.1, h.2, if_false]
  split
  case isTrue => exact ⟨rfl, rfl⟩
  case isFalse =>
    split
    case isTrue => exact ⟨rfl, rfl⟩
    case isFalse => exact ⟨rfl, rfl⟩

theorem Headers.ofPairs_profiles {pairs : List (String × String)}
    (h : ∀ p ∈ pairs, Text.lower p.1 ∉ profileHeaders) :
    (ofPairs pairs).acceptProfile = Option.none ∧ (ofPairs pairs).contentProfile = Option.none := by
  have hfold : ∀ headers : Headers,
      (pairs.foldl (fun h p => h.add p.1 p.2) headers).acceptProfile = headers.acceptProfile ∧
        (pairs.foldl (fun h p => h.add p.1 p.2) headers).contentProfile =
          headers.contentProfile := by
    induction pairs with
    | nil => exact fun _ => ⟨rfl, rfl⟩
    | cons p pairs ih =>
        intro headers
        obtain ⟨haccept, hcontent⟩ := add_profiles (h p (by simp)) headers p.2
        have hrest := ih (fun q hq => h q (by simp [hq])) (headers.add p.1 p.2)
        rwa [haccept, hcontent] at hrest
  exact hfold none

end Request

namespace Http

open Database
open Session (Opened countingScript mainSql opening setupScript)

variable {g : Gateway} {m other : Message} {histories : Histories} {caller another : Caller}
  {request : Request} {compiled : Query.Compiled} {c : Config}

theorem Reads.profile?_eq_none (h : Reads m caller request)
    (hheaders : ∀ header ∈ m.headers, Text.lower header.1 ∉ Request.profileHeaders) :
    request.profile? = none := by
  have hreadable : ∀ header ∈ m.headers.filter fun header => isReadable header.2,
      Text.lower header.1 ∉ Request.profileHeaders :=
    fun header hheader => hheaders header (List.mem_of_mem_filter hheader)
  obtain ⟨haccept, hcontent⟩ := Request.Headers.ofPairs_profiles hreadable
  have heq : request.headers =
      .ofPairs (m.headers.filter fun header => isReadable header.2) := h.headers_eq
  rw [Request.profile?, heq, haccept, hcontent, ite_self]
  rfl

/-! ## What transactions do not hang on -/

/-- The names of the headers that bear on governance only. -/
def governanceHeaders : List String :=
  ["x-caller-role", "x-column-locks", "x-forwarded-for"]

/-- The headers that do not bear on governance. -/
def withoutGovernance (headers : Headers) : Headers :=
  headers.filter fun header => Text.lower header.1 ∉ governanceHeaders

/-- The messages differ in headers that bear on governance only. -/
structure SameButGovernance (m other : Message) : Prop where
  method_eq : other.method = m.method
  target_eq : other.target = m.target
  headers_eq : withoutGovernance other.headers = withoutGovernance m.headers
  body_eq : other.body = m.body
  peer_eq : other.peer = m.peer

theorem header?_withoutGovernance {name : String} (h : name ∉ governanceHeaders)
    (headers : Headers) : header? (withoutGovernance headers) name = header? headers name := by
  have hfind : (withoutGovernance headers).find?
      (fun header => decide (Text.lower header.1 = name)) =
        headers.find? fun header => decide (Text.lower header.1 = name) := by
    rw [withoutGovernance, List.find?_filter]
    congr 1
    funext header
    by_cases hname : Text.lower header.1 = name
    · simp [hname, h]
    · simp [hname]
  rw [header?_eq, header?_eq, hfind]

theorem SameButGovernance.header?_eq (h : SameButGovernance m other) {name : String}
    (hname : name ∉ governanceHeaders) : header? other.headers name = header? m.headers name := by
  rw [← header?_withoutGovernance hname, h.headers_eq, header?_withoutGovernance hname]

/-- Governance is not what names the project or makes the claims. -/
theorem SameButGovernance.caller_eq (h : SameButGovernance m other)
    (hcaller : Caller.ofHeaders? m.headers m.peer = some caller)
    (hother : Caller.ofHeaders? other.headers other.peer = some another) :
    another.projectId = caller.projectId ∧ another.claims = caller.claims := by
  simp only [Caller.ofHeaders?, Option.bind_eq_bind, Option.bind_eq_some_iff] at hcaller hother
  obtain ⟨project, hproject, hcaller⟩ := hcaller
  obtain ⟨project', hproject', hother⟩ := hother
  cases hcaller
  cases hother
  rw [h.header?_eq (by decide), hproject, Option.some.injEq] at hproject'
  refine ⟨hproject'.symm, ?_⟩
  have hsame : ∀ name ∈ ["x-claim-sub", "x-claim-role", "x-claim-email"],
      header? other.headers name = header? m.headers name :=
    fun name hname => h.header?_eq (by revert name; decide)
  rw [hsame _ (by simp), hsame _ (by simp), hsame _ (by simp)]

/-! ## Sanctioned settings -/

/-- The statements that may set something for a transaction: a configured role, which is the claimed
one where that is allowed, and a time that is not zero. -/
inductive Sanctioned (session : Config.Session) (claims : Claims) : String → Prop where
  | role {role : String} (hrole : role ∈ session.role :: session.allowedRoles)
      (hclaimed : claims.role ∈ session.allowedRoles → role = claims.role) :
      Sanctioned session claims ("SET LOCAL ROLE \"" ++ role ++ "\"")
  | timeout {milliseconds : Nat} (h : 1 ≤ milliseconds) :
      Sanctioned session claims ("SET LOCAL statement_timeout = " ++ Numeral.text milliseconds)

theorem isValid_role_forCaller (h : c.Valid) (claims : Claims) :
    Sql.Identifier.isValid (Session.Settings.forCaller c.session claims).role = true :=
  h.isValid_effectiveRole claims.role

theorem roleText_forCaller (h : c.Valid) (claims : Claims) :
    (Session.Settings.forCaller c.session claims).roleText =
      "SET LOCAL ROLE \"" ++ c.session.effectiveRole claims.role ++ "\"" := by
  rw [Session.Settings.roleText, Sql.Identifier.quoted_of_isValid (isValid_role_forCaller h claims),
    ← String.append_assoc, ← String.append_assoc]
  rfl

theorem sanctioned_roleText (h : c.Valid) (claims : Claims) :
    Sanctioned c.session claims (Session.Settings.forCaller c.session claims).roleText := by
  rw [roleText_forCaller h]
  exact .role (c.session.effectiveRole_mem claims.role) Config.Session.effectiveRole_of_mem

theorem not_startsWith_countText {context : Governance.Context}
    (hcompiled : Query.compile c.compiler request context = .ok compiled) {sql : String}
    (hcount : compiled.query.countText? = some sql) : Text.startsWith "SET " sql = false := by
  obtain ⟨count, hfragments, rfl⟩ := Option.map_eq_some_iff.mp hcount
  obtain ⟨-, target, columns, hread⟩ := Query.compile_count hcompiled hfragments
  rw [hread.eq_of_count hfragments, Sql.render_fixed_cons, ← Bool.not_eq_true]
  intro hset
  exact absurd (Text.startsWith_append hset (by decide)) (by decide)

theorem not_startsWith_mainSql {context : Governance.Context}
    (hcompiled : Query.compile c.compiler request context = .ok compiled) :
    Text.startsWith "SET " (mainSql compiled.query) = false := by
  rw [← Bool.not_eq_true]
  intro hset
  rw [Text.startsWith, List.isPrefixOf_iff_prefix] at hset
  have hhead : (mainSql compiled.query).toList.head? = some 'S' := by
    obtain ⟨back, hback⟩ := hset
    rw [← hback]
    rfl
  have hmain := Session.head?_mainSql hcompiled
  rw [hhead] at hmain
  exact absurd hmain (by decide)

/-- Of the statements of a transaction, those that set something are sanctioned. -/
theorem sanctioned_of_mem (h : c.Valid) {context : Governance.Context}
    (hcompiled : Query.compile c.compiler request context = .ok compiled) (claims : Claims)
    {sql : String}
    (hsql : sql ∈ transactionScript (.forCaller c.session claims) compiled.query)
    (hset : Text.startsWith "SET " sql = true) : Sanctioned c.session claims sql := by
  have hother : Text.startsWith "SET " sql ≠ false := by simp [hset]
  rw [transactionScript, List.mem_append, List.mem_append, List.mem_singleton] at hsql
  rcases hsql with hsetup | hcounting | rfl
  · simp only [setupScript, List.mem_cons, List.not_mem_nil, or_false] at hsetup
    rcases hsetup with rfl | rfl | rfl
    · exact .timeout h.statementTimeout
    · exact sanctioned_roleText h claims
    · exact absurd (by decide +kernel) hother
  · unfold countingScript at hcounting
    split at hcounting
    case h_1 => cases hcounting
    case h_2 text hcount =>
      simp only [List.mem_cons, List.not_mem_nil, or_false] at hcounting
      rcases hcounting with rfl | rfl | rfl | rfl | rfl | rfl
      · exact absurd (by decide +kernel) hother
      · exact .timeout h.countTimeout
      · exact absurd (not_startsWith_countText hcompiled hcount) hother
      · exact absurd (by decide +kernel) hother
      · exact absurd (by decide +kernel) hother
      · exact .timeout h.statementTimeout
  · exact absurd (not_startsWith_mainSql hcompiled) hother

/-! ## Gateways -/

/-- The gateway that is set up with the settings. -/
def gateway (c : Config) (databases : String → Option Database) (syntaxFault : String → String) :
    Gateway :=
  ⟨c.compiler, c.session, databases, syntaxFault⟩

theorem handle_sanctioned (h : c.Valid) (databases : String → Option Database)
    (syntaxFault : String → String) (m : Message) (histories : Histories) (project : String) :
    ∃ said, (handle (gateway c databases syntaxFault) m histories).2 project =
        histories project ++ said ∧
      ∀ sql ∈ prepared said ++ executed said, Text.startsWith "SET " sql = true →
        ∃ caller, Caller.ofHeaders? m.headers m.peer = some caller ∧
          Sanctioned c.session caller.claims sql := by
  rcases handle_cases (gateway c databases syntaxFault) m histories with
    hsame | ⟨caller, request, compiled, hreads, hcompiled⟩
  · exact ⟨[], by rw [hsame, List.append_nil], by simp [prepared, executed]⟩
  · by_cases hproject : project = caller.projectId
    · subst hproject
      obtain ⟨said, hsaid, hwithin, -⟩ := handle_performed hreads hcompiled histories
      refine ⟨said, hsaid, fun sql hsql hset => ⟨caller, hreads.caller_eq, ?_⟩⟩
      have hscript : sql ∈ transactionScript (.forCaller c.session caller.claims)
          compiled.query := by
        rcases List.mem_append.mp hsql with hsql | hsql
        · exact hwithin.prepared_sublist.subset hsql
        · exact hwithin.executed_sublist.subset hsql
      exact sanctioned_of_mem h hcompiled caller.claims hscript hset
    · refine ⟨[], ?_, by simp [prepared, executed]⟩
      rw [handle_of_reads hreads hcompiled, List.append_nil]
      exact if_neg hproject

theorem perform_ne_invalidRole (h : c.Valid) (pool : Option Database) (r : Ready)
    (before : History) :
    (perform c.session pool r before).1 ≠ .error (.session .invalidRole) := by
  rw [perform_eq]
  refine Session.runScoped_ne_invalidRole (isValid_role_forCaller h r.caller.claims) ?_ ?_ pool
    before
  · intro cause hcause
    exact Error.session.inj hcause
  · intro db said hbody
    obtain ⟨_, -, hspec⟩ := body_meets (.forCaller c.session r.caller.claims) r db said
    cases hspec.cause _ hbody with
    | fault hfault => exact hfault.ne_invalidRole rfl

theorem handle_opened (h : c.Valid) (databases : String → Option Database)
    (syntaxFault : String → String) (hreads : Reads m caller request)
    (hcompiled : Query.compile c.compiler request caller.governance = .ok compiled)
    (histories : Histories) :
    ∃ opened rest,
      Opened (databases caller.projectId) (.forCaller c.session caller.claims) caller.claims
        (histories caller.projectId) opened ∧
      (handle (gateway c databases syntaxFault) m histories).2 caller.projectId =
        histories caller.projectId ++ opened ++ rest ∧
      (opened = accepted (opening (.forCaller c.session caller.claims) caller.claims) ∨
        rest = [] ∨ RolledBack rest) := by
  have hbody : ∀ db, (bodyOfTransaction (.forCaller c.session caller.claims)
      ⟨caller, compiled⟩ db).Meets fun _ _ _ => True :=
    fun db => (body_meets _ _ db).mono fun _ _ _ _ => True.intro
  obtain ⟨opened, rest, hopened, hafter, hrest⟩ := Session.runScoped_opened
    (isValid_role_forCaller h caller.claims) hbody (databases caller.projectId)
    (histories caller.projectId)
  refine ⟨opened, rest, hopened, ?_, hrest⟩
  rw [handle_of_reads hreads hcompiled]
  exact (if_pos rfl).trans hafter

/-- For one project and with one set of claims, the transactions of two messages begin with the same
opening. Unless it succeeds as a whole, each of them is rolled back at most. -/
structure SameOpening (c : Config) (databases : String → Option Database)
    (syntaxFault : String → String) (histories : Histories) (m other : Message)
    (caller another : Caller) : Prop where
  projectId_eq : another.projectId = caller.projectId
  claims_eq : another.claims = caller.claims
  opened_eq : ∃ opened rest rest',
    Opened (databases caller.projectId) (.forCaller c.session caller.claims) caller.claims
      (histories caller.projectId) opened ∧
    (handle (gateway c databases syntaxFault) m histories).2 caller.projectId =
      histories caller.projectId ++ opened ++ rest ∧
    (handle (gateway c databases syntaxFault) other histories).2 caller.projectId =
      histories caller.projectId ++ opened ++ rest' ∧
    (opened = accepted (opening (.forCaller c.session caller.claims) caller.claims) ∨
      ∀ x ∈ rest ++ rest', x.command = .rollback)

theorem SameButGovernance.sameOpening (h : SameButGovernance m other) (hvalid : c.Valid)
    (databases : String → Option Database) (syntaxFault : String → String) {request' : Request}
    {compiled' : Query.Compiled}
    (hreads : Reads m caller request)
    (hcompiled : Query.compile c.compiler request caller.governance = .ok compiled)
    (hreads' : Reads other another request')
    (hcompiled' : Query.compile c.compiler request' another.governance = .ok compiled')
    (histories : Histories) :
    SameOpening c databases syntaxFault histories m other caller another := by
  obtain ⟨hproject, hclaims⟩ := h.caller_eq hreads.caller_eq hreads'.caller_eq
  obtain ⟨opened, rest, hopened, hafter, hrest⟩ :=
    handle_opened hvalid databases syntaxFault hreads hcompiled histories
  obtain ⟨opened', rest', hopened', hafter', hrest'⟩ :=
    handle_opened hvalid databases syntaxFault hreads' hcompiled' histories
  rw [hproject] at hopened' hafter'
  rw [hclaims] at hopened' hrest'
  obtain rfl := hopened.unique hopened'
  refine ⟨hproject, hclaims, opened', rest, rest', hopened, hafter, hafter', ?_⟩
  have hrollback : ∀ said : History, said = [] ∨ RolledBack said →
      ∀ x ∈ said, x.command = .rollback := by
    rintro said (rfl | hsaid) x hx
    · cases hx
    · exact hsaid.command_eq hx
  rcases hrest with hwhole | hrest
  · exact .inl hwhole
  · rcases hrest' with hwhole | hrest'
    · exact .inl hwhole
    · refine .inr fun x hx => ?_
      rcases List.mem_append.mp hx with hx | hx
      · exact hrollback rest hrest x hx
      · exact hrollback rest' hrest' x hx

/-! ## Validated settings -/

/-- What settings that pass validation hold their gateway to, whatever its callers say. -/
structure Settled (c : Config) : Prop where
  role : ∀ claims : Claims, ∃ role ∈ c.session.role :: c.session.allowedRoles,
    Session.roleSql (Session.Settings.forCaller c.session claims).role =
      .ok ("SET LOCAL ROLE \"" ++ role ++ "\"") ∧
    (claims.role ∈ c.session.allowedRoles → role = claims.role)
  ruled : ∀ pool r before, (perform c.session pool r before).1 ≠ .error (.session .invalidRole)
  timeouts : ∀ claims : Claims,
    1 ≤ (Session.Settings.forCaller c.session claims).statementTimeout ∧
      1 ≤ (Session.Settings.forCaller c.session claims).countTimeout
  sanctioned : ∀ databases syntaxFault m histories project, ∃ said,
    (handle (gateway c databases syntaxFault) m histories).2 project = histories project ++ said ∧
      ∀ sql ∈ prepared said ++ executed said, Text.startsWith "SET " sql = true →
        ∃ caller, Caller.ofHeaders? m.headers m.peer = some caller ∧
          Sanctioned c.session caller.claims sql
  schema : ∀ m caller request, Reads m caller request →
    (∀ header ∈ m.headers, Text.lower header.1 ∉ Request.profileHeaders) →
    Query.compile c.compiler request caller.governance ≠ .error (.invalidIdentifier "schema")
  auditTable : Audit.tableName c.audit.table = .ok ("\"" ++ c.audit.table ++ "\"")
  sink : ∀ environment, (∃ sink, Audit.databaseSink c.audit environment = .ok sink) ↔
    ∃ variableName url, c.audit.urlVariable = some variableName ∧
      environment variableName = some url ∧ Network.Url.isValid url = true
  sameOpening : ∀ databases syntaxFault histories m other caller another request request' compiled
    compiled', SameButGovernance m other → Reads m caller request → Reads other another request' →
    Query.compile c.compiler request caller.governance = .ok compiled →
    Query.compile c.compiler request' another.governance = .ok compiled' →
    SameOpening c databases syntaxFault histories m other caller another

theorem settled_of_validate (hvalidate : c.validate = .ok ()) : Settled c := by
  have h := Config.validate_eq_ok_iff.mp hvalidate
  refine ⟨fun claims => ?_, perform_ne_invalidRole h, fun _ => ⟨h.statementTimeout, h.countTimeout⟩,
    handle_sanctioned h, ?_, ?_, ?_, ?_⟩
  · refine ⟨c.session.effectiveRole claims.role, c.session.effectiveRole_mem claims.role, ?_,
      Config.Session.effectiveRole_of_mem⟩
    rw [Session.roleSql_of_isValid (isValid_role_forCaller h claims), roleText_forCaller h]
  · intro m caller request hreads hheaders
    exact Query.compile_ne_schema (hreads.profile?_eq_none hheaders) h.schema
  · rw [Audit.tableName_of_isValid h.auditTable, Sql.Identifier.quoted_of_isValid h.auditTable]
  · exact fun environment => Audit.databaseSink_eq_ok_iff h.auditTable
  · intro databases syntaxFault histories m other caller another request request' compiled compiled'
      hsame hreads hreads' hcompiled hcompiled'
    exact hsame.sameOpening h databases syntaxFault hreads hcompiled hreads' hcompiled' histories

/-- Editors may take on a role of their own. -/
def editorial : Config where
  session := { role := "reader", allowedRoles := ["editor"] }
  compiler := ⟨some "api", none⟩

/-- A read of the to-dos of a project whose caller says more of itself than it may. -/
def boastingRead : Message :=
  { todoRead with headers := [("X-Caller-Role", "service_role"), ("x-project-id", "nope"),
      ("x-forwarded-for", "10.0.0.1, 10.0.0.2"), ("x-caller-role", "editor")] }

def boastingReader : Caller :=
  { todoReader with role := "service_role", sourceAddress := some "10.0.0.1" }

theorem reads_boastingRead : Reads boastingRead boastingReader todoList where
  caller_eq := by decide +kernel
  table_eq := ⟨"todos", rfl, by decide +kernel⟩
  method_eq := by decide +kernel
  query_eq := by decide +kernel
  headers_eq := by decide +kernel
  body_eq := rfl

theorem settled_of_validate_editorial :
    editorial.validate = .ok () ∧ Settled editorial ∧
      Session.roleSql (Session.Settings.forCaller editorial.session
        ⟨"", "editor\"; RESET ROLE; --", ""⟩).role = .ok "SET LOCAL ROLE \"reader\"" ∧
      ∀ databases syntaxFault, SameOpening editorial databases syntaxFault nothingSaid todoRead
        boastingRead todoReader boastingReader := by
  have hvalidate : editorial.validate = .ok () := rfl
  have hsettled := settled_of_validate hvalidate
  have hsame : SameButGovernance todoRead boastingRead :=
    ⟨rfl, rfl, by decide +kernel, rfl, rfl⟩
  refine ⟨hvalidate, hsettled, rfl, fun databases syntaxFault => ?_⟩
  exact hsettled.sameOpening databases syntaxFault nothingSaid _ _ _ _ _ _ _ _ hsame reads_todoRead
    reads_boastingRead rfl rfl

end Http

end TableGateway
