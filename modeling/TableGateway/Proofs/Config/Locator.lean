import Mathlib.Data.List.TakeWhile
import TableGateway.Proofs.Number.Numeral
import TableGateway.Proofs.Text.Component
import TableGateway.Proofs.Text.Cut
import TableGateway.Session.Pools

/-! # Addresses made of parts

The address that is made of the parts of a project is read by the grammar of locators, which knows
nothing of how it was made. It says the parts again only where these hold no characters that a
locator would have to escape. -/

namespace TableGateway

open Text (beforeBack? component? component?_in_place component?_of_allowed cut cut_eq_none_iff
  cut_eq_some_iff isNameChar isPasswordChar isPathChar)

namespace Config

/-! ## Locators -/

/-- What the locator of a database says. -/
structure Locator where
  username : String
  password : Option String
  host : String
  port : Nat
  database : String
deriving DecidableEq

namespace Locator

/-- A letter, and more letters, digits and a few marks. -/
def isScheme (s : String) : Bool :=
  s.toList.head?.any Char.isAlpha && s.toList.all fun c => c.isAlphanum || c ∈ ['+', '-', '.']

/-- The password stands behind the first colon. -/
def credentials? (s : String) : Option (String × Option String) :=
  match cut ':' s with
  | none => (component? isNameChar s).map fun username => (username, none)
  | some (username, password) => do
      return (← component? isNameChar username, some (← component? isPasswordChar password))

/-- A host of which the name is given, and its port. -/
def server? (s : String) : Option (String × Nat) := do
  let (host, port) ← cut ':' s
  return (← component? isNameChar host, ← Numeral.natural? port.toList)

/-- A path ends where a query or a fragment starts. -/
def pathOf (s : String) : String :=
  String.ofList (s.toList.takeWhile fun c => c ≠ '?' && c ≠ '#')

/-- An authority with credentials, a name and a port, and a path. -/
def located? (s : String) : Option Locator := do
  let (authority, path) ← cut '/' s
  let (userInfo, server) ← cut '@' authority
  let (username, password) ← credentials? userInfo
  let (host, port) ← server? server
  return ⟨username, password, host, port, ← component? isPathChar (pathOf path)⟩

/-- What a text says as a locator of a database. -/
def read? (s : String) : Option Locator := do
  let (scheme, rest) ← cut ':' s
  if isScheme scheme then (Text.afterFront? "//" rest).bind located? else none

/-! ## Made of parts -/

/-- The credentials as they stand in an address. -/
def credentialsText (username : String) : Option String → String
  | none => username
  | some password => username ++ ":" ++ password

/-- What stands behind the scheme of an address. -/
def text (l : Locator) : String :=
  credentialsText l.username l.password ++ "@" ++ l.host ++ ":" ++ Numeral.text l.port ++ "/" ++
    l.database

/-- All parts are of characters that stand for themselves. -/
structure Plain (l : Locator) : Prop where
  username : ∀ c ∈ l.username.toList, isNameChar c = true
  password : ∀ p ∈ l.password, ∀ c ∈ p.toList, isPasswordChar c = true
  database : ∀ c ∈ l.database.toList, isPathChar c = true

theorem all_iff_plain (l : Locator) :
    (l.username.toList.all isNameChar = true ∧
      l.password.all (fun p => p.toList.all isPasswordChar) = true ∧
      l.database.toList.all isPathChar = true) ↔ l.Plain := by
  simp only [List.all_eq_true, Option.all_eq_true]
  constructor
  · rintro ⟨husername, hpassword, hdatabase⟩
    exact ⟨husername, hpassword, hdatabase⟩
  · intro h
    exact ⟨h.username, h.password, h.database⟩

instance (l : Locator) : Decidable l.Plain :=
  decidable_of_iff _ l.all_iff_plain

end Locator

/-- What the parts of a project say. -/
def Project.locator (p : Project) (environment : Environment) : Locator :=
  ⟨p.username, p.effectivePassword environment, p.host, p.port, p.database⟩

namespace Locator

variable {l : Locator} {s username : String} {password : Option String} {x y : List Char}

theorem toList_credentialsText (username : String) (password : Option String) :
    (credentialsText username password).toList =
      username.toList ++ password.elim [] fun p => ':' :: p.toList := by
  cases password <;> simp [credentialsText, String.toList_append]

theorem toList_text (l : Locator) :
    l.text.toList = (credentialsText l.username l.password).toList ++ '@' ::
      (l.host.toList ++ ':' :: Numeral.digits l.port ++ '/' :: l.database.toList) := by
  simp [text, String.toList_append, Numeral.toList_text]

/-! ## Credentials -/

theorem not_mem_of_forall {p : Char → Bool} {cs : List Char} {mark : Char}
    (hmark : p mark = false) (h : ∀ c ∈ cs, p c = true) : mark ∉ cs := by
  intro hmem
  exact absurd (h mark hmem) (by simp [hmark])

theorem isPathChar_of_isNameChar (c : Char) (h : isNameChar c = true) : isPathChar c = true :=
  Text.isPathChar_of_isPasswordChar (Text.isPasswordChar_of_isNameChar h)

theorem credentials?_credentialsText (husername : ∀ c ∈ username.toList, isNameChar c = true)
    (hpassword : ∀ p ∈ password, ∀ c ∈ p.toList, isPasswordChar c = true) :
    credentials? (credentialsText username password) = some (username, password) := by
  have hname := component?_of_allowed isPathChar_of_isNameChar husername
  have hcolon : ':' ∉ username.toList := not_mem_of_forall (by decide) husername
  cases password with
  | none => rw [credentials?, credentialsText, cut_eq_none_iff.mpr hcolon, hname]; rfl
  | some p =>
      have hcut : cut ':' (credentialsText username (some p)) = some (username, p) :=
        cut_eq_some_iff.mpr ⟨toList_credentialsText username (some p), hcolon⟩
      have hp :=
        component?_of_allowed (fun _ => Text.isPathChar_of_isPasswordChar) (hpassword p rfl)
      rw [credentials?, hcut]
      simp [hname, hp]

/-- Credentials that say what they were made of have no escapes. -/
theorem plain_of_credentials? (h : credentials? s = some (username, password))
    (hat : '@' ∉ s.toList)
    (heq : s.toList ++ y = (credentialsText username password).toList ++ '@' :: x) :
    s = credentialsText username password ∧ (∀ c ∈ username.toList, isNameChar c = true) ∧
      ∀ p ∈ password, ∀ c ∈ p.toList, isPasswordChar c = true := by
  unfold credentials? at h
  cases hcut : cut ':' s with
  | none =>
      simp only [hcut, Option.map_eq_some_iff, Prod.mk.injEq] at h
      obtain ⟨_, hname, rfl, rfl⟩ := h
      obtain ⟨rfl, husername⟩ := component?_in_place isPathChar_of_isNameChar hname hat heq
      exact ⟨rfl, husername, nofun⟩
  | some parts =>
      obtain ⟨rawName, rawPassword⟩ := parts
      obtain ⟨hs, hcolon⟩ := cut_eq_some_iff.mp hcut
      simp only [hcut, Option.bind_eq_bind, Option.bind_eq_some_iff] at h
      obtain ⟨_, hname, p, hp, hpair⟩ := h
      cases hpair
      rw [hs, toList_credentialsText, Option.elim_some] at heq
      simp only [List.append_assoc, List.cons_append] at heq
      obtain ⟨rfl, husername⟩ := component?_in_place isPathChar_of_isNameChar hname hcolon heq
      have heq' := List.cons.inj (List.append_cancel_left heq)
      have hat' : '@' ∉ rawPassword.toList := by
        intro hmem
        exact hat (by simp [hs, hmem])
      obtain ⟨rfl, hpassword⟩ :=
        component?_in_place (fun _ => Text.isPathChar_of_isPasswordChar) hp hat' heq'.2
      refine ⟨?_, husername, ?_⟩
      · rw [← String.toList_inj, hs, toList_credentialsText]
        rfl
      · rintro _ ⟨⟩
        exact hpassword

/-! ## The whole address -/

theorem located?_eq_some_iff :
    located? s = some l ↔ ∃ authority path userInfo server : String,
      cut '/' s = some (authority, path) ∧ cut '@' authority = some (userInfo, server) ∧
        credentials? userInfo = some (l.username, l.password) ∧
        server? server = some (l.host, l.port) ∧
        component? isPathChar (pathOf path) = some l.database := by
  simp only [located?, Option.bind_eq_bind, Option.bind_eq_some_iff, Prod.exists]
  constructor
  · rintro ⟨authority, path, hcut, userInfo, server, hat, _, _, hcredentials, _, _, hserver, _,
      hpath, hl⟩
    cases hl
    exact ⟨authority, path, userInfo, server, hcut, hat, hcredentials, hserver, hpath⟩
  · rintro ⟨authority, path, userInfo, server, hcut, hat, hcredentials, hserver, hpath⟩
    exact ⟨authority, path, hcut, userInfo, server, hat, _, _, hcredentials, _, _, hserver, _,
      hpath, rfl⟩

theorem read?_postgresql (s : String) : read? ("postgresql://" ++ s) = located? s := by
  have hcut : cut ':' ("postgresql://" ++ s) = some ("postgresql", "//" ++ s) :=
    cut_eq_some_iff.mpr ⟨by simp [String.toList_append], by decide⟩
  have hscheme : isScheme "postgresql" = true := by decide
  have hfront : Text.afterFront? "//" ("//" ++ s) = some s := Text.afterFront?_eq_some_iff.mpr rfl
  simp only [read?, hcut, Option.bind_eq_bind, Option.bind_some, if_pos hscheme, hfront]

theorem not_mem_digits {mark : Char} {n : Nat} (hmark : mark.isDigit = false) :
    mark ∉ Numeral.digits n :=
  not_mem_of_forall hmark Numeral.isDigit_of_mem_digits

theorem slash_not_mem_server (hhost : ∀ c ∈ l.host.toList, isNameChar c = true) :
    '/' ∉ l.host.toList ++ ':' :: Numeral.digits l.port := by
  have hslash : '/' ∉ l.host.toList := not_mem_of_forall (by decide) hhost
  simp [hslash, not_mem_digits]

theorem server?_text (hhost : ∀ c ∈ l.host.toList, isNameChar c = true) :
    server? (l.host ++ ":" ++ Numeral.text l.port) = some (l.host, l.port) := by
  have hcut : cut ':' (l.host ++ ":" ++ Numeral.text l.port) =
      some (l.host, Numeral.text l.port) := by
    rw [cut_eq_some_iff]
    exact ⟨by simp [String.toList_append], not_mem_of_forall (by decide) hhost⟩
  have hport : Numeral.natural? (Numeral.text l.port).toList = some l.port := by
    rw [Numeral.toList_text, Numeral.natural?_digits]
  simp [server?, hcut, hport, component?_of_allowed isPathChar_of_isNameChar hhost]

theorem Plain.at_not_mem (h : l.Plain) :
    '@' ∉ (credentialsText l.username l.password).toList := by
  have husername : '@' ∉ l.username.toList := not_mem_of_forall (by decide) h.username
  rw [toList_credentialsText]
  cases hp : l.password with
  | none => simpa using husername
  | some p =>
      have hpassword : '@' ∉ p.toList := not_mem_of_forall (by decide) (h.password p hp)
      simp [husername, hpassword]

theorem Plain.slash_not_mem (h : l.Plain) :
    '/' ∉ (credentialsText l.username l.password).toList := by
  have husername : '/' ∉ l.username.toList := not_mem_of_forall (by decide) h.username
  rw [toList_credentialsText]
  cases hp : l.password with
  | none => simpa using husername
  | some p =>
      have hpassword : '/' ∉ p.toList := not_mem_of_forall (by decide) (h.password p hp)
      simp [husername, hpassword]

theorem pathOf_of_allowed {path : String} (h : ∀ c ∈ path.toList, isPathChar c = true) :
    pathOf path = path := by
  have hkept : ∀ c ∈ path.toList, (c ≠ '?' && c ≠ '#') = true := by
    intro c hc
    have hquery : c ≠ '?' := by
      rintro rfl
      exact absurd (h _ hc) (by decide)
    have hfragment : c ≠ '#' := by
      rintro rfl
      exact absurd (h _ hc) (by decide)
    simp [hquery, hfragment]
  rw [pathOf, List.takeWhile_eq_self_iff.mpr hkept, String.ofList_toList]

theorem located?_of_plain (hhost : ∀ c ∈ l.host.toList, isNameChar c = true) (h : l.Plain) :
    located? l.text = some l := by
  rw [located?_eq_some_iff]
  refine ⟨credentialsText l.username l.password ++ "@" ++ (l.host ++ ":" ++ Numeral.text l.port),
    l.database, credentialsText l.username l.password, l.host ++ ":" ++ Numeral.text l.port,
    ?_, ?_, credentials?_credentialsText h.username h.password, server?_text hhost, ?_⟩
  · rw [cut_eq_some_iff, toList_text]
    have hserver := slash_not_mem_server hhost
    have hcredentials := h.slash_not_mem
    simp only [String.toList_append, Numeral.toList_text]
    simp_all
  · rw [cut_eq_some_iff]
    exact ⟨by simp [String.toList_append], h.at_not_mem⟩
  · rw [pathOf_of_allowed h.database]
    exact component?_of_allowed (fun _ => id) h.database

theorem plain_of_located? (hhost : ∀ c ∈ l.host.toList, isNameChar c = true)
    (h : located? l.text = some l) : l.Plain := by
  obtain ⟨authority, path, userInfo, server, hcut, hat, hcredentials, -, hpath⟩ :=
    located?_eq_some_iff.mp h
  obtain ⟨htext, hslash⟩ := cut_eq_some_iff.mp hcut
  obtain ⟨hauthority, hat⟩ := cut_eq_some_iff.mp hat
  rw [hauthority, toList_text] at htext
  simp only [List.append_assoc, List.cons_append] at htext
  obtain ⟨hu, husername, hpassword⟩ := plain_of_credentials? hcredentials hat htext.symm
  rw [hu] at htext
  have hbehind : l.host.toList ++ ':' :: Numeral.digits l.port ++ '/' :: l.database.toList =
      server.toList ++ '/' :: path.toList := by
    simpa using List.append_cancel_left htext
  have hserver : '/' ∉ server.toList := by
    intro hmem
    exact hslash (by simp [hauthority, hmem])
  have hcuts := congrArg (Text.cutChars '/') hbehind
  rw [Text.cutChars_append (slash_not_mem_server hhost), Text.cutChars_append hserver] at hcuts
  have hdatabase := (Prod.mk.inj (Option.some.inj hcuts)).2
  have hlength : (pathOf path).toList.length ≤ l.database.toList.length := by
    rw [pathOf, String.toList_ofList, ← hdatabase]
    exact (List.takeWhile_prefix _).length_le
  exact ⟨husername, hpassword, ((Text.length_component? (fun _ => id) hpath).2 hlength).2⟩

end Locator

namespace Project

variable {p : Project} {environment : Environment}

theorem composedUrl_eq (p : Project) (environment : Environment) :
    p.composedUrl environment = "postgresql://" ++ (p.locator environment).text := by
  unfold composedUrl Locator.text locator
  cases p.effectivePassword environment with
  | none => simp only [Locator.credentialsText, String.append_assoc]
  | some password => simp only [Locator.credentialsText, String.append_assoc]

theorem connectionUrl_of_parts (hvariable : p.urlVariable.bind environment = none)
    (hurl : p.url = none) : p.connectionUrl environment = p.composedUrl environment := by
  rw [connectionUrl, hvariable, hurl]
  rfl

/-- The address of a project that is given in parts says these parts if and only if none of them
holds a character that had to be escaped. -/
theorem read?_connectionUrl_iff (hvariable : p.urlVariable.bind environment = none)
    (hurl : p.url = none) (hhost : ∀ c ∈ p.host.toList, isNameChar c = true) :
    Locator.read? (p.connectionUrl environment) = some (p.locator environment) ↔
      (p.locator environment).Plain := by
  rw [connectionUrl_of_parts hvariable hurl, composedUrl_eq, Locator.read?_postgresql]
  exact ⟨Locator.plain_of_located? hhost, Locator.located?_of_plain hhost⟩

/-- A project whose parts are all plain, but for its password. -/
def withPassword (password : String) : Project :=
  { host := "db", database := "app", username := "svc", password := some password }

theorem read?_connectionUrl_withPassword :
    Locator.read? ((withPassword "pw:1").connectionUrl fun _ => none) =
      some ⟨"svc", some "pw:1", "db", 5432, "app"⟩ :=
  (read?_connectionUrl_iff rfl rfl (List.all_eq_true.mp (by decide))).mpr (by decide)

/-- A slash in a password ends the authority, and a percent sign starts an escape. The address with
the slash is no address of a pool. -/
theorem connectionUrl_withPassword_misread :
    Locator.read? ((withPassword "p/w").connectionUrl fun _ => none) ≠
        some ((withPassword "p/w").locator fun _ => none) ∧
      Locator.read? ((withPassword "p%41").connectionUrl fun _ => none) =
        some ⟨"svc", some "pA", "db", 5432, "app"⟩ ∧
      ∃ e, Session.Pools.ofProjects (fun _ => none) [("a", withPassword "p/w")] = .error e := by
  refine ⟨by decide +kernel, by decide +kernel, _, rfl⟩

end Project

end Config

end TableGateway
