import TableGateway.Database.Script
import TableGateway.Proofs.Json.Record
import TableGateway.Proofs.Result
import TableGateway.Proofs.Session.Scope

/-! # Claims in a transaction

The statement that makes the claims known sets them one by one and all together as one object. The
object says of each claim what its own setting says, whatever stands in the claims, and says nothing
else. -/

namespace TableGateway

/-! ## Claims in writing -/

namespace Claims

/-- The claims under their names, all of which are strings. -/
def textMembers (claims : Claims) : List (String × String) :=
  [("sub", claims.subject), ("role", claims.role), ("email", claims.email)]

theorem toJson_eq (claims : Claims) : claims.toJson = Json.ofStrings claims.textMembers := rfl

theorem serialized_eq (claims : Claims) : claims.serialized = claims.toJson.text := by
  have hwritten := Json.RecordWriter.finish_foldl
    (claims.textMembers.map fun m => (m.1, .string m.2))
  simp only [textMembers, List.map_cons, List.map_nil, List.foldl_cons, List.foldl_nil,
    Json.chars_string] at hwritten
  exact hwritten

theorem nodup_textMembers (claims : Claims) : (claims.textMembers.map Prod.fst).Nodup := by
  simp [textMembers]

theorem parse?_text (claims : Claims) : Json.parse? claims.toJson.text = some claims.toJson := by
  rw [toJson_eq]
  exact Json.parse?_ofStrings claims.nodup_textMembers

/-- The claims are read back from their text. -/
theorem ofText?_text (claims : Claims) : ofText? claims.toJson.text = some claims := by
  have hknown : ∀ m ∈ claims.textMembers, m.1 ∈ ["sub", "role", "email"] := by
    simp [textMembers]
  have hfields := Json.fields?_writtenMember hknown claims.nodup_textMembers
  rw [ofText?, toJson_eq, Json.ofText?_ofStrings]
  refine (bind_of_eq hfields).trans ?_
  refine (bind_of_eq rfl).trans ((bind_of_eq (Json.string?_writtenTree claims.subject)).trans ?_)
  refine (bind_of_eq rfl).trans ((bind_of_eq (Json.string?_writtenTree claims.role)).trans ?_)
  exact bind_of_eq (Json.string?_writtenTree claims.email)

theorem text_injective {claims other : Claims} (h : other.toJson.text = claims.toJson.text) :
    other = claims := by
  have hread := other.ofText?_text
  rw [h, ofText?_text] at hread
  exact (Option.some.inj hread).symm

end Claims

namespace Session

open Database

variable {claims : Claims} {settings : Settings}

/-! ## Settings of the claims -/

/-- The settings that the claims go into, in the order of their parameters. -/
def claimSettings : List String :=
  ["request.jwt.claim.sub", "request.jwt.claim.role", "request.jwt.claim.email",
    "request.jwt.claims"]

/-- Sets a setting to a parameter until the end of the transaction. -/
def settingSql (setting : String) (parameter : Nat) : String :=
  "set_config('" ++ setting ++ "', $" ++ Numeral.text parameter ++ ", true)"

/-- A text says of the claims what the single settings say, and nothing else. -/
structure Agrees (claims : Claims) (subject role email aggregate : String) : Prop where
  single : subject = claims.subject ∧ role = claims.role ∧ email = claims.email
  parsed : Json.parse? aggregate =
    some (.object [("sub", .string subject), ("role", .string role), ("email", .string email)])
  /-- Each name is there once in the text itself, so that no reader has a choice. -/
  once : ∃ members, Json.Tree.ofText? aggregate = some (.object members) ∧
    members.map (fun m => Json.partsString? m.1) = [some "sub", some "role", some "email"]
  serialized : aggregate = claims.serialized
  restored : Claims.ofText? aggregate = some claims
  apart : ∀ other : Claims, other.toJson.text = aggregate → other = claims

theorem agrees (claims : Claims) :
    Agrees claims claims.subject claims.role claims.email claims.toJson.text where
  single := ⟨rfl, rfl, rfl⟩
  parsed := claims.parse?_text
  once := ⟨_, Json.ofText?_ofStrings claims.textMembers, by
    simp [Claims.textMembers, Json.writtenMember, Json.partsString?_writtenParts]⟩
  serialized := claims.serialized_eq.symm
  restored := claims.ofText?_text
  apart _ := Claims.text_injective

/-! ## Sending them -/

theorem claimsSql_eq : claimsSql =
    "SELECT " ++ ", ".intercalate
      ((claimSettings.zipIdx 1).map fun (setting, n) => settingSql setting n) := by
  decide +kernel

/-- The statement selects, and the ones before it set something. -/
theorem claimsSql_ne (back : String) : claimsSql ≠ "SET LOCAL " ++ back := by
  -- Only the front is needed, and the rest is kept as it stands.
  have hfront : ∀ second third fourth : String,
      "SELECT set_config('request.jwt.claim.sub', $1, true), " ++ second ++ third ++ fourth ≠
        "SET LOCAL " ++ back := by
    intro second third fourth heq
    have hletters := congrArg String.toList heq
    simp at hletters
  exact hfront _ _ _

theorem arguments_of_mem_setup {arguments : List Parameter}
    (h : .execute claimsSql arguments ∈ setup settings claims) :
    arguments = claimsArguments claims := by
  have htimeout : claimsSql ≠ timeoutSql settings.statementTimeout :=
    claimsSql_ne ("statement_timeout = " ++ Numeral.text settings.statementTimeout)
  have hrole : claimsSql ≠ settings.roleText :=
    claimsSql_ne ("ROLE " ++ Sql.Identifier.quoted settings.role)
  simpa [setup, htimeout, hrole] using h

/-- The claims are all that is sent with the statement, and without it nothing is set up. -/
theorem establish_claims (db : Database) (settings : Settings) (claims : Claims)
    (before : History) :
    ∃ said, (establish db settings settings.roleText claims before).2 = before ++ said ∧
      (∀ x ∈ said, ∀ arguments, x.command = .execute claimsSql arguments →
        arguments = claimsArguments claims) ∧
      ((establish db settings settings.roleText claims before).1 = .ok () →
        ⟨.execute claimsSql (claimsArguments claims), none⟩ ∈ said) := by
  rw [establish_eq_sendAll]
  obtain ⟨said, hsaid, hsent⟩ := db.sendAll_sends (setup settings claims) before
  refine ⟨said, hsaid, fun x hx arguments hcommand => ?_, fun hok => ?_⟩
  · have hmem := hsent.command_mem hx
    rw [hcommand] at hmem
    exact arguments_of_mem_setup hmem
  · rw [hok] at hsent
    rw [hsent.said_eq]
    exact List.mem_map_of_mem (by simp [setup])

/-- Of the four values that a transaction sends to make the claims known, the last one is an object
that says what the first three say: it has just the three names, each with the value of its own
setting, it is the written form of the claims, and the claims are read back from it. -/
theorem claims_agree (claims : Claims) :
    ∃ subject role email aggregate : String,
      claimsArguments claims =
        [.ofText subject, .ofText role, .ofText email, .ofText aggregate] ∧
      Agrees claims subject role email aggregate ∧
      claimsSql = "SELECT " ++ ", ".intercalate
        ((claimSettings.zipIdx 1).map fun (setting, n) => settingSql setting n) ∧
      ∀ (db : Database) (settings : Settings) (before : History),
        ∃ said, (establish db settings settings.roleText claims before).2 = before ++ said ∧
          (∀ x ∈ said, ∀ arguments, x.command = .execute claimsSql arguments →
            arguments = claimsArguments claims) ∧
          ((establish db settings settings.roleText claims before).1 = .ok () →
            ⟨.execute claimsSql (claimsArguments claims), none⟩ ∈ said) :=
  ⟨_, _, _, _, rfl, agrees claims, claimsSql_eq,
    fun db settings before => establish_claims db settings claims before⟩

/-- The subject looks like the start of a second role, and the address has a control character. -/
def forgedClaims : Claims := ⟨"u\",\"role\":\"admin", "anon", "é\\\x01"⟩

theorem claims_agree_forged :
    ∃ aggregate : String,
      aggregate = "\x7b\"sub\":\"u\\\",\\\"role\\\":\\\"admin\"," ++
        "\"role\":\"anon\",\"email\":\"é\\\\\\u0001\"\x7d" ∧
      Json.parse? aggregate = some (.object [("sub", .string "u\",\"role\":\"admin"),
        ("role", .string "anon"), ("email", .string "é\\\x01")]) ∧
      ⟨.execute claimsSql [.ofText "u\",\"role\":\"admin", .ofText "anon", .ofText "é\\\x01",
          .ofText aggregate], none⟩ ∈
        (establish (Script.database ⟨[], none⟩) ⟨"anon", 1000, 100⟩ "SET LOCAL ROLE \"anon\""
          forgedClaims []).2 := by
  obtain ⟨_, _, _, aggregate, harguments, hagrees, -, hestablish⟩ := claims_agree forgedClaims
  obtain ⟨rfl, rfl, rfl⟩ := hagrees.single
  obtain ⟨said, hsaid, -, hsent⟩ :=
    hestablish (Script.database ⟨[], none⟩) ⟨"anon", 1000, 100⟩ []
  refine ⟨aggregate, ?_, hagrees.parsed, ?_⟩
  · rw [hagrees.serialized]
    decide +kernel
  · have hrole : Settings.roleText ⟨"anon", 1000, 100⟩ = "SET LOCAL ROLE \"anon\"" := by
      decide +kernel
    rw [hrole] at hsaid hsent
    rw [hsaid]
    exact harguments ▸ hsent rfl

end Session

end TableGateway
