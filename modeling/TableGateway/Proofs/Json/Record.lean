import Mathlib.Data.List.Basic
import TableGateway.Json.Fields
import TableGateway.Json.Record
import TableGateway.Proofs.Association

/-! # Records of strings

An object whose members are strings is read back from its text. Whatever a string holds, it ends at
its own closing quote, and no line feed stands in it. -/

namespace TableGateway.Json

variable {c : Char} {part : StringPart} {s : String} {cs rest : List Char}
  {members : List (String × String)}

/-! ## Strings -/

/-- How a character stands in a string, and what is read for it. -/
inductive Written (c : Char) : List Char → StringPart → Prop where
  | letter {e : Char} (h : escape? e = some c) : Written c ['\\', e] (.char c)
  | code {x y z w : Char} (hlt : c.toNat < 0x20) (h : codeUnit? x y z w = some c.toNat) :
      Written c ['\\', 'u', x, y, z, w] (.unit c.toNat)
  | plain (hle : 0x20 ≤ c.toNat) (hquote : c ≠ '"') (hbackslash : c ≠ '\\') :
      Written c [c] (.char c)

/-- The code unit that digits of its own stand for, of which there are four. -/
def codeUnitOf? : List Char → Option Nat
  | [x, y, z, w] => codeUnit? x y z w
  | _ => none

theorem exists_of_codeUnitOf? {digits : List Char} {n : Nat} (h : codeUnitOf? digits = some n) :
    ∃ x y z w, digits = [x, y, z, w] ∧ codeUnit? x y z w = some n := by
  unfold codeUnitOf? at h
  split at h
  case h_1 x y z w => exact ⟨x, y, z, w, rfl, h⟩
  case h_2 => cases h

/-- The code of a control character is written with four digits. -/
theorem codeUnit?_hexadecimal {n : Nat} (h : n < 0x20) :
    ∃ x y z w, Numeral.hexadecimal 4 n = [x, y, z, w] ∧ codeUnit? x y z w = some n := by
  have hall : ∀ k < 0x20, codeUnitOf? (Numeral.hexadecimal 4 k) = some k := by decide
  exact exists_of_codeUnitOf? (hall n h)

/-- What is read for a character that was written. -/
def writtenPart (c : Char) : StringPart :=
  if c.toNat < 0x20 ∧ c ∉ ['\x08', '\x0c', '\n', '\r', '\t'] then .unit c.toNat else .char c

theorem written_escaped (c : Char) : Written c (escaped c) (writtenPart c) := by
  unfold escaped
  split
  case h_8 hquote hbackslash hb hf hn hr ht =>
    have hletter : c ∉ ['\x08', '\x0c', '\n', '\r', '\t'] := by
      simpa using ⟨hb, hf, hn, hr, ht⟩
    split
    case isTrue hlt =>
      obtain ⟨x, y, z, w, hdigits, hunit⟩ := codeUnit?_hexadecimal hlt
      rw [hdigits, writtenPart, if_pos ⟨hlt, hletter⟩]
      exact .code hlt hunit
    case isFalse hle =>
      rw [writtenPart, if_neg fun h => hle h.1]
      exact .plain (Nat.le_of_not_lt hle) hquote hbackslash
  all_goals exact .letter rfl

theorem Written.stringRest_append (h : Written c cs part) (rest : List Char) :
    stringRest (cs ++ rest) =
      (stringRest rest).map fun (parts, rest) => (part :: parts, rest) := by
  cases h with
  | @letter e h =>
      have hne : e ≠ 'u' := by
        rintro rfl
        cases h
      rw [List.cons_append, List.cons_append, List.nil_append, stringRest.eq_4, h]
      · cases stringRest rest <;> rfl
      · exact fun _ _ _ _ _ heq => absurd heq hne
  | code hlt h =>
      simp only [List.cons_append, List.nil_append, stringRest, h]
      cases stringRest rest <;> rfl
  | plain hle hquote hbackslash =>
      have hchar : ¬(decide (c.toNat < 0x20) || c == '\\') = true := by
        simp [hbackslash, Nat.not_lt.mpr hle]
      rw [List.cons_append, List.nil_append, stringRest.eq_5, if_neg hchar]
      · exact hquote
      · exact fun _ _ _ _ _ heq => absurd heq hbackslash
      · exact fun _ _ heq => absurd heq hbackslash

theorem Written.partsChars?_cons (h : Written c cs part) (parts : List StringPart) :
    partsChars? (part :: parts) = (partsChars? parts).map (c :: ·) := by
  cases h with
  | letter => rfl
  | code hlt =>
      have hhigh : ¬(0xD800 ≤ c.toNat ∧ c.toNat < 0xDC00) := by omega
      have hlow : ¬(0xDC00 ≤ c.toNat ∧ c.toNat < 0xE000) := by omega
      rw [partsChars?.eq_def]
      simp only [if_neg hhigh, if_neg hlow, Char.ofNat_toNat]
  | plain => rfl

theorem Written.line_feed_not_mem (h : Written c cs part) : '\n' ∉ cs := by
  intro hmem
  cases h with
  | letter h =>
      simp only [List.mem_cons, List.not_mem_nil, or_false] at hmem
      rcases hmem with hmem | rfl
      · exact absurd hmem (by decide)
      · cases h
  | code hlt h =>
      simp only [codeUnit?, Option.bind_eq_bind, Option.bind_eq_some_iff] at h
      obtain ⟨_, hx, _, hy, _, hz, _, hw, -⟩ := h
      simp only [List.mem_cons, List.not_mem_nil, or_false] at hmem
      rcases hmem with hmem | hmem | rfl | rfl | rfl | rfl
      · exact absurd hmem (by decide)
      · exact absurd hmem (by decide)
      · cases hx
      · cases hy
      · cases hz
      · cases hw
  | plain hle =>
      obtain rfl := List.mem_singleton.mp hmem
      exact absurd hle (by decide)

def writtenParts (s : String) : List StringPart :=
  s.toList.map writtenPart

theorem partsString?_writtenParts (s : String) : partsString? (writtenParts s) = some s := by
  have hchars : ∀ cs : List Char, partsChars? (cs.map writtenPart) = some cs := by
    intro cs
    induction cs with
    | nil => rfl
    | cons c cs ih => rw [List.map_cons, (written_escaped c).partsChars?_cons, ih, Option.map_some]
  rw [partsString?, writtenParts, hchars, Option.map_some, String.ofList_toList]

/-- A string ends at its closing quote. -/
theorem stringRest_quoted (s : String) (rest : List Char) :
    stringRest (s.toList.flatMap escaped ++ '"' :: rest) = some (writtenParts s, rest) := by
  rw [writtenParts]
  induction s.toList with
  | nil => rw [List.flatMap_nil, List.nil_append, stringRest]; rfl
  | cons c cs ih =>
      rw [List.flatMap_cons, List.append_assoc, (written_escaped c).stringRest_append, ih]
      rfl

/-! ## Objects -/

/-- The object with these strings as its members. -/
def ofStrings (members : List (String × String)) : Json :=
  .object (members.map fun m => (m.1, .string m.2))

/-- What is read for a string that was written. -/
def writtenTree (s : String) : Tree :=
  .string (writtenParts s)

def writtenMember (m : String × String) : List StringPart × Tree :=
  (writtenParts m.1, writtenTree m.2)

theorem skipSpace_cons (h : isSpace c = false) (cs : List Char) : skipSpace (c :: cs) = c :: cs :=
  List.dropWhile_cons_of_neg (by simp [h])

theorem value?_quotedChars (fuel : Nat) (s : String) (rest : List Char) :
    value? (fuel + 1) (quotedChars s ++ rest) = some (writtenTree s, rest) := by
  have hread := stringRest_quoted s rest
  rw [quotedChars, List.append_assoc, List.cons_append, value?, skipSpace_cons (by decide)]
  simp only [List.singleton_append, hread, Option.map_some, writtenTree]

/-- The characters of a member. -/
def memberChars (m : String × String) : List Char :=
  quotedChars m.1 ++ ':' :: quotedChars m.2

theorem chars_string (s : String) : chars (.string s) = quotedChars s := by
  rw [chars]

theorem membersChars_one (m : String × String) :
    membersChars [(m.1, .string m.2)] = memberChars m ++ ['\x7d'] := by
  simp only [membersChars, chars_string, memberChars, List.append_assoc, List.cons_append]

theorem membersChars_more (m : String × String) (next : String × Json)
    (more : List (String × Json)) :
    membersChars ((m.1, .string m.2) :: next :: more) =
      memberChars m ++ ',' :: membersChars (next :: more) := by
  simp only [membersChars, chars_string, memberChars, List.append_assoc, List.cons_append]

theorem members?_member (fuel : Nat) (m : String × String) (rest : List Char) :
    members? (fuel + 2) (memberChars m ++ rest) =
      match skipSpace rest with
      | '\x7d' :: cs => some ([writtenMember m], cs)
      | ',' :: cs => (members? (fuel + 1) cs).map fun (ms, rest) => (writtenMember m :: ms, rest)
      | _ => none := by
  have hname := stringRest_quoted m.1 (':' :: (quotedChars m.2 ++ rest))
  have hvalue := value?_quotedChars fuel m.2 rest
  have hchars : memberChars m ++ rest =
      '"' :: (m.1.toList.flatMap escaped ++ '"' :: (':' :: (quotedChars m.2 ++ rest))) := by
    simp [memberChars, quotedChars]
  rw [hchars, members?, skipSpace_cons (by decide)]
  simp only [hname, skipSpace_cons (show isSpace ':' = false by decide), hvalue]
  rfl

theorem members?_membersChars {fuel : Nat} (hne : members ≠ []) (hfuel : members.length < fuel)
    (rest : List Char) :
    members? fuel (membersChars (members.map fun m => (m.1, .string m.2)) ++ rest) =
      some (members.map writtenMember, rest) := by
  induction members generalizing fuel with
  | nil => exact absurd rfl hne
  | cons m more ih =>
      obtain ⟨fuel, rfl⟩ : ∃ k, fuel = k + 2 := ⟨fuel - 2, by simp at hfuel; omega⟩
      cases more with
      | nil =>
          rw [List.map_cons, List.map_nil, membersChars_one, List.append_assoc, members?_member,
            List.singleton_append, skipSpace_cons (by decide)]
          rfl
      | cons next more =>
          have hmore := ih (List.cons_ne_nil next more) (Nat.lt_of_succ_lt_succ hfuel)
          rw [List.map_cons, List.map_cons, membersChars_more, List.append_assoc, members?_member,
            List.cons_append, skipSpace_cons (by decide)]
          rw [List.map_cons] at hmore
          simp only [hmore, Option.map_some]
          rfl

theorem exists_membersChars_eq_cons (m : String × String) (more : List (String × String)) :
    ∃ tail, membersChars ((m :: more).map fun m => (m.1, .string m.2)) = '"' :: tail := by
  cases more with
  | nil => exact ⟨_, membersChars_one m⟩
  | cons next more => exact ⟨_, membersChars_more m _ _⟩

theorem length_lt_membersChars (members : List (String × String)) :
    members.length < (membersChars (members.map fun m => (m.1, .string m.2))).length := by
  induction members with
  | nil => exact Nat.succ_pos 0
  | cons m more ih =>
      cases more with
      | nil =>
          rw [List.map_cons, List.map_nil, membersChars_one, memberChars]
          simp only [List.length_append, List.length_cons, List.length_nil]
          omega
      | cons next more =>
          rw [List.map_cons] at ih ⊢
          rw [List.map_cons, membersChars_more]
          simp only [List.length_append, List.length_cons] at ih ⊢
          omega

theorem chars_ofStrings (members : List (String × String)) :
    chars (ofStrings members) =
      '\x7b' :: membersChars (members.map fun m => (m.1, .string m.2)) := by
  rw [ofStrings, chars]

theorem value?_ofStrings {fuel : Nat} (hfuel : members.length < fuel) (rest : List Char) :
    value? (fuel + 1) (chars (ofStrings members) ++ rest) =
      some (.object (members.map writtenMember), rest) := by
  rw [chars_ofStrings, List.cons_append, value?, skipSpace_cons (by decide)]
  cases members with
  | nil => rfl
  | cons m more =>
      obtain ⟨tail, htail⟩ := exists_membersChars_eq_cons m more
      have hread := members?_membersChars (List.cons_ne_nil m more) hfuel rest
      rw [htail, List.cons_append] at hread
      rw [htail, List.cons_append]
      exact congrArg (Option.map fun found => (Tree.object found.1, found.2)) hread

/-- An object of strings is read back. -/
theorem ofText?_ofStrings (members : List (String × String)) :
    Tree.ofText? (ofStrings members).text = some (.object (members.map writtenMember)) := by
  have hlength := length_lt_membersChars members
  have hchars := congrArg List.length (chars_ofStrings members)
  rw [List.length_cons] at hchars
  have hfuel : members.length < 2 * (chars (ofStrings members)).length + 1 := by omega
  have hread := value?_ofStrings hfuel []
  rw [List.append_nil] at hread
  rw [Tree.ofText?, text, String.toList_ofList]
  simp only [hread]
  rfl

theorem string?_writtenTree (s : String) : (writtenTree s).string? = some s :=
  partsString?_writtenParts s

theorem stringOrNull?_writtenTree (s : String) : (writtenTree s).stringOrNull? = some (some s) :=
  congrArg (Option.map some) (string?_writtenTree s)

/-- Members that are known and have distinct names are found under their names. -/
theorem fields?_writtenMember {known : List String} (hknown : ∀ m ∈ members, m.1 ∈ known)
    (hnodup : (members.map Prod.fst).Nodup) :
    fields? known (members.map writtenMember) =
      some (members.map fun m => (m.1, writtenTree m.2)) := by
  induction members with
  | nil => rfl
  | cons m more ih =>
      obtain ⟨hm, hmore⟩ := List.forall_mem_cons.mp hknown
      obtain ⟨hfresh, hnodup⟩ := List.nodup_cons.mp hnodup
      have hnames : m.1 ∉ Association.names (more.map fun m => (m.1, writtenTree m.2)) := by
        simpa [Association.names] using hfresh
      rw [List.map_cons, writtenMember, fields?, partsString?_writtenParts, ih hmore hnodup]
      simp only [if_pos hm, if_neg hnames]
      rfl

/-! ## Values -/

theorem membersDepth_writtenMember (members : List (String × String)) :
    membersDepth (members.map writtenMember) = 0 := by
  induction members with
  | nil => rfl
  | cons m members ih =>
      rw [List.map_cons, writtenMember, membersDepth, ih]
      rfl

/-- Members with new and distinct names are put behind the others in order. -/
theorem membersMeaning?_writtenMember {before : List (String × Json)}
    (hnodup : (members.map Prod.fst).Nodup) (hnew : ∀ m ∈ members, m.1 ∉ Association.names before) :
    membersMeaning? before (members.map writtenMember) =
      some (before ++ members.map fun m => (m.1, .string m.2)) := by
  induction members generalizing before with
  | nil => simp [membersMeaning?]
  | cons m members ih =>
      obtain ⟨hfresh, hnodup⟩ := List.nodup_cons.mp hnodup
      obtain ⟨hm, hnew⟩ := List.forall_mem_cons.mp hnew
      have hvalue : (writtenTree m.2).meaning? = some (.string m.2) := by
        rw [writtenTree, Tree.meaning?, partsString?_writtenParts]
        rfl
      have hrest : ∀ other ∈ members,
          other.1 ∉ Association.names (before ++ [(m.1, .string m.2)]) := by
        intro other hother hmem
        rw [Association.names, List.map_append, List.mem_append] at hmem
        rcases hmem with hmem | hmem
        · exact hnew other hother hmem
        · rw [List.map_singleton, List.mem_singleton] at hmem
          exact hfresh (List.mem_map.mpr ⟨other, hother, hmem⟩)
      rw [List.map_cons, writtenMember, membersMeaning?, partsString?_writtenParts, hvalue]
      simp only [Association.put_of_not_mem hm]
      rw [ih hnodup hrest, List.append_assoc]
      rfl

/-- An object of strings with distinct names is the value of its text. -/
theorem parse?_ofStrings (hnodup : (members.map Prod.fst).Nodup) :
    parse? (ofStrings members).text = some (ofStrings members) := by
  have hdepth : (Tree.object (members.map writtenMember)).depth ≤ maxDepth := by
    rw [Tree.depth, membersDepth_writtenMember]
    decide
  rw [parse?, ofText?_ofStrings, Option.bind_some, Tree.value?, if_pos hdepth, Tree.meaning?,
    membersMeaning?_writtenMember hnodup fun _ _ => List.not_mem_nil]
  rfl

/-! ## Records written field by field -/

/-- What is written behind a field: the others, each behind a comma, and the closing brace. -/
def moreMembers : List (String × Json) → List Char
  | [] => ['\x7d']
  | (name, v) :: ms => ',' :: quotedChars name ++ ':' :: chars v ++ moreMembers ms

theorem membersChars_cons (name : String) (v : Json) (ms : List (String × Json)) :
    membersChars ((name, v) :: ms) = quotedChars name ++ ':' :: chars v ++ moreMembers ms := by
  induction ms generalizing name v with
  | nil => simp only [membersChars, moreMembers]
  | cons m ms ih =>
      rw [membersChars, ih, moreMembers]
      · simp only [List.cons_append, List.append_assoc]
      · exact List.cons_ne_nil m ms

theorem RecordWriter.chars_foldl {w : RecordWriter} (h : w.isFirst = false)
    (ms : List (String × Json)) :
    (ms.foldl (fun w m => w.field m.1 (Json.chars m.2)) w).chars ++ ['\x7d'] =
      w.chars ++ moreMembers ms := by
  induction ms generalizing w with
  | nil => rfl
  | cons m ms ih =>
      rw [List.foldl_cons, ih rfl, field, moreMembers, h]
      simp

/-- A record that is written field by field has the text of the object with its fields. -/
theorem RecordWriter.finish_foldl (ms : List (String × Json)) :
    (ms.foldl (fun w m => w.field m.1 (Json.chars m.2)) start).finish = (Json.object ms).text := by
  rw [finish, text, Json.chars]
  cases ms with
  | nil => rfl
  | cons m ms =>
      rw [List.foldl_cons, chars_foldl rfl, membersChars_cons]
      simp [field, start]

/-! ## Lines -/

theorem line_feed_not_mem_quotedChars (s : String) : '\n' ∉ quotedChars s := by
  intro hmem
  simp only [quotedChars, List.mem_append, List.mem_cons, List.mem_flatMap, List.not_mem_nil,
    or_false] at hmem
  rcases hmem with (hmem | ⟨c, -, hmem⟩) | hmem
  · exact absurd hmem (by decide)
  · exact (written_escaped c).line_feed_not_mem hmem
  · exact absurd hmem (by decide)

theorem line_feed_not_mem_memberChars (m : String × String) : '\n' ∉ memberChars m := by
  simp [memberChars, line_feed_not_mem_quotedChars]

/-- An object of strings stands on one line. -/
theorem line_feed_not_mem_ofStrings (members : List (String × String)) :
    '\n' ∉ chars (ofStrings members) := by
  rw [chars_ofStrings, List.mem_cons, not_or]
  refine ⟨by decide, ?_⟩
  induction members with
  | nil => decide
  | cons m more ih =>
      cases more with
      | nil =>
          rw [List.map_cons, List.map_nil, membersChars_one]
          simp [line_feed_not_mem_memberChars]
      | cons next more =>
          rw [List.map_cons] at ih ⊢
          rw [List.map_cons, membersChars_more]
          simp [line_feed_not_mem_memberChars, ih]

end TableGateway.Json
