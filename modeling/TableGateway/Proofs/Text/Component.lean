import TableGateway.Proofs.Result
import TableGateway.Text.Percent

/-! # Components of addresses

A component holds characters of its kind, which stand for themselves, and escapes. It is as long as
its text only where it has no escapes. -/

namespace TableGateway.Text

/-! ## Decoded bytes -/

namespace Utf8

theorem length_start (b : Nat) : (start b).1.length + (start b).2.toList.length = 1 := by
  unfold start
  split <;> rfl

theorem length_step_le (pending : Option Lead) (b : Nat) :
    (step pending b).1.length + (step pending b).2.toList.length ≤ pending.toList.length + 1 := by
  have hstart := length_start b
  fun_cases step pending b with
  | case1 => omega
  | case2 => omega
  | case3 => exact Nat.le_succ 1
  | case4 => exact Nat.le_succ 1
  | case5 bits least greatest behind houtside found pending hfound =>
      rw [hfound] at hstart
      change found.length + pending.toList.length = 1 at hstart
      change found.length + 1 + pending.toList.length ≤ 2
      omega

/-- No more characters come of bytes than there are bytes. -/
theorem length_decode_le (pending : Option Lead) (bytes : List UInt8) :
    (decode pending bytes).length ≤ pending.toList.length + bytes.length := by
  induction bytes generalizing pending with
  | nil => simp [decode]
  | cons b bytes ih =>
      have hstep := length_step_le pending b.toNat
      have hrest := ih (step pending b.toNat).2
      simp only [decode, List.length_append, List.length_cons]
      omega

theorem step_none_ascii {b : Nat} (h : b < 0x80) : step none b = ([some (Char.ofNat b)], none) := by
  simp [step, start, lead?, h]

theorem decode_ascii {cs : List Char} (h : ∀ c ∈ cs, c.toNat < 0x80) :
    decode none (cs.map fun c => UInt8.ofNat c.toNat) = cs.map some := by
  induction cs with
  | nil => rfl
  | cons c cs ih =>
      obtain ⟨hc, hcs⟩ := List.forall_mem_cons.mp h
      have hbyte : (UInt8.ofNat c.toNat).toNat = c.toNat := by
        rw [UInt8.toNat_ofNat']
        omega
      rw [List.map_cons, decode, hbyte, step_none_ascii hc, Char.ofNat_toNat]
      exact congrArg (some c :: ·) (ih hcs)

theorem length_of_text? {bytes : List UInt8} {t : String} (h : text? bytes = some t) :
    t.toList.length ≤ bytes.length := by
  obtain ⟨cs, hcs, rfl⟩ := Option.map_eq_some_iff.mp h
  have hdecode := length_decode_le none bytes
  rw [String.toList_ofList, ← (mapM_eq_some_iff.mp hcs).length_eq]
  simpa using hdecode

theorem text?_ascii {cs : List Char} (h : ∀ c ∈ cs, c.toNat < 0x80) :
    text? (cs.map fun c => UInt8.ofNat c.toNat) = some (String.ofList cs) := by
  have hchars : (cs.map some).mapM id = some cs := by
    rw [mapM_eq_some_iff, List.forall₂_map_left_iff, List.forall₂_same]
    exact fun c _ => rfl
  rw [text?, decode_ascii h, hchars, Option.map_some]

end Utf8

/-! ## Kinds of characters -/

/-- The characters that stand for themselves wherever a name may stand. -/
def isNameChar (c : Char) : Bool :=
  c.isAlphanum || c ∈ ['-', '.', '_', '~', '!', '$', '&', '\'', '(', ')', '*', '+', ',', ';', '=']

/-- A password may hold what ends a name in front of it. -/
def isPasswordChar (c : Char) : Bool :=
  isNameChar c || c = ':'

/-- A path may hold more than a password, slashes among it. -/
def isPathChar (c : Char) : Bool :=
  isPasswordChar c || c ∈ ['@', '/']

theorem isPathChar_of_isPasswordChar {c : Char} (h : isPasswordChar c = true) :
    isPathChar c = true :=
  Bool.or_eq_true_iff.mpr (.inl h)

theorem isPasswordChar_of_isNameChar {c : Char} (h : isNameChar c = true) :
    isPasswordChar c = true :=
  Bool.or_eq_true_iff.mpr (.inl h)

theorem toNat_lt_of_isAlphanum {c : Char} (h : c.isAlphanum = true) : c.toNat < 0x80 := by
  have hbound : ∀ high : UInt32, c.val ≤ high → high.toNat < 0x80 → c.toNat < 0x80 :=
    fun _ hle hhigh => Nat.lt_of_le_of_lt (UInt32.le_iff_toNat_le.mp hle) hhigh
  rcases Bool.or_eq_true_iff.mp h with hletter | hdigit
  · rcases Bool.or_eq_true_iff.mp hletter with hupper | hlower
    · have hrange : c.val ≥ 'A'.val ∧ c.val ≤ 'Z'.val := of_decide_eq_true hupper
      exact hbound _ hrange.2 (by decide)
    · have hle : c.val ≤ 'z'.val := of_decide_eq_true (Bool.and_eq_true_iff.mp hlower).2
      exact hbound _ hle (by decide)
  · have hle : c.val ≤ '9'.val := of_decide_eq_true (Bool.and_eq_true_iff.mp hdigit).2
    exact hbound _ hle (by decide)

theorem toNat_lt_of_mem {marks : List Char} {c : Char}
    (h : marks.all (fun c => decide (c.toNat < 0x80)) = true) (hc : c ∈ marks) :
    c.toNat < 0x80 :=
  of_decide_eq_true (List.all_eq_true.mp h c hc)

theorem toNat_lt_of_isPathChar {c : Char} (h : isPathChar c = true) : c.toNat < 0x80 := by
  simp only [isPathChar, isPasswordChar, isNameChar, Bool.or_eq_true, decide_eq_true_eq] at h
  obtain ((halphanum | hmark) | rfl) | hmark := h
  · exact toNat_lt_of_isAlphanum halphanum
  · exact toNat_lt_of_mem (by decide) hmark
  · decide
  · exact toNat_lt_of_mem (by decide) hmark

theorem ne_percent_of_isPathChar {c : Char} (h : isPathChar c = true) : c ≠ '%' := by
  rintro rfl
  exact absurd h (by decide)

/-! ## Components -/

/-- The characters of a component. -/
def isComponent (allowed : Char → Bool) : List Char → Bool
  | [] => true
  | '%' :: a :: b :: cs =>
      (Json.hexDigit? a).isSome && (Json.hexDigit? b).isSome && isComponent allowed cs
  | c :: cs => allowed c && isComponent allowed cs

/-- The text of a component. -/
def component? (allowed : Char → Bool) (s : String) : Option String :=
  if isComponent allowed s.toList then Percent.pathText? s else none

section Component

variable {allowed : Char → Bool} {cs : List Char} {raw t : String}

theorem utf8EncodeChar_ascii {c : Char} (h : c.toNat < 0x80) :
    String.utf8EncodeChar c = [UInt8.ofNat c.toNat] := by
  have hsize : c.utf8Size = 1 := Char.utf8Size_eq_one_iff.mpr (UInt32.le_iff_toNat_le.mpr (by
    change c.toNat ≤ 127
    omega))
  exact String.utf8EncodeChar_eq_singleton hsize

theorem bytes_cons {c : Char} (h : c ≠ '%') :
    Percent.bytes (c :: cs) = String.utf8EncodeChar c ++ Percent.bytes cs := by
  rw [Percent.bytes]
  intro a b rest hc
  exact absurd hc h

theorem isComponent_cons {c : Char} (h : c ≠ '%') :
    isComponent allowed (c :: cs) = (allowed c && isComponent allowed cs) := by
  rw [isComponent]
  intro a b rest hc
  exact absurd hc h

/-- Characters of the kind stand for themselves. -/
theorem bytes_of_allowed (h : ∀ c ∈ cs, isPathChar c = true) :
    Percent.bytes cs = cs.map fun c => UInt8.ofNat c.toNat := by
  induction cs with
  | nil => rfl
  | cons c cs ih =>
      obtain ⟨hc, hcs⟩ := List.forall_mem_cons.mp h
      rw [bytes_cons (ne_percent_of_isPathChar hc), ih hcs,
        utf8EncodeChar_ascii (toNat_lt_of_isPathChar hc)]
      rfl

theorem isComponent_of_allowed (h : ∀ c ∈ cs, allowed c = true ∧ c ≠ '%') :
    isComponent allowed cs = true := by
  induction cs with
  | nil => rfl
  | cons c cs ih =>
      obtain ⟨hc, hcs⟩ := List.forall_mem_cons.mp h
      rw [isComponent_cons hc.2, hc.1, ih hcs]
      rfl

theorem bytes_escape {a b : Char} (cs : List Char) (ha : (Json.hexDigit? a).isSome = true)
    (hb : (Json.hexDigit? b).isSome = true) :
    (Percent.bytes ('%' :: a :: b :: cs)).length = (Percent.bytes cs).length + 1 := by
  obtain ⟨high, hhigh⟩ := Option.isSome_iff_exists.mp ha
  obtain ⟨low, hlow⟩ := Option.isSome_iff_exists.mp hb
  rw [Percent.bytes, hhigh, hlow]
  rfl

/-- Escapes are what makes a component longer than its bytes. -/
theorem length_bytes_le (hallowed : ∀ c, allowed c = true → isPathChar c = true)
    (h : isComponent allowed cs = true) :
    (Percent.bytes cs).length ≤ cs.length ∧
      (cs.length ≤ (Percent.bytes cs).length → ∀ c ∈ cs, allowed c = true) := by
  fun_induction isComponent allowed cs with
  | case1 => exact ⟨Nat.le_refl 0, fun _ _ => nofun⟩
  | case2 a b cs ih =>
      simp only [Bool.and_eq_true] at h
      have hbytes := bytes_escape cs h.1.1 h.1.2
      have hrest := (ih h.2).1
      simp only [List.length_cons]
      constructor
      · omega
      · intro hle
        omega
  | case3 c cs hescape ih =>
      rw [Bool.and_eq_true] at h
      have hc := hallowed c h.1
      obtain ⟨hle, hall⟩ := ih h.2
      rw [bytes_cons (ne_percent_of_isPathChar hc),
        utf8EncodeChar_ascii (toNat_lt_of_isPathChar hc)]
      simp only [List.length_cons, List.singleton_append]
      refine ⟨Nat.succ_le_succ hle, fun hge => List.forall_mem_cons.mpr ⟨h.1, hall ?_⟩⟩
      omega

theorem component?_of_allowed (hallowed : ∀ c, allowed c = true → isPathChar c = true)
    (h : ∀ c ∈ t.toList, allowed c = true) : component? allowed t = some t := by
  have hpath c (hc : c ∈ t.toList) := hallowed c (h c hc)
  have hcomponent : isComponent allowed t.toList = true :=
    isComponent_of_allowed fun c hc => ⟨h c hc, ne_percent_of_isPathChar (hpath c hc)⟩
  rw [component?, if_pos hcomponent, Percent.pathText?, bytes_of_allowed hpath,
    Utf8.text?_ascii fun c hc => toNat_lt_of_isPathChar (hpath c hc), String.ofList_toList]

/-- A component is never shorter than its text, and without escapes it is its text. -/
theorem length_component? (hallowed : ∀ c, allowed c = true → isPathChar c = true)
    (h : component? allowed raw = some t) :
    t.toList.length ≤ raw.toList.length ∧
      (raw.toList.length ≤ t.toList.length → raw = t ∧ ∀ c ∈ t.toList, allowed c = true) := by
  obtain ⟨hcomponent, htext⟩ := Option.ite_none_right_eq_some.mp h
  obtain ⟨hbytes, hall⟩ := length_bytes_le hallowed hcomponent
  have hlength := Utf8.length_of_text? htext
  refine ⟨Nat.le_trans hlength hbytes, fun hle => ?_⟩
  have hraw := hall (Nat.le_trans hle hlength)
  obtain rfl : raw = t := Option.some.inj ((component?_of_allowed hallowed hraw).symm.trans h)
  exact ⟨rfl, hraw⟩

/-- Where the text of a component stands in its place in front of a mark that the component does
not hold, the component is the text. -/
theorem component?_in_place {mark : Char} {x y : List Char}
    (hallowed : ∀ c, allowed c = true → isPathChar c = true)
    (h : component? allowed raw = some t) (hmark : mark ∉ raw.toList)
    (heq : raw.toList ++ y = t.toList ++ mark :: x) :
    raw = t ∧ ∀ c ∈ t.toList, allowed c = true := by
  obtain ⟨hle, hplain⟩ := length_component? hallowed h
  refine hplain (Nat.le_of_not_lt fun hlt => hmark ?_)
  obtain ⟨z, hz, -⟩ | ⟨z, hz, hrest⟩ := List.append_eq_append_iff.mp heq
  · rw [hz, List.length_append] at hlt
    omega
  · cases z with
    | nil => simp [hz] at hlt
    | cons c z =>
        obtain ⟨rfl, -⟩ := List.cons.inj hrest
        rw [hz]
        simp

end Component

end TableGateway.Text
