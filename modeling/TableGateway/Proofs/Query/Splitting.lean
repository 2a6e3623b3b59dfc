import TableGateway.Proofs.Query.SelectList
import TableGateway.Proofs.Result
import TableGateway.Query.Slicing

/-! # Lists are split at the commas outside of parentheses

Three facts say what the entries of a list are: with commas between them they are the list again,
none of them holds a comma outside of its own parentheses, and there is one more of them than the
list has such commas. They can be cut out as slices, whatever characters the list is made of. -/

namespace TableGateway

/-! ## Slices -/

theorem Text.slice?_append (front part back : String) :
    Text.slice? (front ++ part ++ back) front.utf8ByteSize (front ++ part).utf8ByteSize =
      some part := by
  have hstart : front.rawEndPos.IsValid (front ++ part ++ back) :=
    (String.Pos.Raw.isValid_rawEndPos.append_right part).append_right back
  have hstop : (front ++ part).rawEndPos.IsValid (front ++ part ++ back) :=
    String.Pos.Raw.isValid_rawEndPos.append_right back
  have hle : front.utf8ByteSize ≤ (front ++ part).utf8ByteSize := by
    rw [String.utf8ByteSize_append]
    exact Nat.le_add_right _ _
  have hbytes : ∀ a b c : ByteArray, (a ++ b ++ c).extract a.size (a ++ b).size = b := by
    intro a b c
    rw [ByteArray.append_assoc, ByteArray.size_append, ← Nat.add_zero a.size, Nat.add_assoc,
      ByteArray.extract_append_size_add, Nat.zero_add, ByteArray.extract_append_eq_left rfl]
  rw [Text.slice?, dif_pos ⟨hstart, hstop, hle⟩, Option.some_inj, ← String.toByteArray_inj,
    String.toByteArray_extract]
  exact hbytes front.toByteArray part.toByteArray back.toByteArray

theorem Text.of_slice? {s part : String} {start stop : Nat}
    (h : Text.slice? s start stop = some part) :
    start ≤ stop ∧ (⟨start⟩ : String.Pos.Raw).IsValid s ∧ (⟨stop⟩ : String.Pos.Raw).IsValid s := by
  unfold Text.slice? at h
  split at h
  case isTrue hbounds => exact ⟨hbounds.2.2, hbounds.1, hbounds.2.1⟩
  case isFalse => cases h

/-- A character takes at least one byte. -/
theorem Text.length_le_utf8ByteSize (cs : List Char) :
    cs.length ≤ (String.ofList cs).utf8ByteSize := by
  induction cs with
  | nil => exact Nat.zero_le _
  | cons c cs ih =>
      have hpos := c.utf8Size_pos
      rw [String.ofList_cons, String.utf8ByteSize_append, String.utf8ByteSize_singleton,
        List.length_cons]
      omega

namespace Query

variable {depth : Nat} {c : Char} {cs : List Char} {part : List Char} {parts : List (List Char)}

/-! ## Depth -/

/-- The number of open parentheses behind a character. One that closes where none is open does not
count. -/
def depthBehind (depth : Nat) (c : Char) : Nat :=
  if c = '(' then depth + 1 else if c = ')' then depth - 1 else depth

/-- The number of open parentheses behind a text. -/
def nesting (depth : Nat) (cs : List Char) : Nat :=
  cs.foldl depthBehind depth

/-- How many commas of a text stand outside of all parentheses, those among them that are open in
front of it. -/
def topLevelCommas (depth : Nat) (cs : List Char) : Nat :=
  (List.range cs.length).countP fun k => cs[k]? = some ',' ∧ nesting depth (cs.take k) = 0

theorem topLevelCommas_nil (depth : Nat) : topLevelCommas depth [] = 0 := rfl

theorem topLevelCommas_cons (depth : Nat) (c : Char) (cs : List Char) :
    topLevelCommas depth (c :: cs) =
      (if c = ',' ∧ depth = 0 then 1 else 0) + topLevelCommas (depthBehind depth c) cs := by
  rw [topLevelCommas, List.length_cons, List.range_succ_eq_map, List.countP_cons, List.countP_map,
    Nat.add_comm]
  congr 1
  simp [nesting]

theorem topLevelCommas_append (depth : Nat) (front back : List Char) :
    topLevelCommas depth (front ++ back) =
      topLevelCommas depth front + topLevelCommas (nesting depth front) back := by
  induction front generalizing depth with
  | nil => simp [topLevelCommas_nil, nesting]
  | cons c front ih =>
      rw [List.cons_append, topLevelCommas_cons, topLevelCommas_cons, ih, Nat.add_assoc]
      rfl

/-- Parentheses that are open in front make no comma stand outside that would not without them. -/
theorem topLevelCommas_antitone {other : Nat} (h : depth ≤ other) (cs : List Char) :
    topLevelCommas other cs ≤ topLevelCommas depth cs := by
  induction cs generalizing depth other with
  | nil => exact Nat.le_refl _
  | cons c cs ih =>
      have hbehind : depthBehind depth c ≤ depthBehind other c := by
        simp only [depthBehind]
        split <;> [skip; split] <;> omega
      have hfirst : (if c = ',' ∧ other = 0 then 1 else 0) ≤
          if c = ',' ∧ depth = 0 then 1 else 0 := by
        by_cases hcomma : c = ',' ∧ other = 0
        · have houtside : c = ',' ∧ depth = 0 := ⟨hcomma.1, by omega⟩
          simp only [if_pos hcomma, if_pos houtside, Nat.le_refl]
        · rw [if_neg hcomma]
          exact Nat.zero_le _
      rw [topLevelCommas_cons, topLevelCommas_cons]
      exact Nat.add_le_add hfirst (ih hbehind)

theorem nesting_le (depth : Nat) (cs : List Char) : nesting depth cs ≤ depth + cs.length := by
  induction cs generalizing depth with
  | nil => exact Nat.le_refl _
  | cons c cs ih =>
      have hbehind : depthBehind depth c ≤ depth + 1 := by
        simp only [depthBehind]
        split <;> [skip; split] <;> omega
      have hrest := ih (depthBehind depth c)
      rw [nesting, List.foldl_cons, ← nesting, List.length_cons]
      omega

/-! ## Parts -/

theorem splitChars_comma (cs : List Char) : splitChars 0 (',' :: cs) = [] :: splitChars 0 cs := rfl

theorem splitChars_cons (h : ¬(c = ',' ∧ depth = 0)) :
    splitChars depth (c :: cs) =
      (splitChars (depthBehind depth c) cs).modifyHead (c :: ·) := by
  obtain ⟨part, parts, hparts⟩ :=
    List.exists_cons_of_ne_nil (splitChars_ne_nil (depthBehind depth c) cs)
  rw [splitChars, if_neg h]
  simp only
  rw [← depthBehind, hparts]
  rfl

theorem length_splitChars (depth : Nat) (cs : List Char) :
    (splitChars depth cs).length = topLevelCommas depth cs + 1 := by
  induction cs generalizing depth with
  | nil => rfl
  | cons c cs ih =>
      rw [topLevelCommas_cons]
      by_cases hcomma : c = ',' ∧ depth = 0
      · obtain ⟨rfl, rfl⟩ := hcomma
        rw [splitChars_comma, List.length_cons, ih, if_pos ⟨rfl, rfl⟩, Nat.add_comm 1]
        rfl
      · rw [splitChars_cons hcomma, List.length_modifyHead, ih, if_neg hcomma, Nat.zero_add]

/-- The first part goes on from the depth in front of it, and each of the others starts outside. -/
theorem exists_parts (depth : Nat) (cs : List Char) :
    ∃ part parts, splitChars depth cs = part :: parts ∧ topLevelCommas depth part = 0 ∧
      ∀ other ∈ parts, topLevelCommas 0 other = 0 := by
  induction cs generalizing depth with
  | nil => exact ⟨[], [], rfl, rfl, by simp⟩
  | cons c cs ih =>
      by_cases hcomma : c = ',' ∧ depth = 0
      · obtain ⟨rfl, rfl⟩ := hcomma
        obtain ⟨part, parts, hsplit, hpart, hparts⟩ := ih 0
        refine ⟨[], part :: parts, congrArg ([] :: ·) hsplit, rfl, ?_⟩
        exact List.forall_mem_cons.mpr ⟨hpart, hparts⟩
      · obtain ⟨part, parts, hsplit, hpart, hparts⟩ := ih (depthBehind depth c)
        refine ⟨c :: part, parts, ?_, ?_, hparts⟩
        · rw [splitChars_cons hcomma, hsplit]
          rfl
        · rw [topLevelCommas_cons, if_neg hcomma, hpart]

/-! ## No other parts -/

theorem splitChars_of_unsplit (h : topLevelCommas depth part = 0) :
    splitChars depth part = [part] := by
  have hlength := length_splitChars depth part
  rw [h, Nat.zero_add, List.length_eq_one_iff] at hlength
  obtain ⟨only, honly⟩ := hlength
  have hjoined := intercalate_splitChars depth part
  rw [honly, List.intercalate_singleton] at hjoined
  rw [honly, hjoined]

theorem splitChars_append_comma (hpart : topLevelCommas depth part = 0)
    (hclosed : nesting depth part = 0) (cs : List Char) :
    splitChars depth (part ++ ',' :: cs) = part :: splitChars 0 cs := by
  induction part generalizing depth with
  | nil =>
      rw [nesting, List.foldl_nil] at hclosed
      rw [hclosed]
      rfl
  | cons c part ih =>
      rw [topLevelCommas_cons, Nat.add_eq_zero_iff] at hpart
      have hcomma : ¬(c = ',' ∧ depth = 0) := by simpa using hpart.1
      rw [List.cons_append, splitChars_cons hcomma, ih hpart.2 hclosed]
      rfl

theorem topLevelCommas_append_comma (hpart : topLevelCommas 0 part = 0) (depth : Nat)
    (cs : List Char) :
    topLevelCommas depth (part ++ ',' :: cs) =
      (if nesting depth part = 0 then 1 else 0) + topLevelCommas (nesting depth part) cs := by
  have hfree : topLevelCommas depth part = 0 :=
    Nat.le_zero.mp (hpart ▸ topLevelCommas_antitone (Nat.zero_le depth) part)
  have hbehind : ∀ d, depthBehind d ',' = d := fun _ => rfl
  rw [topLevelCommas_append, hfree, Nat.zero_add, topLevelCommas_cons, hbehind]
  simp only [true_and]

/-- Where parts without commas of their own are joined, no comma but those between them can be
outside of all parentheses. -/
theorem topLevelCommas_intercalate_lt (depth : Nat) (hne : parts ≠ [])
    (h : ∀ part ∈ parts, topLevelCommas 0 part = 0) :
    topLevelCommas depth ([','].intercalate parts) < parts.length := by
  induction parts generalizing depth with
  | nil => exact absurd rfl hne
  | cons part parts ih =>
      obtain ⟨hpart, hparts⟩ := List.forall_mem_cons.mp h
      cases parts with
      | nil =>
          have hle := topLevelCommas_antitone (Nat.zero_le depth) part
          rw [List.intercalate_singleton, List.length_singleton]
          omega
      | cons next rest =>
          have hlt := ih (nesting depth part) (List.cons_ne_nil next rest) hparts
          rw [List.intercalate_cons_cons, List.append_assoc, List.singleton_append,
            topLevelCommas_append_comma hpart, List.length_cons]
          split <;> omega

/-- If as many commas are outside as there are between the parts, each part closes what it opens,
so that the text is split behind each of them. -/
theorem splitChars_intercalate (h : ∀ part ∈ parts, topLevelCommas 0 part = 0)
    (hlength : parts.length = topLevelCommas 0 ([','].intercalate parts) + 1) :
    splitChars 0 ([','].intercalate parts) = parts := by
  induction parts with
  | nil => cases hlength
  | cons part parts ih =>
      obtain ⟨hpart, hparts⟩ := List.forall_mem_cons.mp h
      cases parts with
      | nil => rw [List.intercalate_singleton, splitChars_of_unsplit hpart]
      | cons next rest =>
          have hlt := topLevelCommas_intercalate_lt (nesting 0 part) (List.cons_ne_nil next rest)
            hparts
          rw [List.intercalate_cons_cons, List.append_assoc, List.singleton_append] at hlength ⊢
          rw [topLevelCommas_append_comma hpart, List.length_cons] at hlength
          have hclosed : nesting 0 part = 0 := by
            by_contra hopen
            rw [if_neg hopen] at hlength
            omega
          rw [hclosed, if_pos rfl] at hlength
          rw [splitChars_append_comma hpart hclosed, ih hparts (by omega)]

/-! ## Bounds -/

theorem entryBounds_cons (h : ¬(c = ',' ∧ depth = 0)) (start byte : Nat) (cs : List Char) :
    entryBounds depth start byte (c :: cs) =
      entryBounds (depthBehind depth c) start (byte + c.utf8Size) cs := by
  rw [entryBounds, if_neg h]
  rfl

theorem modifyHead_empty (parts : List (List Char)) :
    parts.modifyHead ("".toList ++ ·) = parts := by
  cases parts <;> rfl

/-- The entry at hand starts behind all that is done and has been read up to some character. -/
theorem slices_entryBounds (done front : String) (depth : Nat) (cs : List Char) {raw : String}
    (hraw : raw = done ++ front ++ String.ofList cs) :
    List.Forall₂ (fun bounds entry => Text.slice? raw bounds.1 bounds.2 = some entry)
      (entryBounds depth done.utf8ByteSize (done ++ front).utf8ByteSize cs)
      (((splitChars depth cs).modifyHead (front.toList ++ ·)).map String.ofList) := by
  induction cs generalizing done front depth with
  | nil =>
      refine .cons ?_ .nil
      simp only [List.append_nil, String.ofList_toList, hraw]
      exact Text.slice?_append done front (String.ofList [])
  | cons c cs ih =>
      by_cases hcomma : c = ',' ∧ depth = 0
      · obtain ⟨rfl, rfl⟩ := hcomma
        have hnext : raw = done ++ front ++ "," ++ "" ++ String.ofList cs := by
          rw [hraw, ← String.toList_inj]
          simp
        have hrest := ih (done ++ front ++ ",") "" 0 hnext
        rw [modifyHead_empty, String.append_empty, String.utf8ByteSize_append] at hrest
        refine .cons ?_ hrest
        simp only [List.append_nil, String.ofList_toList, hraw]
        exact Text.slice?_append done front (String.ofList (',' :: cs))
      · have hnext : raw = done ++ front.push c ++ String.ofList cs := by
          rw [hraw, ← String.toList_inj]
          simp
        have hsize : (done ++ front.push c).utf8ByteSize =
            (done ++ front).utf8ByteSize + c.utf8Size := by
          rw [String.utf8ByteSize_append, String.utf8ByteSize_append, String.utf8ByteSize_push,
            Nat.add_assoc]
        have hhead : ((front.push c).toList ++ ·) = (front.toList ++ ·) ∘ (c :: ·) := by
          funext part
          simp
        have hrest := ih done (front.push c) (depthBehind depth c) hnext
        rw [hhead, ← List.modifyHead_modifyHead, ← splitChars_cons hcomma, hsize,
          ← entryBounds_cons hcomma] at hrest
        exact hrest

/-! ## Lists -/

/-- The entries are the list again with commas between them, none of them holds a comma outside of
its own parentheses, and there is one more of them than the list has such commas. -/
structure IsSplit (raw : String) (entries : List String) : Prop where
  joined : Text.joined "," entries = raw
  unsplit : ∀ entry ∈ entries, topLevelCommas 0 entry.toList = 0
  length_eq : entries.length = topLevelCommas 0 raw.toList + 1

theorem isSplit_splitTopLevel (raw : String) : IsSplit raw (splitTopLevel raw) where
  joined := by
    rw [← String.toList_inj, Text.joined, String.toList_intercalate, splitTopLevel, List.map_map]
    simpa [Function.comp_def] using intercalate_splitChars 0 raw.toList
  unsplit := by
    obtain ⟨part, parts, hsplit, hpart, hparts⟩ := exists_parts 0 raw.toList
    rw [splitTopLevel, hsplit]
    simpa using ⟨hpart, hparts⟩
  length_eq := by rw [splitTopLevel, List.length_map, length_splitChars]

theorem IsSplit.eq_splitTopLevel {raw : String} {entries : List String} (h : IsSplit raw entries) :
    entries = splitTopLevel raw := by
  obtain ⟨rfl, hunsplit, hlength⟩ := h
  have hparts : ∀ part ∈ entries.map String.toList, topLevelCommas 0 part = 0 := by
    simpa using hunsplit
  have hchars : (Text.joined "," entries).toList = [','].intercalate (entries.map String.toList) :=
    String.toList_intercalate
  rw [hchars, ← List.length_map String.toList] at hlength
  rw [splitTopLevel, hchars, splitChars_intercalate hparts hlength, List.map_map]
  simp [Function.comp_def]

theorem sliceTopLevel?_eq (raw : String) : sliceTopLevel? raw = some (splitTopLevel raw) := by
  have hraw : raw = "" ++ "" ++ String.ofList raw.toList := by simp
  have hslices := slices_entryBounds "" "" 0 raw.toList hraw
  rw [modifyHead_empty] at hslices
  exact mapM_eq_some_iff.mpr hslices

theorem of_mem_entryBounds {raw : String} {bounds : Nat × Nat}
    (h : bounds ∈ entryBounds 0 0 0 raw.toList) :
    bounds.1 ≤ bounds.2 ∧ (⟨bounds.1⟩ : String.Pos.Raw).IsValid raw ∧
      (⟨bounds.2⟩ : String.Pos.Raw).IsValid raw := by
  cases hslice : Text.slice? raw bounds.1 bounds.2 with
  | none =>
      have hnone : sliceTopLevel? raw = none := mapM_eq_none_iff.mpr ⟨bounds, h, hslice⟩
      rw [sliceTopLevel?_eq] at hnone
      cases hnone
  | some entry => exact Text.of_slice? hslice

theorem nesting_le_utf8ByteSize {raw : String} {front : List Char} (h : front <+: raw.toList) :
    nesting 0 front ≤ raw.utf8ByteSize :=
  calc nesting 0 front
    _ ≤ front.length := by simpa using nesting_le 0 front
    _ ≤ raw.toList.length := h.length_le
    _ ≤ raw.utf8ByteSize := by simpa using Text.length_le_utf8ByteSize raw.toList

/-- The entries of a list are told by three facts from all other lists of texts. Each of them is a
slice that can be taken, and neither a slice nor the depth gets past the size of the list. -/
theorem splitTopLevel_exact (raw : String) :
    (∀ entries, entries = splitTopLevel raw ↔ IsSplit raw entries) ∧
      sliceTopLevel? raw = some (splitTopLevel raw) ∧
      (∀ bounds ∈ entryBounds 0 0 0 raw.toList,
        bounds.1 ≤ bounds.2 ∧ (⟨bounds.1⟩ : String.Pos.Raw).IsValid raw ∧
          (⟨bounds.2⟩ : String.Pos.Raw).IsValid raw) ∧
      ∀ front, front <+: raw.toList → nesting 0 front ≤ raw.utf8ByteSize := by
  refine ⟨fun entries => ⟨?_, IsSplit.eq_splitTopLevel⟩, sliceTopLevel?_eq raw,
    fun _ => of_mem_entryBounds, fun _ => nesting_le_utf8ByteSize⟩
  rintro rfl
  exact isSplit_splitTopLevel raw

/-- A list with a parenthesis that closes too early and one that stays open, and with characters of
two and of three bytes. -/
theorem splitTopLevel_exact_unbalanced :
    splitTopLevel "a),é(b,c),,€(d,e" = ["a)", "é(b,c)", "", "€(d,e"] ∧
      sliceTopLevel? "a),é(b,c),,€(d,e" = some ["a)", "é(b,c)", "", "€(d,e"] ∧
      (∀ bounds ∈ [(0, 2), (3, 10), (11, 11), (12, 19)],
        (⟨bounds.1⟩ : String.Pos.Raw).IsValid "a),é(b,c),,€(d,e" ∧
          (⟨bounds.2⟩ : String.Pos.Raw).IsValid "a),é(b,c),,€(d,e") ∧
      nesting 0 "a),é(".toList ≤ "a),é(b,c),,€(d,e".utf8ByteSize := by
  obtain ⟨hsplit, hslices, hbounds, hdepth⟩ := splitTopLevel_exact "a),é(b,c),,€(d,e"
  have hentries : ["a)", "é(b,c)", "", "€(d,e"] = splitTopLevel "a),é(b,c),,€(d,e" :=
    (hsplit _).mpr ⟨by decide, by decide, by decide⟩
  refine ⟨hentries.symm, hentries ▸ hslices, fun bounds h => (hbounds bounds ?_).2,
    hdepth _ ⟨"b,c),,€(d,e".toList, by decide⟩⟩
  have hlist : entryBounds 0 0 0 "a),é(b,c),,€(d,e".toList =
      [(0, 2), (3, 10), (11, 11), (12, 19)] := by decide
  rwa [hlist]

end Query

end TableGateway
