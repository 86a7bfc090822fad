/-
What an input method makes of a text (`apply_input_method`): the composing range, or the selection, gives way to what is
committed and to the preedit, and what lies around it loses the bytes asked for.
-/
import Deniald.Flutter.Scalars
import Deniald.Lib.Boundary

namespace Deniald.Flutter

open Deniald.Lib Deniald.InputMethod

/-! ## Offsets -/

theorem utf16OffsetToUtf8_iff {text : List Char} {off bytes : Nat} :
    utf16OffsetToUtf8 (encodeUtf16 text) off = some bytes ↔
      ∃ before after, text = before ++ after ∧ off = (encodeUtf16 before).length ∧ bytes = utf8Length before := by
  unfold utf16OffsetToUtf8
  constructor
  · intro h; split at h
    · cases h
    rename_i hv; rw [Bool.not_eq_true', Bool.not_eq_false] at hv
    obtain ⟨count, hn, rfl⟩ := TextInputModel.exists_scalar hv
    rw [take_encodeUtf16, decode_encodeUtf16, Option.map_some] at h
    exact ⟨text.take count, text.drop count, (List.take_append_drop count text).symm, rfl, (Option.some.inj h).symm⟩
  · rintro ⟨before, after, rfl, rfl, rfl⟩
    have ho : (encodeUtf16 before).length = utf16Offset (before ++ after) before.length := by
      unfold utf16Offset; rw [List.take_left]
    have hv : validSelectionBoundary (encodeUtf16 (before ++ after)) (encodeUtf16 before).length = true := by
      rw [ho]; exact TextInputModel.valid_utf16Offset (by simp)
    rw [hv, if_neg (by simp), encodeUtf16_append, List.take_left, decode_encodeUtf16]; rfl

theorem exists_units_range {text : List Char} {start stop sb sby : Nat}
    (hs : utf16OffsetToUtf8 (encodeUtf16 text) start = some sb)
    (hst : utf16OffsetToUtf8 (encodeUtf16 text) stop = some sby) (hle : start ≤ stop) :
    ∃ before range after, text = before ++ range ++ after ∧ start = (encodeUtf16 before).length ∧
      stop = (encodeUtf16 (before ++ range)).length ∧ sb = utf8Length before ∧ sby = utf8Length (before ++ range) := by
  obtain ⟨upto, after, rfl, rfl, rfl⟩ := utf16OffsetToUtf8_iff.1 hst
  obtain ⟨before, rest, hsp, rfl, rfl⟩ := utf16OffsetToUtf8_iff.1 hs
  rcases List.append_eq_append_iff.1 hsp with ⟨range, rfl, rfl⟩ | ⟨range, rfl, rfl⟩
  · rw [encodeUtf16_append, List.length_append] at hle
    have hr : range = [] := by
      cases range with
      | nil => rfl
      | cons c range =>
        rw [encodeUtf16_cons, List.length_append] at hle
        rcases length_utf16 c with h | h <;> omega
    subst hr
    exact ⟨upto, [], rest, by simp, by simp, by simp, by simp, by simp⟩
  · exact ⟨before, range, after, rfl, rfl, rfl, rfl, rfl⟩

theorem utf8OffsetToUtf16_append (before after : List Char) :
    utf8OffsetToUtf16 (before ++ after) (utf8Length before) = some (encodeUtf16 before).length := by
  unfold utf8OffsetToUtf16
  have hle : ¬utf8Length (before ++ after) < utf8Length before := by
    rw [utf8Length_append]; omega
  rw [isCharBoundary_append, decide_eq_false hle, if_neg (by simp), takeBytes_append]

namespace TextInputModel

/-! ## The target -/

def targetRange (m : TextInputModel) : Nat × Nat :=
  match m.composing with
  | some (base, extent) => (min base extent, max base extent)
  | none => (m.selectionStart, m.selectionEnd)

/-- The characters of that range and those around it. -/
structure Targets (m : TextInputModel) (before target after : List Char) : Prop where
  text : m.text = encodeUtf16 (before ++ target ++ after)
  start : m.targetRange.1 = (encodeUtf16 before).length
  stop : m.targetRange.2 = (encodeUtf16 (before ++ target)).length

theorem targetRange_le (m : TextInputModel) : m.targetRange.1 ≤ m.targetRange.2 := by
  unfold targetRange
  split <;> exact Nat.le_trans (Nat.min_le_left ..) (Nat.le_max_left ..)

def Replaces (m : TextInputModel) (hasRequest : Bool) : Prop := hasRequest = true ∨ m.composing.isSome = true

variable {hasRequest : Bool} {after back before front kept kept' lost lost' text : List Char} {cursor : Nat}

theorem inputMethodTarget_eq (m : TextInputModel) (hr : m.Replaces hasRequest) (text : List Char) :
    m.inputMethodTarget hasRequest text = (utf16OffsetToUtf8 m.text m.targetRange.1).bind fun start =>
        (utf16OffsetToUtf8 m.text m.targetRange.2).bind fun stop =>
          some (if m.composing.isSome ∨ start ≠ stop then replaceRange text start stop [] else text, start) := by
  unfold inputMethodTarget targetRange
  cases hm : m.composing with
  | some range => simp
  | none =>
    have hre : hasRequest = true := hr.resolve_right (by simp [hm])
    subst hre; simp [selectionStart, selectionEnd]

theorem take_out (before target after : List Char) (c : Prop) [Decidable c] :
    (if c ∨ utf8Length before ≠ utf8Length (before ++ target) then
      replaceRange (before ++ target ++ after) (utf8Length before) (utf8Length (before ++ target)) []
    else before ++ target ++ after) = before ++ after := by
  rw [replaceRange_append, List.append_nil]; split
  · rfl
  rename_i h
  -- nothing is selected
  rw [not_or, not_not, utf8Length_append] at h
  rw [eq_nil_of_utf8Length (by omega : utf8Length target = 0), List.append_nil]

variable {m m' : TextInputModel} {first last target : List Char} {transaction : InputMethodTransaction}
  {preedit : String × Int × Int}

theorem Targets.inputMethodTarget (h : m.Targets before target after) (hr : m.Replaces hasRequest) :
    m.inputMethodTarget hasRequest (before ++ target ++ after) = some (before ++ after, utf8Length before) := by
  have hs : utf16OffsetToUtf8 m.text m.targetRange.1 = some (utf8Length before) := by
    rw [h.text]
    exact utf16OffsetToUtf8_iff.2 ⟨before, target ++ after, List.append_assoc .., h.start, rfl⟩
  have hst : utf16OffsetToUtf8 m.text m.targetRange.2 = some (utf8Length (before ++ target)) := by
    rw [h.text]
    exact utf16OffsetToUtf8_iff.2 ⟨before ++ target, after, rfl, h.stop, rfl⟩
  rw [inputMethodTarget_eq m hr, hs, hst]
  exact congrArg some (Prod.ext (take_out before target after _) rfl)

theorem exists_targets {rest : List Char} (hte : m.text = encodeUtf16 text) (hr : m.Replaces hasRequest)
    (h : m.inputMethodTarget hasRequest text = some (rest, cursor)) :
    ∃ before target after, text = before ++ target ++ after ∧ m.Targets before target after := by
  rw [inputMethodTarget_eq m hr] at h
  obtain ⟨start, hs, h⟩ := Option.bind_eq_some_iff.1 h
  obtain ⟨stop, hst, -⟩ := Option.bind_eq_some_iff.1 h
  rw [hte] at hs hst
  obtain ⟨before, target, after, rfl, hf, hta, -, -⟩ := exists_units_range hs hst m.targetRange_le
  exact ⟨before, target, after, rfl, hte, hf, hta⟩

/-! ## The stages of an edit -/

/-- The bytes a transaction deletes before and behind the target. -/
def surrounding (deletion : Option (UInt32 × UInt32)) : Nat × Nat :=
  match deletion with
  | none => (0, 0)
  | some (before, after) => (before.toNat, after.toNat)

theorem exists_of_deleteSurrounding {d : Option (UInt32 × UInt32)}
    (h : deleteSurrounding (before ++ after) (utf8Length before) d = some (text, cursor)) :
    ∃ kept lost lost' kept', before = kept ++ lost ∧ after = lost' ++ kept' ∧
      utf8Length lost = (surrounding d).1 ∧ utf8Length lost' = (surrounding d).2 ∧
      text = kept ++ kept' ∧ cursor = utf8Length kept := by
  unfold deleteSurrounding at h; split at h
  · cases h
    exact ⟨before, [], [], after, by simp, rfl, rfl, rfl, rfl, rfl⟩
  rename_i pre post; split at h
  · cases h
  · rename_i hbe; dsimp only at h; split at h
    · cases h
    rename_i hf
    rw [Bool.or_eq_true, Bool.or_eq_true, not_or, not_or, decide_eq_true_eq, Bool.not_eq_true', Bool.not_eq_true',
      Bool.not_eq_false, Bool.not_eq_false] at hf
    obtain ⟨⟨-, hst⟩, hs⟩ := hf
    have hr := isCharBoundary_append before after
    -- the cursor lies between the two boundaries
    obtain ⟨kept, lost, rest, hsp, hk, hlo⟩ := exists_range hst hr (Nat.sub_le _ _)
    obtain ⟨upto, lost', kept', hs', hu, hl'⟩ := exists_range hr hs (Nat.le_add_right _ _)
    obtain ⟨rfl, -⟩ := append_inj_of_utf8Length hsp hlo.symm; rw [List.append_assoc upto] at hs'
    obtain ⟨rfl, rfl⟩ := append_inj_of_utf8Length hs' hu.symm
    obtain ⟨rfl, rfl⟩ := Prod.mk.inj (Option.some.inj h)
    have hlen := utf8Length_append kept lost; rw [utf8Length_append] at hl'
    refine ⟨kept, lost, lost', kept', rfl, rfl, ?_, ?_, ?_, hk.symm⟩
    · show _ = pre.toNat; omega
    · show _ = post.toNat; omega
    · have hre := replaceRange_append kept (lost ++ lost') kept' []
      have hs : utf8Length (kept ++ (lost ++ lost')) = utf8Length (kept ++ lost) + post.toNat := by
        rw [← List.append_assoc, utf8Length_append (kept ++ lost)]; omega
      rw [hs, hk, List.append_nil] at hre
      rw [← hre]; simp

def committed (commit : Option String) : List Char := (commit.map String.toList).getD []

theorem commitString_eq {commit : Option String}
    (h : commitString (front ++ back) (utf8Length front) commit = some (text, cursor)) :
    text = (front ++ committed commit) ++ back ∧ cursor = utf8Length (front ++ committed commit) := by
  unfold commitString at h
  cases commit with
  | none =>
    cases h; simp [committed]
  | some commit =>
    dsimp only at h; split at h
    · cases h
    · obtain ⟨rfl, rfl⟩ := Prod.mk.inj (Option.some.inj h)
      rw [replaceRange_insert, utf8Length_append]; exact ⟨rfl, rfl⟩

/-- What a transaction shows before it is committed. -/
def shown (preedit : Option (String × Int × Int)) : List Char := (preedit.map (·.1.toList)).getD []

/-- Where a transaction puts its selection: at two boundaries of the preedit, or behind it. -/
def SelectsIn (preedit : Option (String × Int × Int)) (first last : List Char) : Prop :=
  match preedit with
  | none => first = [] ∧ last = []
  | some (_, cursorBegin, cursorEnd) =>
    if 0 ≤ cursorBegin ∨ 0 ≤ cursorEnd then
      cursorBegin = utf8Length first ∧ cursorEnd = utf8Length last
    else cursorBegin = -1 ∧ cursorEnd = -1 ∧ first = shown preedit ∧ last = shown preedit

theorem preeditString_eq {preedit : Option (String × Int × Int)} {e : Preedit}
    (h : preeditString (front ++ back) (utf8Length front) preedit = some e) :
    ∃ first last, first <+: shown preedit ∧ last <+: shown preedit ∧ SelectsIn preedit first last ∧
      e = ⟨front ++ shown preedit ++ back, utf8Length (front ++ first), utf8Length (front ++ last),
        if (shown preedit).isEmpty then none else some (utf8Length front, utf8Length (front ++ shown preedit))⟩ := by
  unfold preeditString at h; split at h
  · cases h
    exact ⟨[], [], List.nil_prefix, List.nil_prefix, ⟨rfl, rfl⟩, by simp [shown]⟩
  rename_i text cb ce
  show ∃ first last, first <+: text.toList ∧ last <+: text.toList ∧ _ ∧ _; dsimp only at h
  split at h
  · cases h
  rw [replaceRange_insert, ← utf8Length_append] at h; split at h
  · rename_i hv; split at h
    · cases h
    · rename_i hsi; split at h
      · cases h
      · rename_i hr
        simp only [Bool.or_eq_true, not_or, decide_eq_true_eq, Bool.not_eq_true', Bool.not_eq_false] at hv hsi hr
        obtain ⟨⟨-, hbe⟩, he⟩ := hr
        obtain ⟨first, back', hf, hfl⟩ := isCharBoundary_iff.1 hbe
        obtain ⟨last, back'', hs, hll⟩ := isCharBoundary_iff.1 he; cases h
        refine ⟨first, last, ⟨back', hf.symm⟩, ⟨back'', hs.symm⟩, ?_, ?_⟩
        · show if 0 ≤ cb ∨ 0 ≤ ce then _ else _
          rw [if_pos hv, hfl, hll]; omega
        · rw [utf8Length_append front first, utf8Length_append front last, hfl, hll]; rfl
  · rename_i hv; split at h
    · rename_i hn
      simp only [Bool.or_eq_true, decide_eq_true_eq, Bool.and_eq_true] at hv hn; cases h
      refine ⟨text.toList, text.toList, List.prefix_refl _, List.prefix_refl _, ?_, rfl⟩
      show if 0 ≤ cb ∨ 0 ≤ ce then _ else _
      rw [if_neg hv]; exact ⟨hn.1, hn.2, rfl, rfl⟩
    · cases h

/-! ## Edits -/

/-- A transaction that asks for anything. -/
def requests (transaction : InputMethodTransaction) : Bool :=
  transaction.commitString.isSome || transaction.preeditString.isSome || transaction.deleteSurrounding.isSome

theorem Targets.inputMethodEdit (h : m.Targets before target after) (hr : m.Replaces (requests transaction)) :
    m.inputMethodEdit transaction =
      (deleteSurrounding (before ++ after) (utf8Length before) transaction.deleteSurrounding).bind fun d =>
        (commitString d.1 d.2 transaction.commitString).bind fun inserted =>
          (preeditString inserted.1 inserted.2 transaction.preeditString).bind m.adopt := by
  have hs : ¬(!requests transaction && m.composing.isNone) = true := by
    rw [Bool.and_eq_true, Bool.not_eq_true', Option.isNone_iff_eq_none]
    rintro ⟨hre, hn⟩
    rcases hr with h | h
    · rw [hre] at h; cases h
    · rw [hn] at h; cases h
  have hd : decodeUtf16 m.text = some (before ++ target ++ after) := by rw [h.text, decode_encodeUtf16]
  unfold TextInputModel.inputMethodEdit; dsimp only
  refine (if_neg hs).trans ?_; rw [hd]
  show (m.inputMethodTarget (requests transaction) (before ++ target ++ after)).bind _ = _
  rw [h.inputMethodTarget hr]; rfl

theorem exists_targets_of_edit (h : m.inputMethodEdit transaction = some m') :
    m.Replaces (requests transaction) ∧ ∃ before target after, m.Targets before target after := by
  unfold TextInputModel.inputMethodEdit at h; dsimp only at h
  split at h
  · cases h
  rename_i hs
  have hr : m.Replaces (requests transaction) := by
    unfold Replaces
    cases hre : requests transaction with
    | true => exact .inl rfl
    | false =>
      refine .inr (Option.isSome_iff_ne_none.2 fun hn => hs ?_); rw [hn]
      show (!requests transaction && _) = true
      rw [hre]; rfl
  obtain ⟨text, hd, h⟩ := Option.bind_eq_some_iff.1 h
  obtain ⟨⟨rest, cursor⟩, htr, -⟩ := Option.bind_eq_some_iff.1 h
  obtain ⟨before, target, after, -, hta⟩ := exists_targets (encode_of_decode _ hd) hr htr
  exact ⟨hr, before, target, after, hta⟩

/-- An edited text is the one before without its target and what is deleted around it, with what is committed and the
preedit in their place. -/
structure Spliced (m : TextInputModel) (transaction : InputMethodTransaction) (m' : TextInputModel)
    (kept lost target lost' kept' first last : List Char) : Prop where
  targets : m.Targets (kept ++ lost) target (lost' ++ kept')
  deletedBefore : utf8Length lost = (surrounding transaction.deleteSurrounding).1
  deletedAfter : utf8Length lost' = (surrounding transaction.deleteSurrounding).2
  text : m'.text = encodeUtf16 (kept ++ committed transaction.commitString ++ shown transaction.preeditString ++ kept')
  composing : m'.composing = if (shown transaction.preeditString).isEmpty then none else
    some ((encodeUtf16 (kept ++ committed transaction.commitString)).length,
      (encodeUtf16 (kept ++ committed transaction.commitString ++ shown transaction.preeditString)).length)
  selectionBase : m'.selectionBase = (encodeUtf16 (kept ++ committed transaction.commitString ++ first)).length
  selectionExtent : m'.selectionExtent = (encodeUtf16 (kept ++ committed transaction.commitString ++ last)).length
  firstInside : first <+: shown transaction.preeditString
  lastInside : last <+: shown transaction.preeditString
  selects : SelectsIn transaction.preeditString first last
  scratch : m'.replacementScratch = m.replacementScratch
  length : m'.text.length ≤ maxTextUtf16Units

theorem adopt_eq {preedit : List Char} (hf : first <+: preedit) (hla : last <+: preedit)
    (h : m.adopt ⟨front ++ preedit ++ back, utf8Length (front ++ first), utf8Length (front ++ last),
      if preedit.isEmpty then none else some (utf8Length front, utf8Length (front ++ preedit))⟩ = some m') :
    m'.text = encodeUtf16 (front ++ preedit ++ back) ∧ m'.composing = (if preedit.isEmpty then none else
        some ((encodeUtf16 front).length, (encodeUtf16 (front ++ preedit)).length)) ∧
      m'.selectionBase = (encodeUtf16 (front ++ first)).length ∧
      m'.selectionExtent = (encodeUtf16 (front ++ last)).length ∧ m'.replacementScratch = m.replacementScratch ∧
      m'.text.length ≤ maxTextUtf16Units := by
  have ho : ∀ {part : List Char}, part <+: preedit →
      utf8OffsetToUtf16 (front ++ preedit ++ back) (utf8Length (front ++ part)) =
        some (encodeUtf16 (front ++ part)).length := by
    rintro part ⟨rest, rfl⟩
    have hsp : front ++ (part ++ rest) ++ back = (front ++ part) ++ (rest ++ back) := by simp
    rw [hsp]; exact utf8OffsetToUtf16_append ..
  have hs : utf8OffsetToUtf16 (front ++ preedit ++ back) (utf8Length front) = some (encodeUtf16 front).length := by
    rw [List.append_assoc]; exact utf8OffsetToUtf16_append ..
  unfold adopt at h; dsimp only at h
  split at h
  · cases h
  rename_i hlen; rw [ho hf, ho hla] at h; cases h
  refine ⟨rfl, ?_, rfl, rfl, rfl, Nat.not_lt.1 hlen⟩
  show Option.bind _ _ = _
  cases preedit.isEmpty with
  | true => rfl
  | false =>
    show (utf8OffsetToUtf16 _ _).bind _ = _
    rw [hs, ho (List.prefix_refl _)]; rfl

theorem exists_spliced (h : m.inputMethodEdit transaction = some m') :
    ∃ kept lost target lost' kept' first last, Spliced m transaction m' kept lost target lost' kept' first last := by
  obtain ⟨hre, before, target, after, hr⟩ := exists_targets_of_edit h
  rw [hr.inputMethodEdit hre] at h
  obtain ⟨⟨d, cursor⟩, hde, h⟩ := Option.bind_eq_some_iff.1 h
  obtain ⟨⟨inserted, curs'⟩, hn, h⟩ := Option.bind_eq_some_iff.1 h
  obtain ⟨e, he, hd⟩ := Option.bind_eq_some_iff.1 h
  obtain ⟨kept, lost, lost', kept', rfl, rfl, hlo, hl', rfl, rfl⟩ := exists_of_deleteSurrounding hde
  obtain ⟨rfl, rfl⟩ := commitString_eq hn
  obtain ⟨first, last, hf, hs, hse, rfl⟩ := preeditString_eq he
  obtain ⟨hte, hm, hba, hex, hsc, hlen⟩ := adopt_eq hf hs hd
  exact ⟨kept, lost, target, lost', kept', first, last, hr, hlo, hl', hte, hm, hba, hex,
    hf, hs, hse, hsc, hlen⟩

theorem Spliced.inside (h : Spliced m transaction m' kept lost target lost' kept' first last) {start stop : Nat}
    (hm : m'.composing = some (start, stop)) :
    (start ≤ m'.selectionBase ∧ m'.selectionBase ≤ stop) ∧ start ≤ m'.selectionExtent ∧ m'.selectionExtent ≤ stop := by
  rw [h.composing] at hm; split at hm
  · cases hm
  obtain ⟨rfl, rfl⟩ := Prod.mk.inj (Option.some.inj hm)
  obtain ⟨rest, hr⟩ := h.firstInside
  obtain ⟨rest', hr'⟩ := h.lastInside
  have hf := congrArg (fun text => (encodeUtf16 text).length) hr
  have hs := congrArg (fun text => (encodeUtf16 text).length) hr'
  rw [h.selectionBase, h.selectionExtent]
  simp only [encodeUtf16_append, List.length_append] at hf hs ⊢; omega

theorem Spliced.next_targets
    (h : Spliced m { preeditString := some preedit } m' kept lost target lost' kept' first last) :
    m'.Targets kept preedit.1.toList kept' := by
  have hte : m'.text = encodeUtf16 (kept ++ preedit.1.toList ++ kept') := by
    have := h.text
    rwa [show committed none = [] from rfl, List.append_nil] at this
  have hm := h.composing
  have hs := h.selectionBase
  have he := h.selectionExtent
  rw [show committed none = [] from rfl, List.append_nil] at hm hs he
  have hf : first <+: preedit.1.toList := h.firstInside
  have hla : last <+: preedit.1.toList := h.lastInside
  change m'.composing = if preedit.1.toList.isEmpty then none else
    some ((encodeUtf16 kept).length, (encodeUtf16 (kept ++ preedit.1.toList)).length) at hm
  cases hem : preedit.1.toList with
  | nil =>
    -- nothing is composed, and nothing selected
    rw [hem] at hm hf hla hte; rw [List.prefix_nil.1 hf] at hs
    rw [List.prefix_nil.1 hla] at he
    have hm : m'.composing = none := hm
    refine ⟨hte, ?_, ?_⟩
    · simp [targetRange, hm, selectionStart, hs, he]
    · simp [targetRange, hm, selectionEnd, hs, he]
  | cons c rest =>
    rw [hem] at hm hte
    have hm : m'.composing = some ((encodeUtf16 kept).length, (encodeUtf16 (kept ++ c :: rest)).length) :=
      hm
    have hle : (encodeUtf16 kept).length ≤ (encodeUtf16 (kept ++ c :: rest)).length := by
      rw [encodeUtf16_append, List.length_append]; omega
    refine ⟨hte, ?_, ?_⟩
    · show (match m'.composing with | some (base, extent) => (min base extent, max base extent) | none => _).1 = _
      rw [hm]; exact Nat.min_eq_left hle
    · show (match m'.composing with | some (base, extent) => (min base extent, max base extent) | none => _).2 = _
      rw [hm]; exact Nat.max_eq_right hle

theorem Spliced.around (h : Spliced m { preeditString := some preedit } m' kept lost target lost' kept' first last) :
    m.Targets kept target kept' := by
  obtain rfl := eq_nil_of_utf8Length h.deletedBefore
  obtain rfl := eq_nil_of_utf8Length h.deletedAfter
  have hr := h.targets
  rwa [List.append_nil, List.nil_append] at hr

theorem inputMethodEdit_of_preedit (h : m.inputMethodEdit { preeditString := some preedit } = some m')
    (hr : requests transaction = true) : m'.inputMethodEdit transaction = m.inputMethodEdit transaction := by
  obtain ⟨kept, lost, target, lost', kept', first, last, hs⟩ := exists_spliced h
  have hd : m'.adopt = m.adopt := by
    funext edited; unfold adopt
    rw [hs.scratch]
  rw [hs.next_targets.inputMethodEdit (.inl hr), hs.around.inputMethodEdit (.inl hr), hd]

/-- A transaction is refused and changes nothing, or it is spliced in; and to commit after a preedit is to commit at
once. -/
theorem apply_input_method_splices (m : TextInputModel) (transaction : InputMethodTransaction) :
    (m.applyInputMethod transaction = (m, false) ∨
      ∃ m' kept lost target lost' kept' first last, m.applyInputMethod transaction = (m', true) ∧
        Spliced m transaction m' kept lost target lost' kept' first last ∧
        ∀ start stop, m'.composing = some (start, stop) → (start ≤ m'.selectionBase ∧ m'.selectionBase ≤ stop) ∧
          start ≤ m'.selectionExtent ∧ m'.selectionExtent ≤ stop) ∧
    ∀ (preedit : String × Int × Int) (commit : String),
      let composed := (m.applyInputMethod { preeditString := some preedit }).1
      let atOnce := m.applyInputMethod { commitString := some commit }
      (composed.applyInputMethod { commitString := some commit }).2 = atOnce.2 ∧
        (atOnce.2 = true → composed.applyInputMethod { commitString := some commit } = atOnce) := by
  constructor
  · cases hedit : m.inputMethodEdit transaction with
    | none =>
      left
      unfold applyInputMethod; rw [hedit]
    | some m' =>
      right
      obtain ⟨kept, lost, target, lost', kept', first, last, hspl⟩ := exists_spliced hedit
      refine ⟨m', kept, lost, target, lost', kept', first, last, ?_, hspl, fun _ _ => hspl.inside⟩
      unfold applyInputMethod; rw [hedit]
  · intro preedit commit; dsimp only
    cases hedit : m.inputMethodEdit { preeditString := some preedit } with
    | none =>
      have hcom : (m.applyInputMethod { preeditString := some preedit }).1 = m := by
        unfold applyInputMethod; rw [hedit]
      rw [hcom]; exact ⟨rfl, fun _ => rfl⟩
    | some m' =>
      have hcom : (m.applyInputMethod { preeditString := some preedit }).1 = m' := by
        unfold applyInputMethod; rw [hedit]
      have hsam : m'.inputMethodEdit { commitString := some commit } =
          m.inputMethodEdit { commitString := some commit } := inputMethodEdit_of_preedit hedit rfl
      rw [hcom]; unfold applyInputMethod
      rw [hsam]
      cases m.inputMethodEdit { commitString := some commit } with
      | none => exact ⟨rfl, fun h => by cases h⟩
      | some edited => exact ⟨rfl, fun _ => rfl⟩

end TextInputModel

end Deniald.Flutter
