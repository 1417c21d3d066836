import Mathlib.Tactic.Common
import Signpost.Text.Utf8

/-!
# Lossy decoding and encoding

**Around ASCII bytes.**  No character but an ASCII one has an ASCII byte in it.  Wherever such a byte
comes, decoding is therefore between two characters again: what has been begun before it is replaced,
the byte stands for itself, and what follows is decoded afresh.  `decodeLossy_append_cons` takes a
decoding apart at an ASCII byte, and `decodeLossy_intercalate` does so at every comma of a list of
pieces.

**Beyond ASCII.**  Bytes beyond ASCII are decoded to characters beyond ASCII, and to at least one
(`le_of_mem_decodeLossy`, `decodeLossy_ne_nil`): no form of a character is accepted that is longer than need
be.

**Of well-formed bytes.**  Nothing of a text is lost that was encoded (`decodeLossy_encode`), and nothing
of ASCII bytes that were decoded (`encode_decodeLossy`).

**Order.**  Texts that are ordered by their code points are ordered by their bytes (`encode_lt_encode`).
-/

namespace Signpost.Text.Utf8

/-- Inside a character an ASCII byte may not come next. -/
lemma low_of_firstByte {b : Nat} {d : Decoder} (h : firstByte b = .unfinished d) :
    0x80 ≤ d.low := by
  unfold firstByte at h
  split_ifs at h <;> cases h <;> simp

/-- Nor may it after one more byte, whatever the state was before. -/
lemma low_of_step {d d' : Decoder} {b : UInt8} (h : d.step b = .unfinished d') :
    0x80 ≤ d'.low := by
  unfold Decoder.step at h
  split at h
  · exact low_of_firstByte h
  · split at h
    · dsimp only at h
      split at h <;> cases h
      exact Nat.le_refl _
    · cases h

lemma low_stepLossy (d : Decoder) (b : UInt8) : 0x80 ≤ (d.stepLossy b).2.low := by
  unfold Decoder.stepLossy
  split
  · exact Nat.le_refl _
  · next hstep => exact low_of_step hstep
  · split
    · exact Nat.le_refl _
    · split
      · exact Nat.le_refl _
      · next hfirst => exact low_of_firstByte hfirst
      · exact Nat.le_refl _

/-- An ASCII byte ends what has been begun, and stands for itself. -/
lemma decodeLossyFrom_cons_ascii {d : Decoder} (hd : 0x80 ≤ d.low) {b : UInt8}
    (hb : b.toNat < 0x80) (rest : List UInt8) :
    decodeLossyFrom d (b :: rest) =
      decodeLossyFrom d [] ++ Char.ofNat b.toNat :: decodeLossyFrom .start rest := by
  have hfirst : firstByte b.toNat = .char (Char.ofNat b.toNat) := if_pos hb
  rw [decodeLossyFrom, decodeLossyFrom]
  by_cases hdue : d.due = 0
  · have hstep : d.stepLossy b = ([Char.ofNat b.toNat], .start) := by
      rw [Decoder.stepLossy, Decoder.step, if_pos hdue, hfirst]
    rw [hstep, if_pos hdue]
    rfl
  · have hlow : ¬ (d.low ≤ b.toNat ∧ b.toNat ≤ d.high) := fun h => by omega
    have hstep : d.stepLossy b = ([replacement, Char.ofNat b.toNat], .start) := by
      rw [Decoder.stepLossy, Decoder.step, if_neg hdue, if_neg hlow]
      dsimp only
      rw [if_neg hdue, hfirst]
    rw [hstep, if_neg hdue]
    rfl

/-- **Decoding comes apart at an ASCII byte.** -/
theorem decodeLossy_append_cons {b : UInt8} (hb : b.toNat < 0x80) (before after : List UInt8) :
    decodeLossy (before ++ b :: after) =
      decodeLossy before ++ Char.ofNat b.toNat :: decodeLossy after := by
  suffices h : ∀ d : Decoder, 0x80 ≤ d.low →
      decodeLossyFrom d (before ++ b :: after) =
        decodeLossyFrom d before ++ Char.ofNat b.toNat :: decodeLossyFrom .start after from
    h .start (Nat.le_refl _)
  induction before with
  | nil => exact fun d hd => decodeLossyFrom_cons_ascii hd hb after
  | cons c rest ih =>
      intro d _
      rw [List.cons_append, decodeLossyFrom, decodeLossyFrom, ih _ (low_stepLossy d c),
        List.append_assoc]

/-- Pieces that are joined by a comma and a space may be decoded before or after they are joined. -/
lemma decodeLossy_intercalate (pieces : List (List UInt8)) :
    decodeLossy ((encode ", ".toList).intercalate pieces) =
      ", ".toList.intercalate (pieces.map decodeLossy) := by
  have hcomma : encode ", ".toList = [0x2C, 0x20] := by decide
  rw [hcomma]
  induction pieces with
  | nil => rfl
  | cons piece rest ih =>
      cases rest with
      | nil => simp
      | cons next more =>
          rw [List.intercalate_cons_cons, List.map_cons, List.map_cons, List.intercalate_cons_cons,
            ← List.map_cons, ← ih, List.append_assoc, List.append_assoc]
          -- the comma ends the piece, and the space after it is a character of its own
          show decodeLossy (piece ++ 0x2C :: 0x20 :: [0x2C, 0x20].intercalate (next :: more)) = _
          rw [decodeLossy_append_cons (by decide)]
          rfl

/-! ## Decoding what was encoded -/

/-- A byte that ends a character. -/
lemma decodeLossyFrom_of_char {d : Decoder} {b : UInt8} {c : Char} (h : d.step b = .char c)
    (rest : List UInt8) : decodeLossyFrom d (b :: rest) = c :: decodeLossyFrom .start rest := by
  rw [decodeLossyFrom, Decoder.stepLossy, h]
  rfl

/-- A byte that leaves a character unfinished. -/
lemma decodeLossyFrom_of_unfinished {d d' : Decoder} {b : UInt8} (h : d.step b = .unfinished d')
    (rest : List UInt8) : decodeLossyFrom d (b :: rest) = decodeLossyFrom d' rest := by
  rw [decodeLossyFrom, Decoder.stepLossy, h]
  rfl

lemma step_last {value low high n : ℕ} (hn : n < 0x100) (hlow : low ≤ n) (hhigh : n ≤ high) :
    (Decoder.mk 1 value low high).step (UInt8.ofNat n) =
      .char (Char.ofNat (value * 64 + (n - 0x80))) := by
  have hbyte : (UInt8.ofNat n).toNat = n := Nat.mod_eq_of_lt hn
  simp only [Decoder.step, hbyte, hlow, hhigh, and_self, if_true]
  rfl

lemma step_middle {due value low high n : ℕ} (hn : n < 0x100) (hlow : low ≤ n) (hhigh : n ≤ high) :
    (Decoder.mk (due + 2) value low high).step (UInt8.ofNat n) =
      .unfinished ⟨due + 1, value * 64 + (n - 0x80), 0x80, 0xBF⟩ := by
  have hbyte : (UInt8.ofNat n).toNat = n := Nat.mod_eq_of_lt hn
  simp only [Decoder.step, hbyte, hlow, hhigh, and_self, if_true]
  rfl

lemma firstByte_of_two {b : ℕ} (hlow : 0xC2 ≤ b) (hhigh : b < 0xE0) :
    firstByte b = .unfinished ⟨1, b - 0xC0, 0x80, 0xBF⟩ := by
  rw [firstByte, if_neg (by omega), if_neg (by omega), if_pos hhigh]

lemma firstByte_of_three {b : ℕ} (hlow : 0xE0 ≤ b) (hhigh : b < 0xF0) :
    firstByte b = .unfinished ⟨2, b - 0xE0, if b = 0xE0 then 0xA0 else 0x80,
      if b = 0xED then 0x9F else 0xBF⟩ := by
  rw [firstByte, if_neg (by omega), if_neg (by omega), if_neg (by omega), if_pos hhigh]

lemma firstByte_of_four {b : ℕ} (hlow : 0xF0 ≤ b) (hhigh : b < 0xF5) :
    firstByte b = .unfinished ⟨3, b - 0xF0, if b = 0xF0 then 0x90 else 0x80,
      if b = 0xF4 then 0x8F else 0xBF⟩ := by
  rw [firstByte, if_neg (by omega), if_neg (by omega), if_neg (by omega), if_neg (by omega),
    if_pos hhigh]

/-- **The bytes of a character are decoded to it**, and what follows is decoded afresh. -/
lemma decodeLossyFrom_start_append (c : Char) (rest : List UInt8) :
    decodeLossyFrom .start (String.utf8EncodeChar c ++ rest) = c :: decodeLossyFrom .start rest := by
  have hvalid : c.toNat < 0xD800 ∨ 0xDFFF < c.toNat ∧ c.toNat < 0x110000 := c.valid
  have hchar : ∀ n, n = c.toNat → Char.ofNat n = c := fun n hn => by rw [hn, Char.ofNat_toNat]
  have hstart : ∀ n < 0x100, Decoder.start.step (UInt8.ofNat n) = firstByte n := fun n hn =>
    congrArg firstByte (Nat.mod_eq_of_lt hn)
  have hval : c.val.toNat = c.toNat := rfl
  simp only [String.utf8EncodeChar, hval]
  split
  · next hone =>
    refine decodeLossyFrom_of_char ?_ rest
    rw [hstart _ (by omega), firstByte, if_pos (by omega), hchar _ rfl]
  split
  · next hone htwo =>
    rw [List.cons_append, decodeLossyFrom_of_unfinished
      ((hstart _ (by omega)).trans (firstByte_of_two (by omega) (by omega)))]
    rw [List.cons_append, List.nil_append,
      decodeLossyFrom_of_char (step_last (by omega) (by omega) (by omega)), hchar _ (by omega)]
  split
  · next hone htwo hthree =>
    rw [List.cons_append, decodeLossyFrom_of_unfinished
      ((hstart _ (by omega)).trans (firstByte_of_three (by omega) (by omega)))]
    -- the second byte keeps out overlong forms and surrogates
    rw [List.cons_append, decodeLossyFrom_of_unfinished
      (step_middle (by omega) (by split <;> omega) (by split <;> omega))]
    rw [List.cons_append, List.nil_append,
      decodeLossyFrom_of_char (step_last (by omega) (by omega) (by omega)), hchar _ (by omega)]
  · next hone htwo hthree =>
    rw [List.cons_append, decodeLossyFrom_of_unfinished
      ((hstart _ (by omega)).trans (firstByte_of_four (by omega) (by omega)))]
    -- the second byte keeps out overlong forms and numbers that are too large
    rw [List.cons_append, decodeLossyFrom_of_unfinished
      (step_middle (by omega) (by split <;> omega) (by split <;> omega))]
    rw [List.cons_append, decodeLossyFrom_of_unfinished
      (step_middle (by omega) (by omega) (by omega))]
    rw [List.cons_append, List.nil_append,
      decodeLossyFrom_of_char (step_last (by omega) (by omega) (by omega)), hchar _ (by omega)]

/-- **A text that was encoded is decoded to itself.** -/
theorem decodeLossy_encode (cs : List Char) : decodeLossy (encode cs) = cs := by
  rw [decodeLossy]
  induction cs with
  | nil => rfl
  | cons c cs ih =>
      rw [encode, List.flatMap_cons, decodeLossyFrom_start_append]
      exact congrArg (c :: ·) ih

/-- An ASCII character is encoded as its code. -/
lemma utf8EncodeChar_ofNat {n : ℕ} (h : n < 0x80) :
    String.utf8EncodeChar (Char.ofNat n) = [UInt8.ofNat n] := by
  revert n
  decide +kernel

/-- Nothing of ASCII bytes is lost that were decoded. -/
lemma encode_decodeLossy {bytes : List UInt8} (h : ∀ b ∈ bytes, b.toNat < 0x80) :
    encode (decodeLossy bytes) = bytes := by
  rw [decodeLossy]
  induction bytes with
  | nil => rfl
  | cons b rest ih =>
      have hb := h b List.mem_cons_self
      have hrest := ih fun b' hb' => h b' (List.mem_cons_of_mem _ hb')
      rw [decodeLossyFrom_cons_ascii (Nat.le_refl _) hb]
      show encode (Char.ofNat b.toNat :: decodeLossyFrom .start rest) = b :: rest
      rw [encode, List.flatMap_cons, utf8EncodeChar_ofNat hb, UInt8.ofNat_toNat]
      exact congrArg (b :: ·) hrest

/-! ## The order of texts -/

/-- Of two lists the one with the smaller byte comes first; equal bytes leave it to what follows. -/
lemma ofNat_cons_lt {a b : ℕ} {as bs : List UInt8} (hb : b < 0x100) (hle : a ≤ b)
    (h : a = b → as < bs) : UInt8.ofNat a :: as < UInt8.ofNat b :: bs := by
  have hbyte : ∀ n < 0x100, (UInt8.ofNat n).toNat = n := fun n hn => Nat.mod_eq_of_lt hn
  rw [List.cons_lt_cons_iff, UInt8.lt_iff_toNat_lt, hbyte a (by omega), hbyte b hb]
  rcases Nat.lt_or_eq_of_le hle with hlt | heq
  · exact .inl hlt
  · exact .inr ⟨by rw [heq], h heq⟩

/-- The bytes of two characters are in the order of the characters, whatever follows. -/
lemma utf8EncodeChar_append_lt {c d : Char} (h : c < d) (rest rest' : List UInt8) :
    String.utf8EncodeChar c ++ rest < String.utf8EncodeChar d ++ rest' := by
  have hlt : c.val.toNat < d.val.toNat := h
  have hmax : d.val.toNat < 0x110000 := by
    have hvalid : d.val.toNat < 0xD800 ∨ 0xDFFF < d.val.toNat ∧ d.val.toNat < 0x110000 := d.valid
    omega
  simp only [String.utf8EncodeChar]
  generalize c.val.toNat = m at hlt ⊢
  generalize d.val.toNat = n at hlt hmax ⊢
  -- more bytes begin with a greater one; of equally many bytes the first that differs decides
  split
  · split
    · exact ofNat_cons_lt (by omega) (by omega) fun heq => by omega
    split
    · exact ofNat_cons_lt (by omega) (by omega) fun heq => by omega
    split
    · exact ofNat_cons_lt (by omega) (by omega) fun heq => by omega
    · exact ofNat_cons_lt (by omega) (by omega) fun heq => by omega
  split
  · rw [if_neg (by omega)]
    split
    · exact ofNat_cons_lt (by omega) (by omega) fun heq =>
        ofNat_cons_lt (by omega) (by omega) fun heq' => by omega
    split
    · exact ofNat_cons_lt (by omega) (by omega) fun heq => by omega
    · exact ofNat_cons_lt (by omega) (by omega) fun heq => by omega
  split
  · rw [if_neg (by omega), if_neg (by omega)]
    split
    · exact ofNat_cons_lt (by omega) (by omega) fun heq =>
        ofNat_cons_lt (by omega) (by omega) fun heq' =>
          ofNat_cons_lt (by omega) (by omega) fun heq'' => by omega
    · exact ofNat_cons_lt (by omega) (by omega) fun heq => by omega
  · rw [if_neg (by omega), if_neg (by omega), if_neg (by omega)]
    exact ofNat_cons_lt (by omega) (by omega) fun heq =>
      ofNat_cons_lt (by omega) (by omega) fun heq' =>
        ofNat_cons_lt (by omega) (by omega) fun heq'' =>
          ofNat_cons_lt (by omega) (by omega) fun heq''' => by omega

/-- **The bytes of two texts are in the order of the texts.** -/
theorem encode_lt_encode {cs ds : List Char} (h : cs < ds) : encode cs < encode ds := by
  have hcons : ∀ c cs, encode (c :: cs) = String.utf8EncodeChar c ++ encode cs :=
    fun c cs => List.flatMap_cons
  induction cs generalizing ds with
  | nil =>
      cases ds with
      | nil => exact absurd h (List.not_lt_nil [])
      | cons d ds =>
          obtain ⟨b, bs, hbytes⟩ := List.exists_cons_of_ne_nil (String.utf8EncodeChar_ne_nil (c := d))
          rw [hcons, hbytes]
          exact List.nil_lt_cons _ _
  | cons c cs ih =>
      cases ds with
      | nil => exact absurd h (List.not_lt_nil _)
      | cons d ds =>
          rw [hcons, hcons]
          rcases List.cons_lt_cons_iff.1 h with hlt | ⟨rfl, hlt⟩
          · exact utf8EncodeChar_append_lt hlt _ _
          · exact List.append_left_lt (ih hlt)

/-! ## Bytes beyond ASCII -/

/-- A number that becomes a character beyond ASCII, whatever bits are added for the bytes still due. -/
def Leads : ℕ → ℕ → Prop
  | 0, value => 0x80 ≤ value ∧ value.isValidChar
  | due + 1, value => ∀ x < 64, Leads due (value * 64 + x)

/-- What has been begun can only become a character beyond ASCII. -/
structure Decoder.Wide (d : Decoder) : Prop where
  due_ne_zero : d.due ≠ 0
  leads : ∀ b, d.low ≤ b → b ≤ d.high → Leads (d.due - 1) (d.value * 64 + (b - 0x80))

/-- A character beyond ASCII, finished or not, or nothing. -/
def Outcome.Wide : Outcome → Prop
  | .char c => 0x80 ≤ c.toNat
  | .unfinished d => d.Wide
  | .refused => True

lemma wide_firstByte {b : ℕ} (hb : 0x80 ≤ b) : (firstByte b).Wide := by
  by_cases htwo : 0xC2 ≤ b ∧ b < 0xE0
  · rw [firstByte_of_two htwo.1 htwo.2]
    refine ⟨Nat.succ_ne_zero _, fun b' (hlow : 0x80 ≤ b') (hhigh : b' ≤ 0xBF) => ?_⟩
    simp only [Nat.sub_self, Leads, Nat.isValidChar]
    omega
  by_cases hthree : 0xE0 ≤ b ∧ b < 0xF0
  · rw [firstByte_of_three hthree.1 hthree.2]
    refine ⟨Nat.succ_ne_zero _, fun b' hlow hhigh => ?_⟩
    simp only [Nat.reduceSub, Leads, Nat.isValidChar] at hlow hhigh ⊢
    intro x hx
    split at hlow <;> split at hhigh <;> omega
  by_cases hfour : 0xF0 ≤ b ∧ b < 0xF5
  · rw [firstByte_of_four hfour.1 hfour.2]
    refine ⟨Nat.succ_ne_zero _, fun b' hlow hhigh => ?_⟩
    simp only [Nat.reduceSub, Leads, Nat.isValidChar] at hlow hhigh ⊢
    intro x hx y hy
    split at hlow <;> split at hhigh <;> omega
  · have hrefused : firstByte b = .refused := by
      unfold firstByte
      split_ifs <;> first | rfl | omega
    rw [hrefused]
    trivial

lemma wide_step {d : Decoder} (hd : d.Wide) (b : UInt8) : (d.step b).Wide := by
  rw [Decoder.step, if_neg hd.due_ne_zero]
  split
  · next hrange =>
    have hleads := hd.leads b.toNat hrange.1 hrange.2
    dsimp only
    split
    · next hone =>
      rw [hone] at hleads
      obtain ⟨hwide, hvalid⟩ := hleads
      rw [Outcome.Wide, Char.ofNat, dif_pos hvalid]
      exact hwide
    · next hone =>
      have hne := hd.due_ne_zero
      obtain ⟨due, hdue⟩ : ∃ due, d.due = due + 2 := ⟨d.due - 2, by omega⟩
      rw [hdue] at hleads ⊢
      refine ⟨due.succ_ne_zero, fun b' hlow hhigh => hleads _ ?_⟩
      dsimp only at hlow hhigh
      omega
  · trivial

/-- Between two characters, or inside one beyond ASCII, a byte beyond ASCII keeps to such characters. -/
lemma wide_stepLossy {d : Decoder} (hd : d.due = 0 ∨ d.Wide) {b : UInt8} (hb : 0x80 ≤ b.toNat) :
    (∀ c ∈ (d.stepLossy b).1, 0x80 ≤ c.toNat) ∧
      ((d.stepLossy b).2.due = 0 ∨ (d.stepLossy b).2.Wide) := by
  have hfirst := wide_firstByte hb
  have hstep : (d.step b).Wide := by
    rcases hd with hdue | hd
    · rwa [Decoder.step, if_pos hdue]
    · exact wide_step hd b
  have hreplacement : 0x80 ≤ replacement.toNat := by decide
  unfold Decoder.stepLossy
  split
  · next c hchar =>
    rw [hchar] at hstep
    exact ⟨List.forall_mem_singleton.2 hstep, .inl rfl⟩
  · next d' hunfinished =>
    rw [hunfinished] at hstep
    exact ⟨nofun, .inr hstep⟩
  · split
    · exact ⟨List.forall_mem_singleton.2 hreplacement, .inl rfl⟩
    · split
      · next c hchar =>
        rw [hchar] at hfirst
        exact ⟨List.forall_mem_cons.2 ⟨hreplacement, List.forall_mem_singleton.2 hfirst⟩, .inl rfl⟩
      · next d' hunfinished =>
        rw [hunfinished] at hfirst
        exact ⟨List.forall_mem_singleton.2 hreplacement, .inr hfirst⟩
      · exact ⟨by simpa using hreplacement, .inl rfl⟩

/-- **Bytes beyond ASCII are decoded to characters beyond ASCII.** -/
lemma le_of_mem_decodeLossy {bytes : List UInt8} (h : ∀ b ∈ bytes, 0x80 ≤ b.toNat) :
    ∀ c ∈ decodeLossy bytes, 0x80 ≤ c.toNat := by
  suffices hfrom : ∀ d : Decoder, d.due = 0 ∨ d.Wide →
      ∀ c ∈ decodeLossyFrom d bytes, 0x80 ≤ c.toNat from hfrom .start (.inl rfl)
  induction bytes with
  | nil =>
      intro d _ c hc
      rw [decodeLossyFrom] at hc
      split at hc
      · cases hc
      · rw [List.mem_singleton.1 hc]
        decide
  | cons b rest ih =>
      intro d hd c hc
      rw [List.forall_mem_cons] at h
      obtain ⟨hchars, hnext⟩ := wide_stepLossy hd h.1
      rw [decodeLossyFrom, List.mem_append] at hc
      exact hc.elim (hchars c) (ih h.2 _ hnext c)

/-- What has been begun leaves a trace. -/
lemma decodeLossyFrom_ne_nil {d : Decoder} (hd : d.Wide) (bytes : List UInt8) :
    decodeLossyFrom d bytes ≠ [] := by
  induction bytes generalizing d with
  | nil =>
      rw [decodeLossyFrom, if_neg hd.due_ne_zero]
      exact List.cons_ne_nil _ _
  | cons b rest ih =>
      have hstep := wide_step hd b
      rw [decodeLossyFrom, Decoder.stepLossy]
      split
      · exact List.cons_ne_nil _ _
      · next d' hunfinished =>
        rw [hunfinished] at hstep
        exact ih hstep
      · rw [if_neg hd.due_ne_zero]
        split <;> exact List.cons_ne_nil _ _

/-- **So does a byte beyond ASCII.** -/
lemma decodeLossy_ne_nil {b : UInt8} (hb : 0x80 ≤ b.toNat) (rest : List UInt8) :
    decodeLossy (b :: rest) ≠ [] := by
  have hfirst := wide_firstByte hb
  have hstep : Decoder.start.step b = firstByte b.toNat := if_pos rfl
  rw [decodeLossy, decodeLossyFrom, Decoder.stepLossy, hstep]
  split
  · exact List.cons_ne_nil _ _
  · next d' hunfinished =>
    rw [hunfinished] at hfirst
    exact decodeLossyFrom_ne_nil hfirst rest
  · exact List.cons_ne_nil _ _

/-- Decoding comes apart before an ASCII byte, and before the end. -/
lemma decodeLossy_append {bytes rest : List UInt8} (h : ∀ b ∈ rest.head?, b.toNat < 0x80) :
    decodeLossy (bytes ++ rest) = decodeLossy bytes ++ decodeLossy rest := by
  cases rest with
  | nil =>
      have hnil : decodeLossy [] = [] := rfl
      rw [hnil, List.append_nil, List.append_nil]
  | cons b rest =>
      have hb := h b rfl
      rw [decodeLossy_append_cons hb]
      exact congrArg _ (decodeLossy_append_cons hb [] rest).symm

end Signpost.Text.Utf8
