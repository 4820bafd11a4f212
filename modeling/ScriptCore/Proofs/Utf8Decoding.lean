import ScriptCore.Proofs.ValueOrder
import ScriptCore.Text.Utf8

set_option autoImplicit false

/-! # Decoding UTF-8 reads back every text

`Text.decodeLossy` gives back every text from its UTF-8 bytes (`Text.decodeLossy_utf8`). The
encoder writes a character as a lead byte whose shape asks for exactly the continuation bytes
written after it, the first of them within the lead byte's range, and the payload bits of those
bytes spell the code point again (`Text.leadingChar_utf8EncodeChar`).

On bytes that are not well formed, a step takes after its lead byte only continuation bytes
(`Text.leadingChar_takes_continuations`): a byte that can begin a character is never swallowed
by a replacement, so decoding takes up the text again at the next such byte.

The decoder runs on fuel, one character a step. Every step takes at least one byte, so fuel
that covers the bytes decodes all of them and more changes nothing (`Text.decodeChars_of_le`),
and the decoder unfolds as the recursion it stands for (`Text.decodeLossy_cons`).

Main statement: `Text.decodeLossy_utf8`. -/

namespace ScriptCore

namespace Text

/-! ## The fuel -/

theorem decodeChars_succ_cons (fuel : Nat) (b : UInt8) (rest : List UInt8) :
    decodeChars (fuel + 1) (b :: rest) =
      (leadingChar b rest).1 :: decodeChars fuel ((b :: rest).drop (leadingChar b rest).2) :=
  rfl

/-- Every step takes at least one byte. -/
theorem leadingChar_size_pos (b : UInt8) (rest : List UInt8) : 0 < (leadingChar b rest).2 := by
  unfold leadingChar
  split
  · exact Nat.one_pos
  · split
    · exact Nat.one_pos
    · dsimp only
      split <;> omega

theorem length_drop_leadingChar (b : UInt8) (rest : List UInt8) :
    ((b :: rest).drop (leadingChar b rest).2).length ≤ rest.length := by
  have := leadingChar_size_pos b rest
  simp only [List.length_drop, List.length_cons]
  omega

/-- Fuel that covers the bytes decodes all of them: any two such amounts give the same
characters. -/
theorem decodeChars_of_le {fuel fuel' : Nat} {bytes : List UInt8} (h : bytes.length ≤ fuel)
    (h' : bytes.length ≤ fuel') : decodeChars fuel bytes = decodeChars fuel' bytes := by
  induction fuel generalizing fuel' bytes with
  | zero =>
    rw [List.length_eq_zero_iff.1 (Nat.le_zero.1 h)]
    cases fuel' <;> rfl
  | succ f ih =>
    cases bytes with
    | nil => cases fuel' <;> rfl
    | cons b rest =>
      obtain ⟨f', rfl⟩ : ∃ f', fuel' = f' + 1 := Nat.exists_eq_add_one.2 (by simp at h'; omega)
      -- both read the same character and go on from the same byte
      have hdrop := length_drop_leadingChar b rest
      simp only [List.length_cons] at h h'
      rw [decodeChars_succ_cons, decodeChars_succ_cons, @ih f' _ (by omega) (by omega)]

/-- Decoding reads one character and then decodes the bytes after it. -/
theorem decodeLossy_cons (b : UInt8) (rest : List UInt8) :
    (decodeLossy (b :: rest)).toList =
      (leadingChar b rest).1 :: (decodeLossy ((b :: rest).drop (leadingChar b rest).2)).toList := by
  simp only [decodeLossy, String.toList_ofList, List.length_cons, decodeChars_succ_cons]
  rw [decodeChars_of_le (length_drop_leadingChar b rest) le_rfl]

/-! ## Continuation bytes -/

/-- A run of continuation bytes is counted within the bytes it asks for. -/
theorem continuationRun_append {lo hi : Nat} {cont : List UInt8} (rest : List UInt8) :
    continuationRun cont.length lo hi (cont ++ rest) = continuationRun cont.length lo hi cont := by
  induction cont generalizing lo hi with
  | nil => rfl
  | cons c cs ih => simp only [List.length_cons, List.cons_append, continuationRun, ih]

theorem continuationRun_full {lo hi : Nat} {s : UInt8} {cs : List UInt8}
    (hs : lo ≤ s.toNat ∧ s.toNat ≤ hi) (hcs : ∀ c ∈ cs, 0x80 ≤ c.toNat ∧ c.toNat ≤ 0xBF) :
    continuationRun (cs.length + 1) lo hi (s :: cs) = cs.length + 1 := by
  induction cs generalizing s lo hi with
  | nil => simp [continuationRun, hs]
  | cons c cs ih =>
    rw [continuationRun, if_pos hs, List.length_cons,
      ih (hcs c List.mem_cons_self) (fun x hx => hcs x (List.mem_cons_of_mem _ hx))]

/-- Every lead byte's range for its first continuation byte lies within `80`–`BF`. -/
theorem leadShape_range {b : UInt8} {more lo hi : Nat} (h : leadShape b = some (more, lo, hi)) :
    0x80 ≤ lo ∧ hi ≤ 0xBF := by
  simp only [leadShape] at h
  split_ifs at h <;> cases h <;> decide

theorem continuationRun_take {lo hi : Nat} (hlo : 0x80 ≤ lo) (hhi : hi ≤ 0xBF) :
    ∀ (count : Nat) (bytes : List UInt8),
      ∀ x ∈ bytes.take (continuationRun count lo hi bytes), 0x80 ≤ x.toNat ∧ x.toNat ≤ 0xBF
  | 0, _ => by simp [continuationRun]
  | _ + 1, [] => by simp [continuationRun]
  | count + 1, b :: rest => by
    rw [continuationRun]
    split
    · rename_i hb
      intro x hx
      rw [List.take_succ_cons, List.mem_cons] at hx
      rcases hx with rfl | hx
      · omega
      · exact continuationRun_take (by decide) (by decide) count rest x hx
    · simp

/-- After its lead byte a step takes only continuation bytes, whether it reads a character or
replaces a part: an ASCII byte or a lead byte always begins a step of its own. -/
theorem leadingChar_takes_continuations (b : UInt8) (rest : List UInt8) :
    ∀ x ∈ rest.take ((leadingChar b rest).2 - 1), 0x80 ≤ x.toNat ∧ x.toNat ≤ 0xBF := by
  unfold leadingChar
  split
  · simp
  · split
    · simp
    · rename_i more lo hi hshape
      obtain ⟨hlo, hhi⟩ := leadShape_range hshape
      have hrun := continuationRun_take hlo hhi more rest
      dsimp only
      -- a whole sequence takes as many bytes as the run it checked
      split
      · rename_i heq
        rw [Nat.add_sub_cancel, ← heq]
        exact hrun
      · rw [Nat.add_sub_cancel]
        exact hrun

example : decodeLossy [0x41, 0xE2, 0x82, 0x41] = "A\uFFFDA" := by decide
example : decodeLossy [0xC3, 0xA9, 0xED, 0xA0, 0x80] = "é\uFFFD\uFFFD\uFFFD" := by decide

/-! ## The encoder's bytes -/

/-- A lead byte followed by all the continuation bytes its shape asks for, the first within
its range, is read as the character their payload bits spell, whatever follows. -/
theorem leadingChar_of_sequence {b : UInt8} {cont : List UInt8} {lo hi : Nat} {c : Char}
    (hb : 0x80 ≤ b.toNat) (hshape : leadShape b = some (cont.length, lo, hi))
    (hrun : continuationRun cont.length lo hi cont = cont.length)
    (hscalar : cont.foldl (fun acc c => acc * 64 + c.toNat % 64) (leadBits b cont.length) =
      c.toNat)
    (rest : List UInt8) :
    leadingChar b (cont ++ rest) = (c, cont.length + 1) := by
  have htake : scalarOf b (cont ++ rest) cont.length = c.toNat := by
    rw [scalarOf, List.take_left' rfl, hscalar]
  unfold leadingChar
  rw [if_neg (by omega), hshape]
  dsimp only
  rw [continuationRun_append, hrun, if_pos rfl, htake, Char.ofNat_toNat]

theorem toNat_continuation (x : Nat) :
    (UInt8.ofNat (x % 64 + 128)).toNat = x % 64 + 128 :=
  toNat_tagged_byte (by decide) (by decide)

theorem isContinuation_tagged (x : Nat) :
    0x80 ≤ (UInt8.ofNat (x % 64 + 128)).toNat ∧ (UInt8.ofNat (x % 64 + 128)).toNat ≤ 0xBF := by
  rw [toNat_continuation]
  omega

/-- The encoding of a character is read back as that character, over all its bytes and
whatever follows them. -/
theorem leadingChar_utf8EncodeChar (c : Char) (rest : List UInt8) :
    ∃ b cont, String.utf8EncodeChar c = b :: cont ∧
      leadingChar b (cont ++ rest) = (c, cont.length + 1) := by
  have hvalid := c.valid
  simp only [UInt32.isValidChar, Nat.isValidChar] at hvalid
  have hto : c.toNat = c.val.toNat := rfl
  unfold String.utf8EncodeChar
  generalize c.val.toNat = v at hvalid hto
  dsimp only
  split_ifs with h1 h2 h3
  · -- one byte, below `0x80`, read as itself
    refine ⟨_, [], rfl, ?_⟩
    rw [leadingChar, toNat_ascii_byte h1, if_pos (by omega), ← hto, Char.ofNat_toNat]
    rfl
  · -- two bytes: the lead byte lies within `C2`–`DF`
    have hb := toNat_tagged_byte (x := v / 64) (by decide : 0 < 32) (by decide : 32 + 192 ≤ 256)
    have hshape : leadShape (UInt8.ofNat (v / 64 % 32 + 192)) = some (1, 0x80, 0xBF) := by
      simp only [leadShape, hb]
      rw [if_pos (by omega)]
    refine ⟨_, _, rfl, leadingChar_of_sequence (by rw [hb]; omega) hshape ?_ ?_ rest⟩
    · exact continuationRun_full (isContinuation_tagged v) (by simp)
    · simp only [leadBits, List.length_cons, List.length_nil, Nat.reduceAdd, Nat.reduceSub,
        Nat.pow_eq, Nat.reducePow, List.foldl_cons, List.foldl_nil, hb, toNat_continuation]
      omega
  · -- three bytes: the range of the second byte keeps out overlong forms and surrogates
    have hb := toNat_tagged_byte (x := v / 4096) (by decide : 0 < 16) (by decide : 16 + 224 ≤ 256)
    have hs := toNat_continuation (v / 64)
    obtain ⟨lo, hi, hshape, hlo, hhi⟩ : ∃ lo hi,
        leadShape (UInt8.ofNat (v / 4096 % 16 + 224)) = some (2, lo, hi) ∧
          lo ≤ v / 64 % 64 + 128 ∧ v / 64 % 64 + 128 ≤ hi := by
      simp only [leadShape, hb]
      rw [if_neg (by omega)]
      by_cases hE0 : v / 4096 % 16 + 224 = 0xE0
      · -- below `U+1000` the second byte is at least `A0`
        rw [if_pos hE0]
        exact ⟨_, _, rfl, by omega, by omega⟩
      rw [if_neg hE0]
      by_cases hED : v / 4096 % 16 + 224 = 0xED
      · -- below the surrogates the second byte is at most `9F`
        rw [if_pos hED]
        exact ⟨_, _, rfl, by omega, by omega⟩
      rw [if_neg hED, if_pos (by omega)]
      exact ⟨_, _, rfl, by omega, by omega⟩
    refine ⟨_, _, rfl, leadingChar_of_sequence (by rw [hb]; omega) hshape ?_ ?_ rest⟩
    · exact continuationRun_full (by rw [hs]; omega) (by simp only [List.forall_mem_cons,
        isContinuation_tagged, List.not_mem_nil, false_implies, implies_true, and_self])
    · simp only [leadBits, List.length_cons, List.length_nil, Nat.reduceAdd, Nat.reduceSub,
        Nat.pow_eq, Nat.reducePow, List.foldl_cons, List.foldl_nil, hb, hs, toNat_continuation]
      omega
  · -- four bytes: the range of the second byte keeps out overlong forms and code points
    -- beyond `U+10FFFF`
    have hb := toNat_tagged_byte (x := v / 262144) (by decide : 0 < 8) (by decide : 8 + 240 ≤ 256)
    have hs := toNat_continuation (v / 4096)
    obtain ⟨lo, hi, hshape, hlo, hhi⟩ : ∃ lo hi,
        leadShape (UInt8.ofNat (v / 262144 % 8 + 240)) = some (3, lo, hi) ∧
          lo ≤ v / 4096 % 64 + 128 ∧ v / 4096 % 64 + 128 ≤ hi := by
      simp only [leadShape, hb]
      rw [if_neg (by omega), if_neg (by omega), if_neg (by omega), if_neg (by omega)]
      by_cases hF0 : v / 262144 % 8 + 240 = 0xF0
      · -- from `U+10000` on the second byte is at least `90`
        rw [if_pos hF0]
        exact ⟨_, _, rfl, by omega, by omega⟩
      rw [if_neg hF0]
      by_cases hF4 : v / 262144 % 8 + 240 = 0xF4
      · -- up to `U+10FFFF` the second byte is at most `8F`
        rw [if_pos hF4]
        exact ⟨_, _, rfl, by omega, by omega⟩
      rw [if_neg hF4, if_pos (by omega)]
      exact ⟨_, _, rfl, by omega, by omega⟩
    refine ⟨_, _, rfl, leadingChar_of_sequence (by rw [hb]; omega) hshape ?_ ?_ rest⟩
    · exact continuationRun_full (by rw [hs]; omega) (by simp only [List.forall_mem_cons,
        isContinuation_tagged, List.not_mem_nil, false_implies, implies_true, and_self])
    · simp only [leadBits, List.length_cons, List.length_nil, Nat.reduceAdd, Nat.reduceSub,
        Nat.pow_eq, Nat.reducePow, List.foldl_cons, List.foldl_nil, hb, hs, toNat_continuation]
      omega

theorem toList_decodeLossy_flatMap (cs : List Char) :
    (decodeLossy (cs.flatMap String.utf8EncodeChar)).toList = cs := by
  induction cs with
  | nil => rfl
  | cons c cs ih =>
    obtain ⟨b, cont, henc, hlead⟩ :=
      leadingChar_utf8EncodeChar c (cs.flatMap String.utf8EncodeChar)
    rw [List.flatMap_cons, henc, List.cons_append, decodeLossy_cons, hlead, List.drop_succ_cons,
      List.drop_left, ih]

/-- Every text is read back from its UTF-8 bytes. -/
theorem decodeLossy_utf8 (s : String) : decodeLossy s.toUTF8.data.toList = s := by
  rw [utf8_toList, ← String.toList_inj, toList_decodeLossy_flatMap]

example : decodeLossy [0xF0, 0x9F, 0x98, 0x80] = "😀" := by decide

end Text

end ScriptCore
