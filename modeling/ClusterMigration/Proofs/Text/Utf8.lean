import ClusterMigration.Text.Utf8
import Mathlib.Tactic.SplitIfs

/-!
# Text through UTF-8 and back

A text that is encoded and read again is the same text, and nothing is read as it but what
encodes it, as `decode?_eq_some_iff` says. Both ways are followed one character at a time, with a
case for each length of a sequence.
-/

namespace ClusterMigration

namespace Utf8

private theorem lead_ofNat {n : Nat} (h : n < 256) :
    Lead.of (UInt8.ofNat n) =
      if n < 0x80 then .whole (Char.ofNat n)
      else if n < 0xC2 then .malformed
      else if n < 0xE0 then .opens ⟨n % 32, 0, 0x80, 0xBF⟩
      else if n = 0xE0 then .opens ⟨0, 1, 0xA0, 0xBF⟩
      else if n = 0xED then .opens ⟨13, 1, 0x80, 0x9F⟩
      else if n < 0xF0 then .opens ⟨n % 16, 1, 0x80, 0xBF⟩
      else if n = 0xF0 then .opens ⟨0, 2, 0x90, 0xBF⟩
      else if n < 0xF4 then .opens ⟨n % 8, 2, 0x80, 0xBF⟩
      else if n = 0xF4 then .opens ⟨4, 2, 0x80, 0x8F⟩
      else .malformed := by
  have hn : (UInt8.ofNat n).toNat = n := by
    rw [UInt8.toNat_ofNat']
    exact Nat.mod_eq_of_lt h
  simp only [Lead.of, UInt8.lt_iff_toNat_lt, ← UInt8.toNat_inj, hn]
  rfl

private theorem pieces_continue {s : Unfinished} {n : Nat} (h : n < 256)
    (hleast : s.least.toNat ≤ n) (hgreatest : n ≤ s.greatest.toNat) (rest : Bytes) :
    pieces (some s) (UInt8.ofNat n :: rest) =
      match s.after with
      | 0 => some (Char.ofNat (s.bits * 64 + n % 64)) :: pieces none rest
      | after + 1 => pieces (some ⟨s.bits * 64 + n % 64, after, 0x80, 0xBF⟩) rest := by
  have hn : (UInt8.ofNat n).toNat = n := by
    rw [UInt8.toNat_ofNat']
    exact Nat.mod_eq_of_lt h
  have hrange : s.least ≤ UInt8.ofNat n ∧ UInt8.ofNat n ≤ s.greatest := by
    rw [UInt8.le_iff_toNat_le, UInt8.le_iff_toNat_le, hn]
    exact ⟨hleast, hgreatest⟩
  have hstep := pieces.eq_def (some s) (UInt8.ofNat n :: rest)
  simp only [if_pos hrange, hn] at hstep
  exact hstep

private theorem pieces_lead {n : Nat} {s : Unfinished} (rest : Bytes)
    (h : Lead.of (UInt8.ofNat n) = .opens s) :
    pieces none (UInt8.ofNat n :: rest) = pieces (some s) rest := by
  rw [pieces.eq_def]
  simp only [h]

/-- The first of three bytes lets the second one pass: it is not overlong and no surrogate. -/
private theorem lead_three {v : Nat} (hleast : 0x7FF < v) (hgreatest : v ≤ 0xFFFF)
    (hvalid : v < 0xD800 ∨ 0xDFFF < v) :
    ∃ s, Lead.of (UInt8.ofNat (v / 4096 % 16 + 224)) = .opens s ∧
      s.bits = v / 4096 ∧ s.after = 1 ∧ s.least.toNat ≤ v / 64 % 64 + 128 ∧
      v / 64 % 64 + 128 ≤ s.greatest.toNat := by
  have hlead := lead_ofNat (n := v / 4096 % 16 + 224) (by omega)
  rw [if_neg (by omega), if_neg (by omega), if_neg (by omega)] at hlead
  by_cases hE0 : v / 4096 % 16 + 224 = 0xE0
  · rw [if_pos hE0] at hlead
    refine ⟨_, hlead, ?_, rfl, ?_, ?_⟩ <;> simp <;> omega
  · rw [if_neg hE0] at hlead
    by_cases hED : v / 4096 % 16 + 224 = 0xED
    · rw [if_pos hED] at hlead
      refine ⟨_, hlead, ?_, rfl, ?_, ?_⟩ <;> simp <;> omega
    · rw [if_neg hED, if_pos (by omega)] at hlead
      refine ⟨_, hlead, ?_, rfl, ?_, ?_⟩ <;> simp <;> omega

/-- The first of four bytes lets the second one pass: it is not overlong and not beyond the
last code point. -/
private theorem lead_four {v : Nat} (hleast : 0xFFFF < v) (hgreatest : v < 0x110000) :
    ∃ s, Lead.of (UInt8.ofNat (v / 262144 % 8 + 240)) = .opens s ∧
      s.bits = v / 262144 ∧ s.after = 2 ∧ s.least.toNat ≤ v / 4096 % 64 + 128 ∧
      v / 4096 % 64 + 128 ≤ s.greatest.toNat := by
  have hlead := lead_ofNat (n := v / 262144 % 8 + 240) (by omega)
  rw [if_neg (by omega), if_neg (by omega), if_neg (by omega), if_neg (by omega),
    if_neg (by omega), if_neg (by omega)] at hlead
  by_cases hF0 : v / 262144 % 8 + 240 = 0xF0
  · rw [if_pos hF0] at hlead
    refine ⟨_, hlead, ?_, rfl, ?_, ?_⟩ <;> simp <;> omega
  · rw [if_neg hF0] at hlead
    by_cases hF4 : v / 262144 % 8 + 240 = 0xF4
    · rw [if_neg (by omega), if_pos hF4] at hlead
      refine ⟨_, hlead, ?_, rfl, ?_, ?_⟩ <;> simp <;> omega
    · rw [if_pos (by omega)] at hlead
      refine ⟨_, hlead, ?_, rfl, ?_, ?_⟩ <;> simp <;> omega

theorem pieces_encodeChar (c : Char) (rest : Bytes) :
    pieces none (String.utf8EncodeChar c ++ rest) = some c :: pieces none rest := by
  obtain ⟨v, hv⟩ : ∃ v, v = c.val.toNat := ⟨_, rfl⟩
  have hvalid : v < 0xD800 ∨ (0xDFFF < v ∧ v < 0x110000) := by
    rw [hv]
    exact c.valid
  have hc : Char.ofNat v = c := by
    rw [hv]
    exact Char.ofNat_toNat c
  simp only [String.utf8EncodeChar, ← hv]
  split
  · have hlead := lead_ofNat (n := v) (by omega)
    rw [if_pos (by omega), hc] at hlead
    rw [List.cons_append, pieces.eq_def]
    simp only [hlead]
    rfl
  · split
    · have hlead := lead_ofNat (n := v / 64 % 32 + 192) (by omega)
      rw [if_neg (by omega), if_neg (by omega), if_pos (by omega)] at hlead
      rw [List.cons_append, pieces_lead _ hlead, List.cons_append,
        pieces_continue (by omega) (by simp) (by simp; omega)]
      simp only
      rw [show (v / 64 % 32 + 192) % 32 * 64 + (v % 64 + 128) % 64 = v by omega, hc]
      rfl
    · split
      · obtain ⟨s, hlead, hbits, hafter, hs⟩ :=
          lead_three (v := v) (by omega) (by omega) (by omega)
        rw [List.cons_append, pieces_lead _ hlead, List.cons_append,
          pieces_continue (by omega) hs.1 hs.2]
        simp only [hafter, hbits]
        rw [List.cons_append, pieces_continue (by omega) (by simp) (by simp; omega)]
        simp only
        rw [show (v / 4096 * 64 + (v / 64 % 64 + 128) % 64) * 64 + (v % 64 + 128) % 64 = v
          by omega, hc]
        rfl
      · obtain ⟨s, hlead, hbits, hafter, hs⟩ := lead_four (v := v) (by omega) (by omega)
        rw [List.cons_append, pieces_lead _ hlead, List.cons_append,
          pieces_continue (by omega) hs.1 hs.2]
        simp only [hafter, hbits]
        rw [List.cons_append, pieces_continue (by omega) (by simp) (by simp; omega)]
        simp only
        rw [List.cons_append, pieces_continue (by omega) (by simp) (by simp; omega)]
        simp only
        rw [show ((v / 262144 * 64 + (v / 4096 % 64 + 128) % 64) * 64 +
          (v / 64 % 64 + 128) % 64) * 64 + (v % 64 + 128) % 64 = v by omega, hc]
        rfl

theorem pieces_flatMap (chars : List Char) :
    pieces none (chars.flatMap String.utf8EncodeChar) = chars.map some := by
  induction chars with
  | nil => rfl
  | cons c rest ih => rw [List.flatMap_cons, pieces_encodeChar, ih, List.map_cons]

theorem encode_eq_flatMap (text : String) :
    encode text = text.toList.flatMap String.utf8EncodeChar := by
  rw [encode, String.toUTF8, ← String.utf8Encode_toList, List.utf8Encode,
    List.toList_data_toByteArray]

theorem chars?_encode (text : String) : chars? (encode text) = some text.toList := by
  rw [chars?, encode_eq_flatMap, pieces_flatMap, List.mapM_map]
  exact (List.mapM_pure (m := Option) (f := id)).trans (by simp)

theorem decode?_encode (text : String) : decode? (encode text) = some text := by
  rw [decode?, chars?_encode, Option.map_some, String.ofList_toList]

theorem encode_injective : Function.Injective encode := by
  intro a b h
  have hdecoded : decode? (encode a) = decode? (encode b) := congrArg decode? h
  rw [decode?_encode, decode?_encode] at hdecoded
  exact Option.some.inj hdecoded

/-! ## Sequences of each length -/

variable {a b c d : UInt8}

private theorem eq_ofNat {n : Nat} (h : a.toNat = n) : UInt8.ofNat n = a := by
  rw [← h, UInt8.ofNat_toNat]

private theorem val_ofNat {n : Nat} (h : n < 0xD800 ∨ 0xDFFF < n ∧ n < 0x110000) :
    (Char.ofNat n).val.toNat = n := by
  rw [Char.ofNat, dif_pos h]
  rfl

theorem encodeChar_one (ha : a.toNat < 0x80) :
    String.utf8EncodeChar (Char.ofNat a.toNat) = [a] := by
  simp only [String.utf8EncodeChar, val_ofNat (n := a.toNat) (by omega)]
  rw [if_pos (by omega), eq_ofNat rfl]

theorem encodeChar_two (ha : 0xC2 ≤ a.toNat ∧ a.toNat < 0xE0)
    (hb : 0x80 ≤ b.toNat ∧ b.toNat ≤ 0xBF) :
    String.utf8EncodeChar (Char.ofNat (a.toNat % 32 * 64 + b.toNat % 64)) = [a, b] := by
  obtain ⟨v, hv⟩ : ∃ v, v = a.toNat % 32 * 64 + b.toNat % 64 := ⟨_, rfl⟩
  simp only [← hv, String.utf8EncodeChar, val_ofNat (n := v) (by omega)]
  rw [if_neg (by omega), if_pos (by omega), eq_ofNat (a := a) (by omega),
    eq_ofNat (a := b) (by omega)]

/-- The second byte of three bounds the value from below by what fewer bytes can hold, and keeps it
out of the surrogates. -/
theorem encodeChar_three (ha : 0xE0 ≤ a.toNat ∧ a.toNat < 0xF0)
    (hb : 0x80 ≤ b.toNat ∧ b.toNat ≤ 0xBF) (hleast : a.toNat = 0xE0 → 0xA0 ≤ b.toNat)
    (hgreatest : a.toNat = 0xED → b.toNat ≤ 0x9F) (hc : 0x80 ≤ c.toNat ∧ c.toNat ≤ 0xBF) :
    String.utf8EncodeChar
      (Char.ofNat ((a.toNat % 16 * 64 + b.toNat % 64) * 64 + c.toNat % 64)) = [a, b, c] := by
  obtain ⟨v, hv⟩ : ∃ v, v = (a.toNat % 16 * 64 + b.toNat % 64) * 64 + c.toNat % 64 := ⟨_, rfl⟩
  simp only [← hv, String.utf8EncodeChar, val_ofNat (n := v) (by omega)]
  rw [if_neg (by omega), if_neg (by omega), if_pos (by omega), eq_ofNat (a := a) (by omega),
    eq_ofNat (a := b) (by omega), eq_ofNat (a := c) (by omega)]

theorem encodeChar_four (ha : 0xF0 ≤ a.toNat ∧ a.toNat ≤ 0xF4)
    (hb : 0x80 ≤ b.toNat ∧ b.toNat ≤ 0xBF) (hleast : a.toNat = 0xF0 → 0x90 ≤ b.toNat)
    (hgreatest : a.toNat = 0xF4 → b.toNat ≤ 0x8F) (hc : 0x80 ≤ c.toNat ∧ c.toNat ≤ 0xBF)
    (hd : 0x80 ≤ d.toNat ∧ d.toNat ≤ 0xBF) :
    String.utf8EncodeChar (Char.ofNat
      (((a.toNat % 8 * 64 + b.toNat % 64) * 64 + c.toNat % 64) * 64 + d.toNat % 64)) =
        [a, b, c, d] := by
  obtain ⟨v, hv⟩ : ∃ v, v =
    ((a.toNat % 8 * 64 + b.toNat % 64) * 64 + c.toNat % 64) * 64 + d.toNat % 64 := ⟨_, rfl⟩
  simp only [← hv, String.utf8EncodeChar, val_ofNat (n := v) (by omega)]
  rw [if_neg (by omega), if_neg (by omega), if_neg (by omega), eq_ofNat (a := a) (by omega),
    eq_ofNat (a := b) (by omega), eq_ofNat (a := c) (by omega), eq_ofNat (a := d) (by omega)]

/-! ## Nothing else is read -/

/-- The sequence that a byte opens, and what it asks of the next byte. -/
private inductive Opened (a : UInt8) (s : Unfinished) : Prop
  | two (bits : s.bits = a.toNat % 32) (after : s.after = 0)
      (first : 0xC2 ≤ a.toNat ∧ a.toNat < 0xE0)
      (second : ∀ b, s.least ≤ b → b ≤ s.greatest → 0x80 ≤ b.toNat ∧ b.toNat ≤ 0xBF)
  | three (bits : s.bits = a.toNat % 16) (after : s.after = 1)
      (first : 0xE0 ≤ a.toNat ∧ a.toNat < 0xF0)
      (second : ∀ b, s.least ≤ b → b ≤ s.greatest → (0x80 ≤ b.toNat ∧ b.toNat ≤ 0xBF) ∧
        (a.toNat = 0xE0 → 0xA0 ≤ b.toNat) ∧ (a.toNat = 0xED → b.toNat ≤ 0x9F))
  | four (bits : s.bits = a.toNat % 8) (after : s.after = 2)
      (first : 0xF0 ≤ a.toNat ∧ a.toNat ≤ 0xF4)
      (second : ∀ b, s.least ≤ b → b ≤ s.greatest → (0x80 ≤ b.toNat ∧ b.toNat ≤ 0xBF) ∧
        (a.toNat = 0xF0 → 0x90 ≤ b.toNat) ∧ (a.toNat = 0xF4 → b.toNat ≤ 0x8F))

private theorem lead_cases (a : UInt8) :
    (Lead.of a = .whole (Char.ofNat a.toNat) ∧ a.toNat < 0x80) ∨ Lead.of a = .malformed ∨
      ∃ s, Lead.of a = .opens s ∧ Opened a s := by
  have hlead := lead_ofNat a.toNat_lt
  rw [UInt8.ofNat_toNat] at hlead
  -- the ranges in the order of the reader, the second and the last one of them malformed
  split_ifs at hlead with hwhole
  · exact .inl ⟨hlead, hwhole⟩
  · exact .inr (.inl hlead)
  · refine .inr (.inr ⟨_, hlead, .two rfl rfl (by omega) fun b hleast hgreatest => ?_⟩)
    simp [UInt8.le_iff_toNat_le] at hleast hgreatest
    omega
  · refine .inr (.inr ⟨_, hlead, .three ?_ rfl (by omega) fun b hleast hgreatest => ?_⟩)
    · dsimp only
      omega
    · simp [UInt8.le_iff_toNat_le] at hleast hgreatest
      omega
  · refine .inr (.inr ⟨_, hlead, .three ?_ rfl (by omega) fun b hleast hgreatest => ?_⟩)
    · dsimp only
      omega
    · simp [UInt8.le_iff_toNat_le] at hleast hgreatest
      omega
  · refine .inr (.inr ⟨_, hlead, .three rfl rfl (by omega) fun b hleast hgreatest => ?_⟩)
    simp [UInt8.le_iff_toNat_le] at hleast hgreatest
    omega
  · refine .inr (.inr ⟨_, hlead, .four ?_ rfl (by omega) fun b hleast hgreatest => ?_⟩)
    · dsimp only
      omega
    · simp [UInt8.le_iff_toNat_le] at hleast hgreatest
      omega
  · refine .inr (.inr ⟨_, hlead, .four rfl rfl (by omega) fun b hleast hgreatest => ?_⟩)
    simp [UInt8.le_iff_toNat_le] at hleast hgreatest
    omega
  · refine .inr (.inr ⟨_, hlead, .four ?_ rfl (by omega) fun b hleast hgreatest => ?_⟩)
    · dsimp only
      omega
    · simp [UInt8.le_iff_toNat_le] at hleast hgreatest
      omega
  · exact .inr (.inl hlead)

theorem exists_continuation {s : Unfinished} {bytes : Bytes} {chars : List Char}
    (h : pieces (some s) bytes = chars.map some) :
    ∃ b rest, bytes = b :: rest ∧ s.least ≤ b ∧ b ≤ s.greatest ∧
      (match s.after with
        | 0 => some (Char.ofNat (s.bits * 64 + b.toNat % 64)) :: pieces none rest
        | after + 1 => pieces (some ⟨s.bits * 64 + b.toNat % 64, after, 0x80, 0xBF⟩) rest) =
          chars.map some := by
  cases bytes with
  | nil => cases chars <;> cases h
  | cons b rest =>
      rw [pieces.eq_def] at h
      simp only at h
      split at h
      · rename_i hrange
        exact ⟨b, rest, rfl, hrange.1, hrange.2, h⟩
      · split at h <;> cases chars <;> cases h

theorem exists_sequence {bytes : Bytes} {chars : List Char} (hne : bytes ≠ [])
    (h : pieces none bytes = chars.map some) :
    ∃ x xs rest, chars = x :: xs ∧ bytes = String.utf8EncodeChar x ++ rest ∧
      pieces none rest = xs.map some := by
  have hsplit {x : Char} {front rest : Bytes} (hx : String.utf8EncodeChar x = front)
      (h : some x :: pieces none rest = chars.map some) :
      ∃ x xs tail, chars = x :: xs ∧ front ++ rest = String.utf8EncodeChar x ++ tail ∧
        pieces none tail = xs.map some := by
    obtain ⟨y, xs, rfl, hy, hxs⟩ := List.map_eq_cons_iff.mp h.symm
    obtain rfl := Option.some.inj hy
    exact ⟨y, xs, rest, rfl, by rw [hx], hxs.symm⟩
  obtain ⟨a, rest, rfl⟩ := List.exists_cons_of_ne_nil hne
  rw [pieces.eq_def] at h
  rcases lead_cases a with ⟨hlead, ha⟩ | hlead | ⟨s, hlead, hopened⟩
  · simp only [hlead] at h
    exact hsplit (encodeChar_one ha) h
  · simp only [hlead] at h
    cases chars <;> cases h
  · simp only [hlead] at h
    obtain ⟨b, rest, rfl, hleast, hgreatest, h⟩ := exists_continuation h
    cases hopened with
    | two hbits hafter ha hb =>
        simp only [hafter, hbits] at h
        exact hsplit (encodeChar_two ha (hb b hleast hgreatest)) h
    | three hbits hafter ha hb =>
        obtain ⟨hrange, hleast, hgreatest⟩ := hb b hleast hgreatest
        simp only [hafter, hbits] at h
        obtain ⟨c, rest, rfl, hc, hc', h⟩ := exists_continuation h
        exact hsplit (encodeChar_three ha hrange hleast hgreatest ⟨hc, hc'⟩) h
    | four hbits hafter ha hb =>
        obtain ⟨hrange, hleast, hgreatest⟩ := hb b hleast hgreatest
        simp only [hafter, hbits] at h
        obtain ⟨c, rest, rfl, hc, hc', h⟩ := exists_continuation h
        obtain ⟨d, rest, rfl, hd, hd', h⟩ := exists_continuation h
        exact hsplit (encodeChar_four ha hrange hleast hgreatest ⟨hc, hc'⟩ ⟨hd, hd'⟩) h

theorem flatMap_of_pieces {bytes : Bytes} {chars : List Char}
    (h : pieces none bytes = chars.map some) : chars.flatMap String.utf8EncodeChar = bytes := by
  induction chars generalizing bytes with
  | nil =>
      cases bytes with
      | nil => rfl
      | cons a rest =>
          obtain ⟨x, xs, tail, hchars, -, -⟩ := exists_sequence (List.cons_ne_nil a rest) h
          cases hchars
  | cons c chars ih =>
      have hne : bytes ≠ [] := by
        rintro rfl
        cases h
      obtain ⟨x, xs, rest, hchars, rfl, hrest⟩ := exists_sequence hne h
      cases hchars
      rw [List.flatMap_cons, ih hrest]

private theorem eq_map_some_of_mapM {l : List (Option Char)} {chars : List Char}
    (h : l.mapM id = some chars) : l = chars.map some := by
  induction l generalizing chars with
  | nil =>
      cases h
      rfl
  | cons o l ih =>
      rw [List.mapM_cons] at h
      obtain ⟨c, ho, h⟩ := Option.bind_eq_some_iff.mp h
      obtain ⟨cs, hl, h⟩ := Option.bind_eq_some_iff.mp h
      cases h
      rw [List.map_cons, ← ih hl, ← ho, id]

/-- Bytes are read as a text just if they encode it. -/
theorem decode?_eq_some_iff {bytes : Bytes} {text : String} :
    decode? bytes = some text ↔ bytes = encode text := by
  constructor
  · intro h
    obtain ⟨chars, hchars, rfl⟩ := Option.map_eq_some_iff.mp h
    rw [encode_eq_flatMap, String.toList_ofList, flatMap_of_pieces (eq_map_some_of_mapM hchars)]
  · rintro rfl
    exact decode?_encode text

theorem decodeLossy_encode (text : String) : decodeLossy (encode text) = text := by
  have hshown : (text.toList.map some).map (·.getD replacement) = text.toList := by
    rw [List.map_map]
    exact List.map_id text.toList
  rw [decodeLossy, encode_eq_flatMap, pieces_flatMap, hshown, String.ofList_toList]

/-- The lossy reading gives the bytes back just if none of them is malformed. -/
theorem encode_decodeLossy_iff {bytes : Bytes} :
    encode (decodeLossy bytes) = bytes ↔ (decode? bytes).isSome = true := by
  rw [Option.isSome_iff_exists]
  constructor
  · intro h
    exact ⟨_, decode?_eq_some_iff.mpr h.symm⟩
  · rintro ⟨text, htext⟩
    obtain rfl := decode?_eq_some_iff.mp htext
    rw [decodeLossy_encode]

end Utf8
end ClusterMigration
