import ClusterMigration.Text.Base64
import Mathlib.Tactic.SplitIfs

/-!
# Bytes through base 64 and back

Reading undoes writing, whatever the bytes and however many of them the last group has, and
the reader accepts nothing but what is written. Both are followed one group at a time.
-/

namespace ClusterMigration

namespace Base64

/-! ## Digits -/

theorem value?_digit {v : Nat} (h : v < 64) : value? (digit v) = some v := by
  have hall : ∀ v < 64, value? (digit v) = some v := by decide
  exact hall v h

theorem digit_ne_pad {v : Nat} (h : v < 64) : digit v ≠ pad := by
  have hall : ∀ v < 64, digit v ≠ pad := by decide
  exact hall v h

theorem digit_of_value? {c : Char} {v : Nat} (h : value? c = some v) : v < 64 ∧ digit v = c := by
  have hc : Char.ofNat c.toNat = c := Char.ofNat_toNat c
  have hrange {a b : Char} (h : a ≤ c ∧ c ≤ b) : a.toNat ≤ c.toNat ∧ c.toNat ≤ b.toNat := h
  have hA : 'A'.toNat = 65 := rfl
  have hZ : 'Z'.toNat = 90 := rfl
  have ha : 'a'.toNat = 97 := rfl
  have hz : 'z'.toNat = 122 := rfl
  have h0 : '0'.toNat = 48 := rfl
  have h9 : '9'.toNat = 57 := rfl
  unfold value? at h
  split_ifs at h with hupper hlower hdigit hplus hslash <;> cases h
  · obtain ⟨hleast, hgreatest⟩ := hrange hupper
    refine ⟨by omega, ?_⟩
    rw [digit, if_pos (by omega), Nat.add_sub_cancel' hleast, hc]
  · obtain ⟨hleast, hgreatest⟩ := hrange hlower
    refine ⟨by omega, ?_⟩
    rw [digit, if_neg (by omega), if_pos (by omega), Nat.add_sub_cancel,
      Nat.add_sub_cancel' hleast, hc]
  · obtain ⟨hleast, hgreatest⟩ := hrange hdigit
    refine ⟨by omega, ?_⟩
    rw [digit, if_neg (by omega), if_neg (by omega), if_pos (by omega), Nat.add_sub_cancel,
      Nat.add_sub_cancel' hleast, hc]
  · exact ⟨by decide, hplus.symm⟩
  · exact ⟨by decide, hslash.symm⟩

theorem value?_eq_some_iff {c : Char} {v : Nat} : value? c = some v ↔ v < 64 ∧ c = digit v := by
  constructor
  · intro h
    obtain ⟨hv, hc⟩ := digit_of_value? h
    exact ⟨hv, hc.symm⟩
  · rintro ⟨hv, rfl⟩
    exact value?_digit hv

/-! ## Groups -/

theorem decodeChars_group {p q r s : Char} (hs : s ≠ pad) (rest : List Char) :
    decodeChars (p :: q :: r :: s :: rest) = (do
      let n := (((← value? p) * 64 + (← value? q)) * 64 + (← value? r)) * 64 + (← value? s)
      let bytes ← decodeChars rest
      some (UInt8.ofNat (n / 65536) :: UInt8.ofNat (n / 256 % 256) :: UInt8.ofNat (n % 256)
        :: bytes)) := by
  cases rest with
  | nil =>
      simp only [decodeChars, if_neg hs]
      rfl
  | cons c rest => rw [decodeChars]; simp

theorem decodeChars_encodeChars (bytes : Bytes) : decodeChars (encodeChars bytes) = some bytes := by
  fun_induction encodeChars bytes with
  | case1 => rfl
  | case2 a n =>
      have ha := a.toNat_lt
      have hn : n = a.toNat * 16 := rfl
      have hword : n / 64 * 64 + n % 64 = n := by omega
      have hbyte : n / 16 = a.toNat := by omega
      simp only [decodeChars, if_true, value?_digit (show n / 64 < 64 by omega),
        value?_digit (show n % 64 < 64 by omega), Option.bind_eq_bind, Option.bind_some, hword,
        hbyte, UInt8.ofNat_toNat]
      exact if_pos (by omega)
  | case3 a b n =>
      have ha := a.toNat_lt
      have hb := b.toNat_lt
      have hn : n = (a.toNat * 256 + b.toNat) * 4 := rfl
      have hword : (n / 4096 * 64 + n / 64 % 64) * 64 + n % 64 = n := by omega
      have hfirst : n / 1024 = a.toNat := by omega
      have hsecond : n / 4 % 256 = b.toNat := by omega
      simp only [decodeChars, if_true, if_neg (digit_ne_pad (show n % 64 < 64 by omega)),
        value?_digit (show n / 4096 < 64 by omega), value?_digit (show n / 64 % 64 < 64 by omega),
        value?_digit (show n % 64 < 64 by omega), Option.bind_eq_bind, Option.bind_some, hword,
        hfirst, hsecond, UInt8.ofNat_toNat]
      exact if_pos (by omega)
  | case4 a b c rest n ih =>
      have ha := a.toNat_lt
      have hb := b.toNat_lt
      have hc := c.toNat_lt
      have hn : n = (a.toNat * 256 + b.toNat) * 256 + c.toNat := rfl
      have hword : ((n / 262144 * 64 + n / 4096 % 64) * 64 + n / 64 % 64) * 64 + n % 64 = n := by
        omega
      have hfirst : n / 65536 = a.toNat := by omega
      have hsecond : n / 256 % 256 = b.toNat := by omega
      have hthird : n % 256 = c.toNat := by omega
      rw [decodeChars_group (digit_ne_pad (by omega)), value?_digit (by omega),
        value?_digit (by omega), value?_digit (by omega), value?_digit (by omega), ih]
      simp only [Option.bind_eq_bind, Option.bind_some, hword, hfirst, hsecond, hthird,
        UInt8.ofNat_toNat]

theorem mem_encodeChars {bytes : Bytes} {c : Char} (h : c ∈ encodeChars bytes) :
    c = pad ∨ ∃ v < 64, c = digit v := by
  fun_induction encodeChars bytes with
  | case1 => cases h
  | case2 a n =>
      have ha := a.toNat_lt
      have hn : n = a.toNat * 16 := rfl
      simp only [List.mem_cons, List.not_mem_nil, or_false] at h
      rcases h with rfl | rfl | rfl | rfl
      · exact .inr ⟨_, by omega, rfl⟩
      · exact .inr ⟨_, by omega, rfl⟩
      · exact .inl rfl
      · exact .inl rfl
  | case3 a b n =>
      have ha := a.toNat_lt
      have hb := b.toNat_lt
      have hn : n = (a.toNat * 256 + b.toNat) * 4 := rfl
      simp only [List.mem_cons, List.not_mem_nil, or_false] at h
      rcases h with rfl | rfl | rfl | rfl
      · exact .inr ⟨_, by omega, rfl⟩
      · exact .inr ⟨_, by omega, rfl⟩
      · exact .inr ⟨_, by omega, rfl⟩
      · exact .inl rfl
  | case4 a b c rest n ih =>
      have ha := a.toNat_lt
      have hb := b.toNat_lt
      have hc := c.toNat_lt
      have hn : n = (a.toNat * 256 + b.toNat) * 256 + c.toNat := rfl
      simp only [List.mem_cons] at h
      rcases h with rfl | rfl | rfl | rfl | h
      · exact .inr ⟨_, by omega, rfl⟩
      · exact .inr ⟨_, by omega, rfl⟩
      · exact .inr ⟨_, by omega, rfl⟩
      · exact .inr ⟨_, by omega, rfl⟩
      · exact ih h

/-! ## Nothing else is read -/

theorem encodeChars_group {i j k l n : Nat} (hi : i < 64) (hj : j < 64) (hk : k < 64) (hl : l < 64)
    (hn : n = ((i * 64 + j) * 64 + k) * 64 + l) (rest : Bytes) :
    encodeChars (UInt8.ofNat (n / 65536) :: UInt8.ofNat (n / 256 % 256) :: UInt8.ofNat (n % 256)
      :: rest) = digit i :: digit j :: digit k :: digit l :: encodeChars rest := by
  have hword : (n / 65536 % 256 * 256 + n / 256 % 256 % 256) * 256 + n % 256 % 256 = n := by omega
  have hfirst : n / 262144 = i := by omega
  have hsecond : n / 4096 % 64 = j := by omega
  have hthird : n / 64 % 64 = k := by omega
  have hfourth : n % 64 = l := by omega
  simp only [encodeChars, UInt8.toNat_ofNat', Nat.reducePow, hword, hfirst, hsecond, hthird,
    hfourth]

theorem encodeChars_of_decodeChars {text : List Char} {bytes : Bytes}
    (h : decodeChars text = some bytes) : encodeChars bytes = text := by
  fun_induction decodeChars text generalizing bytes with
  | case1 =>
      cases h
      rfl
  | case2 p q =>
      simp only [Option.bind_eq_bind, Option.bind_eq_some_iff, value?_eq_some_iff,
        Option.ite_none_right_eq_some] at h
      obtain ⟨i, ⟨hi, rfl⟩, j, ⟨hj, rfl⟩, hunused, h⟩ := h
      cases h
      have hword : (i * 64 + j) / 16 % 256 * 16 = i * 64 + j := by omega
      have hfirst : (i * 64 + j) / 64 = i := by omega
      have hsecond : (i * 64 + j) % 64 = j := by omega
      simp only [encodeChars, UInt8.toNat_ofNat', Nat.reducePow, hword, hfirst, hsecond]
  | case3 p q r hr =>
      simp only [Option.bind_eq_bind, Option.bind_eq_some_iff, value?_eq_some_iff,
        Option.ite_none_right_eq_some] at h
      obtain ⟨i, ⟨hi, rfl⟩, j, ⟨hj, rfl⟩, k, ⟨hk, rfl⟩, hunused, h⟩ := h
      cases h
      obtain ⟨n, hn⟩ : ∃ n, n = (i * 64 + j) * 64 + k := ⟨_, rfl⟩
      rw [← hn] at hunused ⊢
      have hword : (n / 1024 % 256 * 256 + n / 4 % 256 % 256) * 4 = n := by omega
      have hfirst : n / 4096 = i := by omega
      have hsecond : n / 64 % 64 = j := by omega
      have hthird : n % 64 = k := by omega
      simp only [encodeChars, UInt8.toNat_ofNat', Nat.reducePow, hword, hfirst, hsecond, hthird]
  | case4 p q r s hs =>
      simp only [Option.bind_eq_bind, Option.bind_eq_some_iff, value?_eq_some_iff] at h
      obtain ⟨i, ⟨hi, rfl⟩, j, ⟨hj, rfl⟩, k, ⟨hk, rfl⟩, l, ⟨hl, rfl⟩, h⟩ := h
      cases h
      exact encodeChars_group hi hj hk hl rfl []
  | case5 p q r s rest hrest ih =>
      simp only [Option.bind_eq_bind, Option.bind_eq_some_iff, value?_eq_some_iff] at h
      obtain ⟨i, ⟨hi, rfl⟩, j, ⟨hj, rfl⟩, k, ⟨hk, rfl⟩, l, ⟨hl, rfl⟩, bytes, hbytes, h⟩ := h
      cases h
      rw [encodeChars_group hi hj hk hl rfl, ih hbytes]
  | case6 => cases h

/-! ## Texts -/

/-- The bytes of a text in base 64 are those that it was written for, and no other text has
them. -/
theorem decode?_eq_some_iff {text : String} {bytes : Bytes} :
    decode? text = some bytes ↔ text = encode bytes := by
  constructor
  · intro h
    rw [encode, encodeChars_of_decodeChars h, String.ofList_toList]
  · rintro rfl
    rw [decode?, encode, String.toList_ofList, decodeChars_encodeChars]

example : encode [0xFB, 0xEF, 0xFF, 0x00] = "++//AA==" := by decide

theorem decode?_encode (bytes : Bytes) : decode? (encode bytes) = some bytes :=
  decode?_eq_some_iff.mpr rfl

theorem encode_injective : Function.Injective encode := by
  intro a b h
  have hdecoded : some a = some b := by rw [← decode?_encode, h, decode?_encode]
  exact Option.some.inj hdecoded

end Base64
end ClusterMigration
