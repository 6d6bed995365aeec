import EnvironmentOperator.Text.Base64

namespace EnvironmentOperator.Text.Base64

theorem octets_of_ascii {bytes : List UInt8} (h : ∀ b ∈ bytes, b.toNat < 128) :
    (String.ofList (bytes.map (fun b => Char.ofNat b.toNat))).toUTF8.data.toList = bytes := by
  rw [String.toUTF8_eq_toByteArray, String.toByteArray_ofList]
  induction bytes with
  | nil => simp
  | cons b bytes ih =>
      have hb : b.toNat < 128 := h b (List.mem_cons_self ..)
      have ih := ih (fun b hb => h b (List.mem_cons_of_mem _ hb))
      have hval : (Char.ofNat b.toNat).val.toNat = b.toNat := by
        have hv : b.toNat.isValidChar := .inl (by omega)
        rw [Char.ofNat, dif_pos hv]
        rfl
      have hone : (Char.ofNat b.toNat).utf8Size = 1 := by
        rw [Char.utf8Size_eq_one_iff, UInt32.le_iff_toNat_le, hval]
        exact Nat.le_of_lt_succ hb
      have hbyte : (Char.ofNat b.toNat).val.toUInt8 = b := by
        rw [← UInt8.toNat_inj, UInt32.toNat_toUInt8, hval]
        exact Nat.mod_eq_of_lt b.toNat_lt
      rw [List.map_cons, List.utf8Encode_cons, List.utf8Encode_singleton, String.utf8EncodeChar_eq_singleton hone,
        hbyte]
      simp [ByteArray.data_append, ih]

theorem toNat_symbol_lt (n : Nat) (h : n < 64) : (symbol n).toNat < 128 := by
  revert n
  decide

theorem lt_of_mem_encode {bytes : List UInt8} : ∀ b ∈ encode bytes, b.toNat < 128 := by
  fun_induction encode bytes with
  | case1 => simp
  | case2 a =>
      have ha := a.toNat_lt
      simp only [List.mem_cons, List.not_mem_nil, or_false, forall_eq_or_imp, forall_eq]
      refine ⟨toNat_symbol_lt _ (by omega), toNat_symbol_lt _ (by omega), ?_, ?_⟩ <;> decide
  | case3 a b =>
      have ha := a.toNat_lt
      have hb := b.toNat_lt
      simp only [List.mem_cons, List.not_mem_nil, or_false, forall_eq_or_imp, forall_eq]
      refine ⟨toNat_symbol_lt _ (by omega), toNat_symbol_lt _ (by omega), toNat_symbol_lt _ (by omega), ?_⟩
      decide
  | case4 a b c rest ih =>
      have ha := a.toNat_lt
      have hb := b.toNat_lt
      have hc := c.toNat_lt
      simp only [List.mem_cons, forall_eq_or_imp]
      exact ⟨toNat_symbol_lt _ (by omega), toNat_symbol_lt _ (by omega), toNat_symbol_lt _ (by omega),
        toNat_symbol_lt _ (by omega), ih⟩

theorem sextet_symbol {n : Nat} (h : n < 64) (offset : Nat) : sextet (symbol n) offset = .ok n := by
  rw [sextet, value?_symbol n h]

theorem lastSymbols_symbol {n : Nat} (h : n < 64) (offset position : Nat) (rest : List UInt8) :
    lastSymbols offset position none (symbol n :: rest) = do
      let (symbols, pads) ← lastSymbols offset (position + 1) none rest
      return ((symbol n, n) :: symbols, pads) := by
  rw [lastSymbols, if_neg (symbol_ne_pad n h), sextet_symbol h]
  rfl

theorem toUInt8_eq {n : Nat} {b : UInt8} (h : n = b.toNat) : n.toUInt8 = b := by
  subst h
  exact UInt8.ofNat_toNat

theorem decodeLast_one (a : UInt8) (offset : Nat) : decodeLast offset (encode [a]) = .ok [a] := by
  have ha := a.toNat_lt
  have hlast : lastSymbols offset 0 none (encode [a]) =
      .ok ([(symbol (a.toNat / 4), a.toNat / 4), (symbol (a.toNat % 4 * 16), a.toNat % 4 * 16)], 2) := by
    rw [encode, lastSymbols_symbol (by omega), lastSymbols_symbol (by omega)]
    rfl
  have hbits : a.toNat % 4 * 16 % 16 = 0 := by omega
  have hquad : (quad (a.toNat / 4) (a.toNat % 4 * 16) 0 0).take 1 = [a] := by
    rw [quad, toUInt8_eq (b := a) (by omega)]
    rfl
  rw [decodeLast, hlast]
  simp [hbits, hquad, encode, pure, Except.pure, bind, Except.bind]

theorem decodeLast_two (a b : UInt8) (offset : Nat) : decodeLast offset (encode [a, b]) = .ok [a, b] := by
  have ha := a.toNat_lt
  have hb := b.toNat_lt
  have hlast : lastSymbols offset 0 none (encode [a, b]) =
      .ok ([(symbol (a.toNat / 4), a.toNat / 4),
        (symbol (a.toNat % 4 * 16 + b.toNat / 16), a.toNat % 4 * 16 + b.toNat / 16),
        (symbol (b.toNat % 16 * 4), b.toNat % 16 * 4)], 1) := by
    rw [encode, lastSymbols_symbol (by omega), lastSymbols_symbol (by omega), lastSymbols_symbol (by omega)]
    rfl
  have hbits : b.toNat % 16 * 4 % 4 = 0 := by omega
  have hquad : (quad (a.toNat / 4) (a.toNat % 4 * 16 + b.toNat / 16) (b.toNat % 16 * 4) 0).take 2 = [a, b] := by
    rw [quad, toUInt8_eq (b := a) (by omega), toUInt8_eq (b := b) (by omega)]
    rfl
  rw [decodeLast, hlast]
  simp [hbits, hquad, encode, pure, Except.pure, bind, Except.bind]

section Three

variable (a b c : UInt8)

theorem quad_three :
    quad (a.toNat / 4) (a.toNat % 4 * 16 + b.toNat / 16) (b.toNat % 16 * 4 + c.toNat / 64) (c.toNat % 64) =
      [a, b, c] := by
  have ha := a.toNat_lt
  have hb := b.toNat_lt
  have hc := c.toNat_lt
  rw [quad, toUInt8_eq (b := a) (by omega), toUInt8_eq (b := b) (by omega), toUInt8_eq (b := c) (by omega)]

theorem decodeLast_three (offset : Nat) : decodeLast offset (encode [a, b, c]) = .ok [a, b, c] := by
  have ha := a.toNat_lt
  have hb := b.toNat_lt
  have hc := c.toNat_lt
  have hlast : lastSymbols offset 0 none (encode [a, b, c]) =
      .ok ([(symbol (a.toNat / 4), a.toNat / 4),
        (symbol (a.toNat % 4 * 16 + b.toNat / 16), a.toNat % 4 * 16 + b.toNat / 16),
        (symbol (b.toNat % 16 * 4 + c.toNat / 64), b.toNat % 16 * 4 + c.toNat / 64),
        (symbol (c.toNat % 64), c.toNat % 64)], 0) := by
    rw [encode, lastSymbols_symbol (by omega), lastSymbols_symbol (by omega), lastSymbols_symbol (by omega),
      lastSymbols_symbol (by omega)]
    rfl
  rw [decodeLast, hlast]
  simp [quad_three, encode, pure, Except.pure, bind, Except.bind]

theorem decodeQuads_more (offset : Nat) {rest : List UInt8} (h : rest ≠ []) :
    decodeQuads offset (encode (a :: b :: c :: rest)) =
      (decodeQuads (offset + 4) (encode rest)).map ([a, b, c] ++ ·) := by
  have ha := a.toNat_lt
  have hb := b.toNat_lt
  have hc := c.toNat_lt
  have hrest : ∃ e tail, encode rest = e :: tail := by
    unfold encode
    split
    · exact absurd rfl h
    all_goals exact ⟨_, _, rfl⟩
  obtain ⟨e, tail, he⟩ := hrest
  rw [encode, he, decodeQuads, sextet_symbol (by omega), sextet_symbol (by omega), sextet_symbol (by omega),
    sextet_symbol (by omega)]
  show (decodeQuads (offset + 4) (e :: tail)).bind _ = _
  rw [quad_three]
  cases decodeQuads (offset + 4) (e :: tail) <;> rfl

end Three

theorem decodeQuads_encode (bytes : List UInt8) (offset : Nat) : decodeQuads offset (encode bytes) = .ok bytes := by
  fun_induction encode bytes generalizing offset with
  | case1 => rfl
  | case2 a => exact decodeLast_one a offset
  | case3 a b => exact decodeLast_two a b offset
  | case4 a b c rest ih =>
      by_cases h : rest = []
      · subst h
        exact decodeLast_three a b c offset
      · have hmore := decodeQuads_more a b c offset h
        rw [ih] at hmore
        exact hmore

theorem length_encode_mod (bytes : List UInt8) : (encode bytes).length % 4 = 0 := by
  fun_induction encode bytes with
  | case1 => rfl
  | case2 a => simp
  | case3 a b => simp
  | case4 a b c rest ih =>
      simp only [List.length_cons]
      omega

theorem decode_encode (bytes : List UInt8) : decode (encode bytes) = .ok bytes := by
  unfold decode
  split
  · rename_i hlen _
    rw [length_encode_mod] at hlen
    exact absurd hlen (by decide)
  · exact decodeQuads_encode bytes 0

theorem decodeText_encodeText (bytes : List UInt8) : decodeText (encodeText bytes) = .ok bytes := by
  rw [decodeText, encodeText, octets_of_ascii lt_of_mem_encode, decode_encode]

end EnvironmentOperator.Text.Base64
