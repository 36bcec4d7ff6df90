import AvantimePlatform.Identity.Totp
import AvantimePlatform.Lib.Int32Shifts

/-!
# Base32

The two loops of `mfa.ts` between the bytes of a secret and its text, with their accumulators as
signed 32-bit integers.  Neither accumulator is masked: after a few bytes the digits that were
written or read long ago leave it at the high end, and only the low bits count.

`base32_roundTrip` is the result.  Between two bytes the encoder has fewer than five bits left,
and the decoder holds the other bits of the same byte.
-/

namespace AvantimePlatform.Identity

open AvantimePlatform AvantimePlatform.Checked AvantimePlatform.Int32Shifts

/-! ## The loops -/

/-- `BASE32_ALPHABET[index]`; a masked index is below 32. -/
def base32Letter (index : Nat) : Char := base32Alphabet.getD index '='

/-- The inner loop of `base32Encode`: its letters, and the bits that are left. -/
def base32Letters (value : Int32) : Nat → List Char × Nat
  | bits + 5 =>
    let (letters, left) := base32Letters value bits
    (base32Letter (mask (shiftRight value bits) 5) :: letters, left)
  | bits => ([], bits)

/-- The loop of `base32Encode` over the bytes, and the letter of the last bits. -/
def base32EncodeLoop : List UInt8 → Int32 → Nat → List Char
  | [], value, bits =>
    if 0 < bits then [base32Letter (mask (shiftLeft value (5 - bits)) 5)] else []
  | byte :: bytes, value, bits =>
    let value := push value 8 byte.toNat
    let (letters, left) := base32Letters value (bits + 8)
    letters ++ base32EncodeLoop bytes value left

/-- `base32Encode`. -/
def base32Encode (bytes : List UInt8) : String := String.ofList (base32EncodeLoop bytes 0 0)

/-- The loop of `base32Decode`. -/
def base32SignedLoop : List Char → Int32 → Nat → Except String (List UInt8)
  | [], _, _ => .ok []
  | c :: cs, accumulator, bits => do
    require (c ∈ base32Alphabet) "TOTP secret is invalid."
    let accumulator := push accumulator 5 (base32Alphabet.idxOf c)
    let bits := bits + 5
    if 8 ≤ bits then
      let rest ← base32SignedLoop cs accumulator (bits - 8)
      return UInt8.ofNat (mask (shiftRight accumulator (bits - 8)) 8) :: rest
    else base32SignedLoop cs accumulator bits

/-- `base32Decode`. -/
def base32SignedDecode (value : String) : Except String (List UInt8) :=
  base32SignedLoop (base32Normalize value) 0 0

/-! ## The decoder in arithmetic -/

variable {c : Char} {cs : List Char} {index accumulator bits : Nat}

theorem idxOf_lt_of_mem (h : c ∈ base32Alphabet) : base32Alphabet.idxOf c < 2 ^ 5 :=
  List.idxOf_lt_length_of_mem h

/-- The signed accumulator of the decoder and the unsigned one of `base32Loop` have the same
bits. -/
theorem base32SignedLoop_eq (value : Int32) (h : bits < 8) :
    base32SignedLoop cs value bits = base32Loop cs (unsigned value) bits := by
  induction cs generalizing value bits with
  | nil => rfl
  | cons c cs ih =>
      unfold base32SignedLoop base32Loop
      by_cases hc : c ∈ base32Alphabet
      · have hpush : unsigned (push value 5 (base32Alphabet.idxOf c)) =
            unsigned value * 32 % 2 ^ 32 + base32Alphabet.idxOf c :=
          unsigned_push (by omega) (idxOf_lt_of_mem hc)
        simp only [require, if_pos hc]
        by_cases hbits : 8 ≤ bits + 5
        · simp only [if_pos hbits]
          rw [ih _ (by omega), hpush, mask_shiftRight (by omega) (by omega), hpush]
          rfl
        · simp only [if_neg hbits]
          rw [ih _ (by omega), hpush]
      · simp only [require, if_neg hc]
        rfl

theorem base32SignedDecode_eq (value : String) : base32SignedDecode value = base32Decode value :=
  base32SignedLoop_eq 0 (by omega)

/-! ## One letter -/

theorem base32Letter_mem (h : index < 32) : base32Letter index ∈ base32Alphabet := by
  unfold base32Letter
  rw [List.getD_eq_getElem _ _ h]
  exact List.getElem_mem h

theorem idxOf_base32Letter (h : index < 32) :
    base32Alphabet.idxOf (base32Letter index) = index := by
  have hall : ∀ index : Fin 32, base32Alphabet.idxOf (base32Letter index) = index := by decide
  exact hall ⟨index, h⟩

/-- A letter that does not complete a byte. -/
theorem base32Loop_hold (hindex : index < 32) (hbits : bits < 3) :
    base32Loop (base32Letter index :: cs) accumulator bits =
      base32Loop cs (accumulator * 32 % 2 ^ 32 + index) (bits + 5) := by
  rw [base32Loop, idxOf_base32Letter hindex]
  simp only [require, if_pos (base32Letter_mem hindex), if_neg (show ¬8 ≤ bits + 5 by omega)]
  rfl

/-- A letter that completes a byte. -/
theorem base32Loop_emit {rest : List UInt8} (hindex : index < 32) (hbits : 3 ≤ bits)
    (hrest : base32Loop cs (accumulator * 32 % 2 ^ 32 + index) (bits - 3) = .ok rest) :
    base32Loop (base32Letter index :: cs) accumulator bits =
      .ok (UInt8.ofNat ((accumulator * 32 % 2 ^ 32 + index) / 2 ^ (bits - 3) % 256) :: rest) := by
  have hleft : bits + 5 - 8 = bits - 3 := by omega
  rw [base32Loop, idxOf_base32Letter hindex]
  simp only [require, if_pos (base32Letter_mem hindex), if_pos (show 8 ≤ bits + 5 by omega),
    hleft, hrest]
  rfl

/-! ## The round trip -/

/-- The byte whose first bits the decoder holds and whose last `left` bits the encoder has. -/
def sharedByte (accumulator value left : Nat) : List UInt8 :=
  if left = 0 then []
  else [UInt8.ofNat (accumulator % 2 ^ (8 - left) * 2 ^ left + value % 2 ^ left)]

theorem sharedByte_eq {value left : Nat} {byte : UInt8} (hleft : left ≠ 0)
    (h : accumulator % 2 ^ (8 - left) * 2 ^ left + value % 2 ^ left = byte.toNat) :
    sharedByte accumulator value left = [byte] := by
  unfold sharedByte
  rw [if_neg hleft, h, UInt8.ofNat_toNat]

theorem cons_sharedByte {value left n : Nat} {bytes : List UInt8} (hleft : left ≠ 0)
    (h : n = accumulator % 2 ^ (8 - left) * 2 ^ left + value % 2 ^ left) :
    UInt8.ofNat n :: bytes = sharedByte accumulator value left ++ bytes := by
  unfold sharedByte
  rw [if_neg hleft, h, List.singleton_append]

/-- The last letter: the bits that are left, filled up with zeros. -/
theorem base32Loop_last (value : Int32) {left : Nat} (hpos : 0 < left) (hleft : left < 5) :
    base32Loop [base32Letter (mask (shiftLeft value (5 - left)) 5)] accumulator (8 - left) =
      .ok (sharedByte accumulator (unsigned value) left) := by
  have hletter : mask (shiftLeft value (5 - left)) 5 =
      unsigned value * 2 ^ (5 - left) % 2 ^ 32 % 2 ^ 5 := by
    rw [mask_eq (by omega), unsigned_shiftLeft (by omega)]
  have hbyte : (accumulator * 32 % 2 ^ 32 + unsigned value * 2 ^ (5 - left) % 2 ^ 32 % 2 ^ 5) /
      2 ^ (8 - left - 3) % 256 =
        accumulator % 2 ^ (8 - left) * 2 ^ left + unsigned value % 2 ^ left := by
    interval_cases left <;> omega
  have hindex : unsigned value * 2 ^ (5 - left) % 2 ^ 32 % 2 ^ 5 < 32 := Nat.mod_lt _ (by omega)
  rw [hletter, base32Loop_emit hindex (by omega) rfl, hbyte]
  unfold sharedByte
  rw [if_neg (by omega)]

/-- The decoder reads back what the encoder writes.  The induction is on the bytes that the
encoder has yet to read; between two bytes `left` decides how the next one is cut. -/
theorem base32Loop_encodeLoop (bytes : List UInt8) (value : Int32) (left accumulator : Nat)
    (hleft : left < 5) :
    base32Loop (base32EncodeLoop bytes value left) accumulator ((8 - left) % 8) =
      .ok (sharedByte accumulator (unsigned value) left ++ bytes) := by
  induction bytes generalizing value left accumulator with
  | nil =>
      unfold base32EncodeLoop
      by_cases hpos : 0 < left
      · rw [if_pos hpos, Nat.mod_eq_of_lt (by omega), base32Loop_last value hpos hleft,
          List.append_nil]
      · obtain rfl : left = 0 := by omega
        rfl
  | cons byte bytes ih =>
      have hbyte : byte.toNat < 256 := byte.toNat_lt
      have hpush : unsigned (push value 8 byte.toNat) =
          unsigned value * 256 % 2 ^ 32 + byte.toNat := unsigned_push (by omega) hbyte
      have hletter (shift : Nat) (hshift : shift < 32) :
          mask (shiftRight (push value 8 byte.toNat) shift) 5 =
            (unsigned value * 256 % 2 ^ 32 + byte.toNat) / 2 ^ shift % 32 := by
        rw [mask_shiftRight hshift (by omega), hpush]
        rfl
      have hindex (n : Nat) : n % 32 < 32 := Nat.mod_lt _ (by omega)
      rw [base32EncodeLoop]
      generalize push value 8 byte.toNat = next at hpush hletter ⊢
      interval_cases left
      · show base32Loop (base32Letter (mask (shiftRight next 3) 5) ::
          base32EncodeLoop bytes next 3) accumulator 0 = _
        rw [hletter 3 (by omega), base32Loop_hold (hindex _) (by omega)]
        refine (ih next 3 _ (by omega)).trans ?_
        rw [@sharedByte_eq _ _ _ byte (by omega) (by rw [hpush]; omega)]
        rfl
      · show base32Loop (base32Letter (mask (shiftRight next 4) 5) ::
          base32EncodeLoop bytes next 4) accumulator 7 = _
        rw [hletter 4 (by omega), base32Loop_emit (hindex _) (by omega) (ih next 4 _ (by omega)),
          @sharedByte_eq _ _ _ byte (by omega) (by rw [hpush]; omega)]
        exact congrArg _ (cons_sharedByte (by omega) (by omega))
      · show base32Loop (base32Letter (mask (shiftRight next 5) 5) ::
          base32Letter (mask (shiftRight next 0) 5) :: base32EncodeLoop bytes next 0)
            accumulator 6 = _
        rw [hletter 5 (by omega), hletter 0 (by omega), base32Loop_emit (hindex _) (by omega)
          (base32Loop_emit (hindex _) (by omega) (ih next 0 _ (by omega)))]
        have hrest (n : Nat) (h : n = byte.toNat) : UInt8.ofNat n :: bytes = byte :: bytes := by
          rw [h, UInt8.ofNat_toNat]
        refine congrArg _ ((congrArg (List.cons _) (hrest _ ?_)).trans
          (cons_sharedByte (by omega) ?_))
        · omega
        · omega
      · show base32Loop (base32Letter (mask (shiftRight next 6) 5) ::
          base32Letter (mask (shiftRight next 1) 5) :: base32EncodeLoop bytes next 1)
            accumulator 5 = _
        rw [hletter 6 (by omega), hletter 1 (by omega), base32Loop_emit (hindex _) (by omega)
          ((base32Loop_hold (hindex _) (by omega)).trans (ih next 1 _ (by omega))),
          @sharedByte_eq _ _ _ byte (by omega) (by rw [hpush]; omega)]
        exact congrArg _ (cons_sharedByte (by omega) (by omega))
      · show base32Loop (base32Letter (mask (shiftRight next 7) 5) ::
          base32Letter (mask (shiftRight next 2) 5) :: base32EncodeLoop bytes next 2)
            accumulator 4 = _
        rw [hletter 7 (by omega), hletter 2 (by omega), base32Loop_emit (hindex _) (by omega)
          ((base32Loop_hold (hindex _) (by omega)).trans (ih next 2 _ (by omega))),
          @sharedByte_eq _ _ _ byte (by omega) (by rw [hpush]; omega)]
        exact congrArg _ (cons_sharedByte (by omega) (by omega))

/-- A text that is read has only letters of the alphabet. -/
theorem mem_of_base32Loop_eq_ok {bytes : List UInt8}
    (h : base32Loop cs accumulator bits = .ok bytes) : ∀ c ∈ cs, c ∈ base32Alphabet := by
  induction cs generalizing accumulator bits bytes with
  | nil => simp
  | cons c cs ih =>
      rw [base32Loop] at h
      obtain ⟨hc, h⟩ := seq_eq_ok.mp h
      have hmem : c ∈ base32Alphabet := require_eq_ok.mp hc
      have hrest : ∀ c ∈ cs, c ∈ base32Alphabet := by
        dsimp only at h
        split at h
        · obtain ⟨rest, hread, -⟩ := bind_eq_ok.mp h
          exact ih hread
        · exact ih h
      exact List.forall_mem_cons.mpr ⟨hmem, hrest⟩

theorem base32Normalize_ofList (h : ∀ c ∈ cs, c ∈ base32Alphabet) :
    base32Normalize (String.ofList cs) = cs := by
  have hall : base32Alphabet.all (fun c =>
      c.toUpper == c && !(c == '=') && !Text.isBlank c) = true := by decide +kernel
  have hplain (c : Char) (hc : c ∈ base32Alphabet) : c.toUpper = c ∧ (c == '=') = false ∧
      Text.isBlank c = false := by
    simpa [and_assoc] using List.all_eq_true.mp hall c hc
  have hupper : cs.map Char.toUpper = cs := by
    rw [List.map_congr_left fun c hc => (hplain c (h c hc)).1, List.map_id']
  have hpadding : cs.reverse.dropWhile (· == '=') = cs.reverse := by
    rw [List.dropWhile_eq_self_iff]
    intro hlength
    have hlast := (hplain _ (h _ (List.mem_reverse.mp (List.getElem_mem hlength)))).2.1
    rw [hlast]
    exact Bool.false_ne_true
  have hblank : cs.filter (fun c => !Text.isBlank c) = cs := by
    rw [List.filter_eq_self]
    intro c hc
    rw [(hplain c (h c hc)).2.2]
    rfl
  unfold base32Normalize String.toUpper
  rw [String.toList_map, String.toList_ofList, hupper, hpadding, List.reverse_reverse, hblank]

/-- The bytes of every secret come back from its text. -/
theorem base32_roundTrip (bytes : List UInt8) :
    base32SignedDecode (base32Encode bytes) = .ok bytes := by
  have hloop : base32Loop (base32EncodeLoop bytes 0 0) 0 0 = .ok bytes :=
    base32Loop_encodeLoop bytes 0 0 0 (by omega)
  rw [base32SignedDecode_eq]
  unfold base32Decode base32Encode
  rw [base32Normalize_ofList (mem_of_base32Loop_eq_ok hloop), hloop]

end AvantimePlatform.Identity
