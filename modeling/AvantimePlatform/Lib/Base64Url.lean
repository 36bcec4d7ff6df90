import Mathlib

/-!
# Bytes as text

`Buffer.from(text, 'base64url')` and `buffer.toString('base64url')`, the same for
hexadecimal text, and the UTF-8 form of a text.

* `decode_encode`: what is written in base64url is read back.
* `mem_encode`: it is written with the characters of the alphabet, so without a dot.
* `ofUtf8_utf8`: a text is read back from its UTF-8 form.

Nothing here names a component of the platform.
-/

namespace AvantimePlatform.Base64Url

abbrev Bytes := List UInt8

/-! ## The alphabet -/

/-- The 64 digits of base64url. -/
def alphabet : List Char :=
  "ABCDEFGHIJKLMNOPQRSTUVWXYZabcdefghijklmnopqrstuvwxyz0123456789-_".toList

def digit (n : Nat) : Char := alphabet.getD n 'A'

/-- The value of a digit.  The two digits of base64 that are others count as well. -/
def value? (c : Char) : Option Nat :=
  if c = '+' then some 62 else if c = '/' then some 63 else alphabet.findIdx? (· == c)

theorem value?_digit : ∀ n < 64, value? (digit n) = some n := by decide +kernel

theorem digit_mem : ∀ n < 64, digit n ∈ alphabet := by decide

/-! ## Reading and writing -/

/-- Three bytes are four digits. -/
def digits : Bytes → List Nat
  | a :: b :: c :: rest =>
    a.toNat / 4 :: (a.toNat % 4 * 16 + b.toNat / 16) :: (b.toNat % 16 * 4 + c.toNat / 64) ::
      c.toNat % 64 :: digits rest
  | [a, b] => [a.toNat / 4, a.toNat % 4 * 16 + b.toNat / 16, b.toNat % 16 * 4]
  | [a] => [a.toNat / 4, a.toNat % 4 * 16]
  | [] => []

/-- The bytes of digits.  A single digit at the end is no byte. -/
def undigits : List Nat → Bytes
  | w :: x :: y :: z :: rest =>
    UInt8.ofNat (w * 4 + x / 16) :: UInt8.ofNat (x % 16 * 16 + y / 4) ::
      UInt8.ofNat (y % 4 * 64 + z) :: undigits rest
  | [w, x, y] => [UInt8.ofNat (w * 4 + x / 16), UInt8.ofNat (x % 16 * 16 + y / 4)]
  | [w, x] => [UInt8.ofNat (w * 4 + x / 16)]
  | _ => []

/-- `buffer.toString('base64url')`. -/
def encode (bytes : Bytes) : List Char := (digits bytes).map digit

/-- `Buffer.from(text, 'base64url')`, which ends at the padding and passes over what is no
digit. -/
def decode (text : List Char) : Bytes :=
  undigits ((text.takeWhile (· ≠ '=')).filterMap value?)

/-! ## The round trip -/

theorem lt_of_mem_digits (bytes : Bytes) : ∀ n ∈ digits bytes, n < 64 := by
  fun_induction digits bytes with
  | case1 a b c rest ih =>
      have ha := a.toNat_lt
      have hb := b.toNat_lt
      have hc := c.toNat_lt
      simp only [List.mem_cons, forall_eq_or_imp]
      refine ⟨?_, ?_, ?_, ?_, ih⟩ <;> omega
  | case2 a b =>
      have ha := a.toNat_lt
      have hb := b.toNat_lt
      simp only [List.mem_cons, List.not_mem_nil, or_false, forall_eq_or_imp, forall_eq]
      refine ⟨?_, ?_, ?_⟩ <;> omega
  | case3 a =>
      have ha := a.toNat_lt
      simp only [List.mem_cons, List.not_mem_nil, or_false, forall_eq_or_imp, forall_eq]
      refine ⟨?_, ?_⟩ <;> omega
  | case4 => simp

/-- A byte from a number that is its value. -/
theorem ofNat_eq {a : UInt8} {n : Nat} (h : n = a.toNat) : UInt8.ofNat n = a := by
  rw [h, UInt8.ofNat_toNat]

theorem undigits_digits (bytes : Bytes) : undigits (digits bytes) = bytes := by
  fun_induction digits bytes with
  | case1 a b c rest ih =>
      have ha := a.toNat_lt
      have hb := b.toNat_lt
      have hc := c.toNat_lt
      rw [undigits, ih]
      congr 1
      · exact ofNat_eq (by omega)
      congr 1
      · exact ofNat_eq (by omega)
      congr 1
      exact ofNat_eq (by omega)
  | case2 a b =>
      have ha := a.toNat_lt
      have hb := b.toNat_lt
      rw [undigits]
      congr 1
      · exact ofNat_eq (by omega)
      congr 1
      exact ofNat_eq (by omega)
  | case3 a =>
      have ha := a.toNat_lt
      rw [undigits]
      congr 1
      exact ofNat_eq (by omega)
  | case4 => rfl

theorem mem_encode {bytes : Bytes} {c : Char} (h : c ∈ encode bytes) : c ∈ alphabet := by
  obtain ⟨n, hn, rfl⟩ := List.mem_map.mp h
  exact digit_mem n (lt_of_mem_digits bytes n hn)

theorem filterMap_value? {ns : List Nat} (h : ∀ n ∈ ns, n < 64) :
    (ns.map digit).filterMap value? = ns := by
  induction ns with
  | nil => rfl
  | cons n ns ih =>
      have hn := value?_digit n (h n List.mem_cons_self)
      rw [List.map_cons, List.filterMap_cons_some hn, ih fun m hm => h m (List.mem_cons_of_mem n hm)]

/-- What is written is read back. -/
theorem decode_encode (bytes : Bytes) : decode (encode bytes) = bytes := by
  have hpadding : (encode bytes).takeWhile (· ≠ '=') = encode bytes := by
    apply List.takeWhile_eq_self_iff.mpr
    intro c hc
    have hne : c ≠ '=' := by
      rintro rfl
      exact absurd (mem_encode hc) (by decide)
    simpa using hne
  unfold decode
  rw [hpadding]
  unfold encode
  rw [filterMap_value? (lt_of_mem_digits bytes), undigits_digits]

/-- A dot is not in the alphabet. -/
theorem dot_notMem_encode (bytes : Bytes) : '.' ∉ encode bytes :=
  fun h => absurd (mem_encode h) (by decide)

theorem encode_ne_nil {bytes : Bytes} (h : bytes ≠ []) : encode bytes ≠ [] := by
  intro hnil
  have hdigits : digits bytes = [] := List.map_eq_nil_iff.mp hnil
  apply h
  rw [← undigits_digits bytes, hdigits]
  rfl

/-! ## Hexadecimal text -/

/-- The value of a hexadecimal digit. -/
def hexValue (c : Char) : Nat :=
  if c.isDigit then c.toNat - 48 else c.toLower.toNat - 87

def isHexDigit (c : Char) : Bool :=
  c.isDigit || decide ('a' ≤ c.toLower ∧ c.toLower ≤ 'f')

/-- `Buffer.from(text, 'hex')`, of hexadecimal digits. -/
def decodeHex : List Char → Bytes
  | a :: b :: rest => UInt8.ofNat (hexValue a * 16 + hexValue b) :: decodeHex rest
  | _ => []

/-! ## UTF-8 -/

/-- `Buffer.from(text, 'utf8')`. -/
def utf8 (text : String) : Bytes := text.toByteArray.data.toList

/-- `buffer.toString('utf8')`, of bytes that are such a text. -/
def ofUtf8 (bytes : Bytes) : String := (String.fromUTF8? ⟨bytes.toArray⟩).getD "\ufffd"

theorem ofUtf8_utf8 (text : String) : ofUtf8 (utf8 text) = text := by
  have hbytes : (⟨(utf8 text).toArray⟩ : ByteArray) = text.toByteArray := by
    unfold utf8
    rw [Array.toArray_toList]
  unfold ofUtf8
  rw [hbytes, String.fromUTF8?, dif_pos text.isValidUTF8]
  exact String.toByteArray_inj.mp rfl

theorem utf8_injective : Function.Injective utf8 := by
  intro first second h
  rw [← ofUtf8_utf8 first, h, ofUtf8_utf8]

end AvantimePlatform.Base64Url
