import Mathlib

/-!
# Hosts of URLs

The host of a URL after it has been parsed, the text that `hostname` shows of it, and the
reading of that text by `isIP`.  An IPv4 address is written with four decimal numbers, whatever
its spelling was; an IPv6 address is written in brackets.

Nothing here names a component of the platform.
-/

namespace AvantimePlatform.Hosts

/-! ## Addresses -/

/-- An IPv4 address, by its four bytes. -/
structure Ipv4 where
  first : UInt8
  second : UInt8
  third : UInt8
  fourth : UInt8
deriving DecidableEq

/-- An IPv6 address, by its eight pieces. -/
structure Ipv6 where
  pieces : List UInt16
  length_pieces : pieces.length = 8
deriving DecidableEq

/-- The host of a URL with a scheme such as `https`. -/
inductive Host where
  | domain (name : String)
  | ipv4 (address : Ipv4)
  | ipv6 (address : Ipv6)
deriving DecidableEq

/-- A byte in decimal digits. -/
def decimal (byte : UInt8) : List Char := (Nat.repr byte.toNat).toList

def Ipv4.bytes (address : Ipv4) : List UInt8 :=
  [address.first, address.second, address.third, address.fourth]

def Ipv4.text (address : Ipv4) : List Char := ['.'].intercalate (address.bytes.map decimal)

/-- Where the first of the longest runs of zeros begins, and how long it is, unless it is a
single one. -/
def compressed (pieces : List UInt16) : Option (Nat × Nat) :=
  let runs := (List.range pieces.length).map fun start =>
    (start, ((pieces.drop start).takeWhile (· = 0)).length)
  let longest := runs.foldl (fun best run => if best.2 < run.2 then run else best) (0, 0)
  if 2 ≤ longest.2 then some longest else none

/-- Pieces in hexadecimal digits, with colons between them. -/
def hexadecimal (pieces : List UInt16) : List Char :=
  [':'].intercalate (pieces.map fun piece => Nat.toDigits 16 piece.toNat)

def Ipv6.text (address : Ipv6) : List Char :=
  match compressed address.pieces with
  | none => hexadecimal address.pieces
  | some (start, length) =>
    hexadecimal (address.pieces.take start) ++ ':' :: ':' ::
      hexadecimal (address.pieces.drop (start + length))

/-- `url.hostname`. -/
def Host.hostname : Host → String
  | domain name => name
  | ipv4 address => String.ofList address.text
  | ipv6 address => String.ofList ('[' :: (address.text ++ [']']))

/-! ## `isIP` -/

/-- The number of decimal digits. -/
def number (digits : List Char) : Nat :=
  digits.foldl (fun value c => value * 10 + (c.toNat - 48)) 0

/-- A number up to 255 without zeros in front. -/
def isOctet (digits : List Char) : Bool :=
  digits ≠ [] && digits.all Char.isDigit && (digits.head? ≠ some '0' || digits.length = 1) &&
    digits.length ≤ 3 && number digits ≤ 255

def isIPv4 (value : List Char) : Bool :=
  (value.splitOn '.').length = 4 && (value.splitOn '.').all isOctet

/-- `isIP` for the texts of IPv6 addresses.  These begin with a digit or a colon, and never
with a bracket. -/
structure AddressReader where
  isIPv6 : List Char → Bool
  noBracket : ∀ rest, isIPv6 ('[' :: rest) = false

/-- `isIP(value)`. -/
def AddressReader.isIP (reader : AddressReader) (value : List Char) : Nat :=
  if isIPv4 value = true then 4 else if reader.isIPv6 value = true then 6 else 0

/-! ## What `isIP` says of a host -/

variable {reader : AddressReader}

theorem decimal_spec (byte : UInt8) :
    isOctet (decimal byte) = true ∧ number (decimal byte) = byte.toNat ∧ '.' ∉ decimal byte := by
  have hall : ∀ n < 256, isOctet (Nat.repr n).toList = true ∧ number (Nat.repr n).toList = n ∧
      '.' ∉ (Nat.repr n).toList := by decide +kernel
  exact hall byte.toNat byte.toNat_lt

theorem splitOn_text (address : Ipv4) : address.text.splitOn '.' = address.bytes.map decimal := by
  unfold Ipv4.text
  apply List.splitOn_intercalate
  · intro part hpart
    obtain ⟨byte, -, rfl⟩ := List.mem_map.mp hpart
    exact (decimal_spec byte).2.2
  · simp [Ipv4.bytes]

theorem isIP_ipv4 (address : Ipv4) : reader.isIP address.text = 4 := by
  have hread : isIPv4 address.text = true := by
    unfold isIPv4
    rw [splitOn_text]
    simp [Ipv4.bytes, (decimal_spec _).1]
  unfold AddressReader.isIP
  rw [if_pos hread]

/-- The numbers of the text are the bytes of the address. -/
theorem numbers_text (address : Ipv4) :
    (address.text.splitOn '.').map number = address.bytes.map UInt8.toNat := by
  rw [splitOn_text, List.map_map]
  apply List.map_congr_left
  intro byte _
  exact (decimal_spec byte).2.1

example : (Host.ipv6 ⟨[0, 0, 1, 0, 0, 0, 1, 0], rfl⟩).hostname = "[0:0:1::1:0]" := by decide

end AvantimePlatform.Hosts
