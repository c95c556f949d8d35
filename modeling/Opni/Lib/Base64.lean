/-
  Opni.Lib.Base64

  The unpadded URL-safe Base64 encoding of Go's `encoding/base64`
  (`RawURLEncoding`), and the padded one (`StdEncoding`).  Digits are numbers
  below 64; a group of three bytes is four digits, and a last group of one or
  two bytes is two or three, which `StdEncoding` pads to four.
-/

import Opni.Lib.GoData

namespace Opni.Lib.Base64

/-! ## Digits -/

/-- An `Encoding` of the package, with an alphabet that `NewEncoding` accepts. -/
structure Encoding where
  alphabet : List Char
  length_alphabet : alphabet.length = 64
  nodup : alphabet.Nodup
  plain : '=' ∉ alphabet ∧ '\r' ∉ alphabet ∧ '\n' ∉ alphabet

def rawURLEncoding : Encoding where
  alphabet := "ABCDEFGHIJKLMNOPQRSTUVWXYZabcdefghijklmnopqrstuvwxyz0123456789-_".toList
  length_alphabet := by decide +kernel
  nodup := by decide +kernel
  plain := by decide +kernel

def stdEncoding : Encoding where
  alphabet := "ABCDEFGHIJKLMNOPQRSTUVWXYZabcdefghijklmnopqrstuvwxyz0123456789+/".toList
  length_alphabet := by decide +kernel
  nodup := by decide +kernel
  plain := by decide +kernel

namespace Encoding

variable (e : Encoding) (n : Nat)

def char : Char := e.alphabet.getD n 'A'

def digit (c : Char) : Option Nat :=
  if c ∈ e.alphabet then some (e.alphabet.idxOf c) else none

variable {n}

theorem char_eq (h : n < 64) : e.char n = e.alphabet.get ⟨n, e.length_alphabet ▸ h⟩ := by
  simp [char, e.length_alphabet, h]

theorem char_mem (h : n < 64) : e.char n ∈ e.alphabet :=
  e.char_eq h ▸ List.get_mem ..

theorem ne_of_mem {c : Char} (h : c ∈ e.alphabet) : c ≠ '=' ∧ c ≠ '\r' ∧ c ≠ '\n' :=
  ⟨fun hc => e.plain.1 (hc ▸ h), fun hc => e.plain.2.1 (hc ▸ h), fun hc => e.plain.2.2 (hc ▸ h)⟩

theorem digit_char (h : n < 64) : e.digit (e.char n) = some n := by
  rw [digit, if_pos (e.char_mem h), e.char_eq h]
  exact congrArg some (e.nodup.idxOf_getElem n _)

theorem mapM_digit {digits : List Nat} (h : ∀ d ∈ digits, d < 64) :
    (digits.map e.char).mapM e.digit = some digits := by
  induction digits with
  | nil => rfl
  | cons d digits ih =>
    rw [List.map_cons, List.mapM_cons, e.digit_char (h d (by simp)),
      ih fun d' hd' => h d' (.tail _ hd')]
    rfl

end Encoding

/-! ## Groups -/

variable {bytes : List Nat}

def encodeDigits : List Nat → List Nat
  | [] => []
  | [x] => [x / 4, x % 4 * 16]
  | [x, y] => [x / 4, x % 4 * 16 + y / 16, y % 16 * 4]
  | x :: y :: z :: rest =>
    x / 4 :: (x % 4 * 16 + y / 16) :: (y % 16 * 4 + z / 64) :: z % 64 :: encodeDigits rest

def decodeDigits : List Nat → Option (List Nat)
  | [] => some []
  | [_] => none
  | [a, b] => some [(a * 4 + b / 16) % 256]
  | [a, b, c] => some [(a * 4 + b / 16) % 256, (b * 16 + c / 4) % 256]
  | a :: b :: c :: d :: rest =>
    (decodeDigits rest).map fun bytes =>
      (a * 4 + b / 16) % 256 :: (b * 16 + c / 4) % 256 :: (c * 64 + d) % 256 :: bytes

theorem encodeDigits_lt (h : ∀ x ∈ bytes, x < 256) : ∀ d ∈ encodeDigits bytes, d < 64 := by
  induction bytes using encodeDigits.induct with
  | case1 => simp [encodeDigits]
  | case2 x =>
    have hx := h x (by simp)
    simp only [encodeDigits, List.mem_cons, List.not_mem_nil, or_false]
    omega
  | case3 x y =>
    have hx := h x (by simp)
    have hy := h y (by simp)
    simp only [encodeDigits, List.mem_cons, List.not_mem_nil, or_false]
    omega
  | case4 x y z rest ih =>
    have hx := h x (by simp)
    have hy := h y (by simp)
    have hz := h z (by simp)
    have hrest := ih fun b hb => h b (by simp [hb])
    intro d hd
    simp only [encodeDigits, List.mem_cons] at hd
    rcases hd with rfl | rfl | rfl | rfl | hd
    · omega
    · omega
    · omega
    · omega
    · exact hrest d hd

theorem decodeDigits_encodeDigits (h : ∀ x ∈ bytes, x < 256) :
    decodeDigits (encodeDigits bytes) = some bytes := by
  induction bytes using encodeDigits.induct with
  | case1 => rfl
  | case2 x =>
    have hx := h x (by simp)
    have hbyte : (x / 4 * 4 + x % 4 * 16 / 16) % 256 = x := by omega
    rw [encodeDigits, decodeDigits, hbyte]
  | case3 x y =>
    have hx := h x (by simp)
    have hy := h y (by simp)
    have hfirst : (x / 4 * 4 + (x % 4 * 16 + y / 16) / 16) % 256 = x := by omega
    have hsecond : ((x % 4 * 16 + y / 16) * 16 + y % 16 * 4 / 4) % 256 = y := by omega
    rw [encodeDigits, decodeDigits, hfirst, hsecond]
  | case4 x y z rest ih =>
    have hx := h x (by simp)
    have hy := h y (by simp)
    have hz := h z (by simp)
    have hfirst : (x / 4 * 4 + (x % 4 * 16 + y / 16) / 16) % 256 = x := by omega
    have hsecond : ((x % 4 * 16 + y / 16) * 16 + (y % 16 * 4 + z / 64) / 4) % 256 = y := by omega
    have hthird : ((y % 16 * 4 + z / 64) * 64 + z % 64) % 256 = z := by omega
    rw [encodeDigits, decodeDigits, ih fun b hb => h b (by simp [hb]), Option.map_some, hfirst,
      hsecond, hthird]

/-! ## Texts -/

variable (b : Bytes)

def encodeToString : String :=
  String.ofList ((encodeDigits (b.map UInt8.toNat)).map rawURLEncoding.char)

def decodeString (s : String) : Option Bytes :=
  match (s.toList.filter fun c => c ≠ '\r' ∧ c ≠ '\n').mapM rawURLEncoding.digit with
  | none => none
  | some digits => (decodeDigits digits).map (·.map UInt8.ofNat)

theorem toNat_lt_of_mem {b : Bytes} : ∀ x ∈ b.map UInt8.toNat, x < 256 := by
  intro x hx
  obtain ⟨byte, -, rfl⟩ := List.mem_map.mp hx
  exact byte.toNat_lt

theorem map_ofNat_map_toNat : (b.map UInt8.toNat).map UInt8.ofNat = b := by
  simp [List.map_map, Function.comp_def]

theorem mem_alphabet_of_mem_encodeToString {b : Bytes} {c : Char}
    (h : c ∈ (encodeToString b).toList) : c ∈ rawURLEncoding.alphabet := by
  rw [encodeToString, String.toList_ofList] at h
  obtain ⟨d, hd, rfl⟩ := List.mem_map.mp h
  exact rawURLEncoding.char_mem (encodeDigits_lt toNat_lt_of_mem d hd)

theorem decodeString_encodeToString : decodeString (encodeToString b) = some b := by
  have hfilter : (encodeToString b).toList.filter (fun c => c ≠ '\r' ∧ c ≠ '\n') =
      (encodeToString b).toList := by
    rw [List.filter_eq_self]
    intro c hc
    simpa using (rawURLEncoding.ne_of_mem (mem_alphabet_of_mem_encodeToString hc)).2
  have hdigits : (encodeToString b).toList.mapM rawURLEncoding.digit =
      some (encodeDigits (b.map UInt8.toNat)) := by
    rw [encodeToString, String.toList_ofList]
    exact rawURLEncoding.mapM_digit (encodeDigits_lt toNat_lt_of_mem)
  rw [decodeString, hfilter, hdigits]
  simp only
  rw [decodeDigits_encodeDigits toNat_lt_of_mem, Option.map_some, map_ofNat_map_toNat]

/-! ## Padded texts -/

def padding (digits : Nat) : List Char := List.replicate ((4 - digits % 4) % 4) '='

/-- `StdEncoding.EncodeToString`. -/
def stdEncodeToString : String :=
  let digits := encodeDigits (b.map UInt8.toNat)
  String.ofList (digits.map stdEncoding.char ++ padding digits.length)

/-- `StdEncoding.DecodeString`. -/
def stdDecodeString (s : String) : Option Bytes :=
  let chars := s.toList.filter fun c => c ≠ '\r' ∧ c ≠ '\n'
  let body := chars.takeWhile (· ≠ '=')
  if chars.drop body.length = padding body.length then
    match body.mapM stdEncoding.digit with
    | none => none
    | some digits => (decodeDigits digits).map (·.map UInt8.ofNat)
  else none

theorem stdDecodeString_stdEncodeToString : stdDecodeString (stdEncodeToString b) = some b := by
  have hlt : ∀ d ∈ encodeDigits (b.map UInt8.toNat), d < 64 := encodeDigits_lt toNat_lt_of_mem
  have hbytes := decodeDigits_encodeDigits (toNat_lt_of_mem (b := b))
  rw [stdEncodeToString]
  generalize encodeDigits (b.map UInt8.toNat) = digits at hlt hbytes ⊢
  have hfilter : (digits.map stdEncoding.char ++ padding digits.length).filter
      (fun c => c ≠ '\r' ∧ c ≠ '\n') = digits.map stdEncoding.char ++ padding digits.length := by
    rw [List.filter_eq_self]
    intro c hc
    rcases List.mem_append.mp hc with hc | hc
    · obtain ⟨d, hd, rfl⟩ := List.mem_map.mp hc
      simpa using (stdEncoding.ne_of_mem (stdEncoding.char_mem (hlt d hd))).2
    · obtain rfl := List.eq_of_mem_replicate hc
      decide
  have hbody : (digits.map stdEncoding.char ++ padding digits.length).takeWhile (· ≠ '=') =
      digits.map stdEncoding.char := by
    have hdigits : ∀ c ∈ digits.map stdEncoding.char, decide (c ≠ '=') = true := by
      intro c hc
      obtain ⟨d, hd, rfl⟩ := List.mem_map.mp hc
      simpa using (stdEncoding.ne_of_mem (stdEncoding.char_mem (hlt d hd))).1
    rw [List.takeWhile_append_of_pos hdigits, padding, List.takeWhile_replicate]
    simp
  rw [stdDecodeString, String.toList_ofList]
  simp only [hfilter, hbody, List.length_map]
  rw [if_pos (List.drop_left' (by simp)), stdEncoding.mapM_digit hlt]
  simp only
  rw [hbytes, Option.map_some, map_ofNat_map_toNat]

end Opni.Lib.Base64
