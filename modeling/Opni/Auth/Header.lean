/-
  Opni.Auth.Header

  The MAC authorization header (`pkg/b2mac`): computing and verifying the MAC,
  and the text of the header.

  UUIDs are sixteen bytes; their text form and the hash are those of libraries
  and come as parameters, with what is assumed of them.  The header is a
  protobuf string, so it is valid UTF-8.
-/

import Opni.Lib.Base64
import Opni.Lib.GoStrings

namespace Opni.Auth

open Lib

/-! ## UUIDs -/

abbrev UUID := Vector UInt8 16

namespace UUID

def nil : UUID := Vector.replicate 16 0

/-- `Version() == 4 && Variant() == RFC4122`. -/
def IsV4 (u : UUID) : Prop := u[6] >>> 4 = 4 ∧ u[8] &&& 0xc0 = 0x80

instance (u : UUID) : Decidable u.IsV4 := inferInstanceAs (Decidable (_ ∧ _))

theorem not_isV4_nil : ¬nil.IsV4 := by decide

theorem IsV4.ne_nil {u : UUID} (h : u.IsV4) : u ≠ nil := fun heq => not_isV4_nil (heq ▸ h)

end UUID

/-- The text form of UUIDs.  It can be read back, and is made of hexadecimal
    digits and dashes. -/
structure UuidLib where
  parse : String → Except String UUID
  text : UUID → String
  parse_text : ∀ u, parse (text u) = .ok u
  text_chars : ∀ u, ∀ c ∈ (text u).toList, c ∈ "0123456789abcdef-".toList

/-! ## MACs -/

/-- Keyed blake2b-512, assumed injective in the key and the message. -/
structure KeyedHash where
  sum : Bytes → Bytes → Bytes
  sum_ne_nil : ∀ key msg, sum key msg ≠ []
  injective : ∀ {key msg key' msg'}, sum key msg = sum key' msg' → key = key' ∧ msg = msg'

section Mac

variable (hash : KeyedHash)

/-- `New512`.  The hash takes keys of up to 64 bytes. -/
def new512 (id : Bytes) (nonce : UUID) (payload key : Bytes) : Except String Bytes :=
  if key.length > 64 then .error "blake2b: invalid key size"
  else .ok (hash.sum key (id ++ nonce.toList ++ payload))

def verify (mac id : Bytes) (nonce : UUID) (payload key : Bytes) : Except String Unit :=
  if key.length > 64 then .error "blake2b: invalid key size"
  else if hash.sum key (id ++ nonce.toList ++ payload) = mac then .ok ()
  else .error "verification failed"

variable {hash} {id mac : Bytes} {nonce : UUID} {key payload : Bytes}

theorem verify_eq_ok_iff :
    verify hash mac id nonce payload key = .ok () ↔ new512 hash id nonce payload key = .ok mac := by
  unfold verify new512
  split
  · simp
  · split
    next h => rw [h]; simp only
    next h => simpa only [reduceCtorEq, false_iff, Except.ok.injEq] using h

theorem verify_new512_iff {key' : Bytes} (hmac : new512 hash id nonce payload key = .ok mac) :
    verify hash mac id nonce payload key' = .ok () ↔ key' = key := by
  rw [verify_eq_ok_iff]
  constructor
  · intro hmac'
    unfold new512 at hmac hmac'
    split at hmac
    · cases hmac
    · split at hmac'
      · cases hmac'
      · exact (hash.injective ((Except.ok.inj hmac').trans (Except.ok.inj hmac).symm)).1
  · rintro rfl
    exact hmac

end Mac

/-! ## The header -/

def headerPair (key value : String) : String := key ++ "=" ++ ("\"" ++ value ++ "\"")

def unquote (s : String) : Option String :=
  match s.toList with
  | '"' :: rest => if rest.getLast? = some '"' then some (String.ofList rest.dropLast) else none
  | _ => none

/-- What the loop of `DecodeAuthHeader` has read so far. -/
structure HeaderFields where
  foundKeys : List String := []
  id : Bytes := []
  nonce : UUID := UUID.nil
  mac : Bytes := []

section Header

variable (uuid : UuidLib)

def encodeAuthHeader (id : Bytes) (nonce : UUID) (mac : Bytes) : Except String String :=
  if ¬nonce.IsV4 then .error "nonce is not a v4 UUID"
  else
    .ok ("MAC " ++ (headerPair "id" (Base64.encodeToString id) ++ "," ++
      (headerPair "nonce" (uuid.text nonce) ++ "," ++
        headerPair "mac" (Base64.encodeToString mac))))

variable (fields : HeaderFields)

/-- The switch of `DecodeAuthHeader`.  The position that a Base64 error reports is
    left out. -/
def setField (key value : String) : Except String HeaderFields :=
  if key ∈ fields.foundKeys then .error ("duplicate key: " ++ key)
  else
    let fields := { fields with foundKeys := key :: fields.foundKeys }
    if key = "id" then
      match Base64.decodeString value with
      | none => .error "malformed id"
      | some id => .ok { fields with id := id }
    else if key = "nonce" then
      match uuid.parse value with
      | .error err => .error err
      | .ok nonce =>
        if ¬nonce.IsV4 then .error "nonce is not a v4 UUID"
        else .ok { fields with nonce := nonce }
    else if key = "mac" then
      match Base64.decodeString value with
      | none => .error "illegal base64 data"
      | some mac => .ok { fields with mac := mac }
    else .error "unknown key"

/-- One turn of the loop of `DecodeAuthHeader`. -/
def readPair (pair : String) : Except String HeaderFields :=
  -- padding would add `=` signs; `RawURLEncoding` has none
  match split '=' pair with
  | [key, value] =>
    match unquote value with
    | none => .error "expected quoted string"
    -- keys may have white space around them, values may not
    | some value => setField uuid fields (trimSpace key) value
  | _ => .error "malformed key-value pair"

/-- `DecodeAuthHeader`.  Of the last three errors the last one that applies is
    returned. -/
def decodeAuthHeader (header : String) : Except String (Bytes × UUID × Bytes) :=
  if ¬hasPrefix header "MAC " then .error "incorrect authorization type"
  else
    let trimmed := trimSpace (trimPrefix header "MAC")
    match (split ',' trimmed).foldlM (readPair uuid) {} with
    | .error err => .error err
    | .ok fields =>
      if fields.mac.length = 0 then .error "Header is missing signature"
      else if fields.nonce = UUID.nil then .error "Header is missing nonce"
      else if fields.id.length = 0 then .error "Header is missing id"
      else .ok (fields.id, fields.nonce, fields.mac)

end Header

/-! ## Reading a header back -/

theorem unquote_quoted (value : String) : unquote ("\"" ++ value ++ "\"") = some value := by
  have hchars : ("\"" ++ value ++ "\"").toList = '"' :: (value.toList ++ ['"']) := by
    rw [String.toList_append, String.toList_append]
    rfl
  rw [unquote, hchars]
  simp

variable {key value : String}

theorem split_headerPair (hkey : '=' ∉ key.toList) (hvalue : '=' ∉ value.toList) :
    split '=' (headerPair key value) = [key, "\"" ++ value ++ "\""] := by
  have hsep : "=" = String.singleton '=' := by decide
  have hquoted : '=' ∉ ("\"" ++ value ++ "\"").toList := by
    simpa using hvalue
  rw [headerPair, hsep, split_append_sep, split_eq_singleton hkey, split_eq_singleton hquoted]
  rfl

theorem readPair_headerPair {uuid : UuidLib} {fields : HeaderFields} (hkey : '=' ∉ key.toList)
    (htrim : trimSpace key = key) (hvalue : '=' ∉ value.toList) :
    readPair uuid fields (headerPair key value) = setField uuid fields key value := by
  rw [readPair, split_headerPair hkey hvalue]
  simp only [unquote_quoted, htrim]

theorem comma_notMem_headerPair (hkey : ',' ∉ key.toList) (hvalue : ',' ∉ value.toList) :
    ',' ∉ (headerPair key value).toList := by
  simp only [headerPair, String.toList_append, List.mem_append]
  tauto

theorem separators_notMem_base64 (b : Bytes) :
    ',' ∉ (Base64.encodeToString b).toList ∧ '=' ∉ (Base64.encodeToString b).toList := by
  have hcomma : ',' ∉ Base64.rawURLEncoding.alphabet := by decide
  exact ⟨fun h => hcomma (Base64.mem_alphabet_of_mem_encodeToString h),
    fun h => Base64.rawURLEncoding.plain.1 (Base64.mem_alphabet_of_mem_encodeToString h)⟩

theorem separators_notMem_uuid (uuid : UuidLib) (u : UUID) :
    ',' ∉ (uuid.text u).toList ∧ '=' ∉ (uuid.text u).toList := by
  have hdigits : ',' ∉ "0123456789abcdef-".toList ∧ '=' ∉ "0123456789abcdef-".toList := by decide
  exact ⟨fun h => hdigits.1 (uuid.text_chars u _ h), fun h => hdigits.2 (uuid.text_chars u _ h)⟩

/-- The header that is encoded decodes to what it was made of. -/
theorem decodeAuthHeader_encodeAuthHeader (uuid : UuidLib) {id mac : Bytes} {nonce : UUID}
    (hid : id ≠ []) (hnonce : nonce.IsV4) (hmac : mac ≠ []) :
    ∃ header, encodeAuthHeader uuid id nonce mac = .ok header ∧
      decodeAuthHeader uuid header = .ok (id, nonce, mac) := by
  obtain ⟨hcommaId, hequalId⟩ := separators_notMem_base64 id
  obtain ⟨hcommaNonce, hequalNonce⟩ := separators_notMem_uuid uuid nonce
  obtain ⟨hcommaMac, hequalMac⟩ := separators_notMem_base64 mac
  set pairs := headerPair "id" (Base64.encodeToString id) ++ "," ++
    (headerPair "nonce" (uuid.text nonce) ++ "," ++ headerPair "mac" (Base64.encodeToString mac))
    with hpairs
  refine ⟨"MAC " ++ pairs, by rw [encodeAuthHeader, if_neg (not_not.mpr hnonce)], ?_⟩
  -- neither end of the pairs is white space, so only the space after MAC is cut
  have htrim : trimSpace (trimPrefix ("MAC " ++ pairs) "MAC") = pairs := by
    have hspace : "MAC " ++ pairs = "MAC" ++ (" " ++ pairs) := by
      rfl
    have hfirst : pairs.toList.head? = some 'i' := by
      simp [hpairs, headerPair, String.toList_append]
    have hlast : pairs.toList.getLast? = some '"' := by
      simp only [hpairs, headerPair, String.toList_append, List.getLast?_append]
      rfl
    rw [hspace, trimPrefix_append, trimSpace_space]
    exact trimSpace_eq_self hfirst hlast (by decide) (by decide)
  -- the commas are those between the pairs
  have hsplit : split ',' pairs = [headerPair "id" (Base64.encodeToString id),
      headerPair "nonce" (uuid.text nonce), headerPair "mac" (Base64.encodeToString mac)] := by
    have hsep : "," = String.singleton ',' := by decide
    rw [hpairs, hsep, split_append_sep, split_append_sep,
      split_eq_singleton (comma_notMem_headerPair (by decide) hcommaId),
      split_eq_singleton (comma_notMem_headerPair (by decide) hcommaNonce),
      split_eq_singleton (comma_notMem_headerPair (by decide) hcommaMac)]
    rfl
  -- the three turns of the loop
  have hread : (split ',' pairs).foldlM (readPair uuid) {} =
      .ok { foundKeys := ["mac", "nonce", "id"], id := id, nonce := nonce, mac := mac } := by
    simp only [hsplit, List.foldlM_cons, List.foldlM_nil,
      readPair_headerPair (by decide : '=' ∉ "id".toList) (by decide) hequalId,
      readPair_headerPair (by decide : '=' ∉ "nonce".toList) (by decide) hequalNonce,
      readPair_headerPair (by decide : '=' ∉ "mac".toList) (by decide) hequalMac]
    simp [setField, Base64.decodeString_encodeToString, uuid.parse_text, hnonce, bind, Except.bind,
      pure, Except.pure]
  rw [decodeAuthHeader, if_neg (not_not.mpr (hasPrefix_append _ _))]
  simp only [htrim, hread]
  rw [if_neg (by simpa using hmac), if_neg hnonce.ne_nil, if_neg (by simpa using hid)]

end Opni.Auth
