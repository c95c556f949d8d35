/-
  Opni.Lib.GoStrings

  The functions of Go's `strings`, `encoding/hex` and `path/filepath` packages
  that the models use.  Strings are taken apart as lists of characters, so
  that the functions reduce by structural recursion.

  A path is represented by what `filepath.Clean` leaves of it: whether it is
  rooted, and its components.
-/

import Opni.Lib.GoData

namespace Opni.Lib

/-! ## Splitting -/

/-- `strings.Split` with a separator of one character. -/
def split (sep : Char) (s : String) : List String := (s.toList.splitOn sep).map String.ofList

variable {s t dir p q sub name : String} {sep : Char} {a : String} {c : Char} {n : Nat}

theorem split_eq_singleton (h : sep ∉ s.toList) : split sep s = [s] := by
  rw [split, List.splitOn_eq_singleton h, List.map_singleton, String.ofList_toList]

theorem split_append_sep (sep : Char) (s t : String) :
    split sep (s ++ String.singleton sep ++ t) = split sep s ++ split sep t := by
  have hchars : (s ++ String.singleton sep ++ t).toList = s.toList ++ sep :: t.toList := by
    simp
  rw [split, hchars, List.splitOn_append_cons_self, List.map_append, split, split]

theorem split_inj (h : split sep s = split sep t) : s = t := by
  have hinj : Function.Injective String.ofList := fun _ _ heq => String.ofList_inj.mp heq
  have hchars := congrArg [sep].intercalate (hinj.list_map h)
  rw [List.intercalate_splitOn, List.intercalate_splitOn] at hchars
  exact String.toList_inj.mp hchars

theorem append_sep_inj (hp : sep ∉ p.toList) (hq : sep ∉ q.toList)
    (h : s ++ String.singleton sep ++ t = p ++ String.singleton sep ++ q) : s = p ∧ t = q := by
  have hsplit := congrArg (split sep) h
  rw [split_append_sep, split_append_sep] at hsplit
  -- both sides are split in two
  have hlength : (split sep s).length = (split sep p).length := by
    have hpos (s : String) : 0 < (split sep s).length := by simp [split, List.length_pos_iff]
    have htotal := congrArg List.length hsplit
    have hs := hpos s
    have ht := hpos t
    simp only [split_eq_singleton hp, split_eq_singleton hq, List.length_append,
      List.length_singleton] at htotal ⊢
    omega
  obtain ⟨hs, ht⟩ := List.append_inj hsplit hlength
  exact ⟨split_inj hs, split_inj ht⟩

theorem append_sep_inj_left (hs : sep ∉ s.toList) (hp : sep ∉ p.toList)
    (h : s ++ String.singleton sep ++ t = p ++ String.singleton sep ++ q) : s = p ∧ t = q := by
  have hsplit := congrArg (split sep) h
  rw [split_append_sep, split_append_sep, split_eq_singleton hs, split_eq_singleton hp] at hsplit
  obtain rfl := (List.cons.inj hsplit).1
  rw [String.append_right_inj] at h
  exact ⟨rfl, h⟩

/-! ## Trimming -/

def hasPrefix (s start : String) : Bool := start.toList.isPrefixOf s.toList

def trimPrefix (s start : String) : String :=
  if hasPrefix s start then String.ofList (s.toList.drop start.length) else s

/-- `strings.ReplaceAll` of one character by another. -/
def replaceAll (s : String) (old new : Char) : String :=
  String.ofList (s.toList.map fun c => if c = old then new else c)

def isSpace (c : Char) : Bool :=
  c.toNat ∈ [9, 10, 11, 12, 13, 32, 0x85, 0xa0, 0x1680, 0x2028, 0x2029, 0x202f, 0x205f, 0x3000] ∨
    0x2000 ≤ c.toNat ∧ c.toNat ≤ 0x200a

def trimSpace (s : String) : String :=
  String.ofList (((s.toList.dropWhile isSpace).reverse.dropWhile isSpace).reverse)

theorem hasPrefix_append (start s : String) : hasPrefix (start ++ s) start = true := by
  rw [hasPrefix, String.toList_append, List.isPrefixOf_iff_prefix]
  exact List.prefix_append _ _

theorem hasPrefix_iff {start : String} : hasPrefix s start = true ↔ ∃ rest, s = start ++ rest := by
  rw [hasPrefix, List.isPrefixOf_iff_prefix]
  apply Iff.intro
  · rintro ⟨rest, hrest⟩
    refine ⟨String.ofList rest, String.toList_inj.mp ?_⟩
    rw [String.toList_append, String.toList_ofList, hrest]
  · rintro ⟨rest, rfl⟩
    rw [String.toList_append]
    exact List.prefix_append _ _

theorem hasPrefix_or_hasPrefix {b x y : String} (h : a ++ x = b ++ y) :
    hasPrefix a b = true ∨ hasPrefix b a = true := by
  have hchars := congrArg String.toList h
  rw [String.toList_append, String.toList_append] at hchars
  have ha : a.toList <+: b.toList ++ y.toList := hchars ▸ List.prefix_append _ _
  rw [hasPrefix, hasPrefix, List.isPrefixOf_iff_prefix, List.isPrefixOf_iff_prefix]
  exact (List.prefix_or_prefix_of_prefix ha (List.prefix_append _ _)).symm

theorem hasPrefix_append_append (start s t : String) :
    hasPrefix (start ++ s) (start ++ t) = hasPrefix s t := by
  rw [Bool.eq_iff_iff, hasPrefix_iff, hasPrefix_iff]
  constructor
  · rintro ⟨rest, h⟩
    rw [String.append_assoc, String.append_right_inj] at h
    exact ⟨rest, h⟩
  · rintro ⟨rest, rfl⟩
    exact ⟨rest, by rw [String.append_assoc]⟩

theorem trimPrefix_append (start s : String) : trimPrefix (start ++ s) start = s := by
  rw [trimPrefix, if_pos (hasPrefix_append start s), String.toList_append, ← String.length_toList,
    List.drop_left, String.ofList_toList]

theorem trimSpace_space (s : String) : trimSpace (" " ++ s) = trimSpace s := by
  have hspace : isSpace ' ' = true := by decide
  have hchars : (" " ++ s).toList = ' ' :: s.toList := by
    rw [String.toList_append]
    rfl
  rw [trimSpace, hchars, List.dropWhile_cons_of_pos hspace, trimSpace]

theorem trimSpace_eq_self {d : Char} (hc : s.toList.head? = some c)
    (hd : s.toList.getLast? = some d) (hcspace : isSpace c = false) (hdspace : isSpace d = false) :
    trimSpace s = s := by
  have hkeep : ∀ {l : List Char} {x : Char}, l.head? = some x → isSpace x = false →
      l.dropWhile isSpace = l := by
    intro l x hx hspace
    cases l with
    | nil => cases hx
    | cons y l =>
      obtain rfl : y = x := by simpa using hx
      exact List.dropWhile_cons_of_neg (by rw [hspace]; decide)
  rw [trimSpace, hkeep hc hcspace, hkeep (by rw [List.head?_reverse]; exact hd) hdspace,
    List.reverse_reverse, String.ofList_toList]

/-! ## Decimal numbers -/

/-- Why `strconv` does not parse a number. -/
inductive NumError where
  | invalidSyntax | outOfRange

/-- The error that `func` of `strconv` returns for a text. -/
def NumError.text (func s : String) (err : NumError) : String :=
  "strconv." ++ func ++ ": parsing \"" ++ s ++ "\": " ++
    match err with
    | invalidSyntax => "invalid syntax"
    | outOfRange => "value out of range"

/-- The loop of `ParseUint` over the digits that are left.  A value that does not fit is found
    before the digits behind it are looked at. -/
def parseDigits (n : Nat) : List Char → Except NumError Nat
  | [] => .ok n
  | c :: cs =>
    if !c.isDigit then .error .invalidSyntax
    else if 10 * n + (c.toNat - '0'.toNat) < 2 ^ 64 then
      parseDigits (10 * n + (c.toNat - '0'.toNat)) cs
    else .error .outOfRange

/-- `ParseUint(s, 10, 64)`. -/
def parseUint (s : String) : Except NumError Nat :=
  if s.toList = [] then .error .invalidSyntax else parseDigits 0 s.toList

/-- `ParseInt(s, 10, 64)`. -/
def parseInt (s : String) : Except NumError Int :=
  let (neg, digits) :=
    match s.toList with
    | '+' :: cs => (false, cs)
    | '-' :: cs => (true, cs)
    | cs => (false, cs)
  match parseUint (String.ofList digits) with
  | .error err => .error err
  | .ok un =>
    if !neg && 2 ^ 63 ≤ un then .error .outOfRange
    else if neg && 2 ^ 63 < un then .error .outOfRange
    else .ok (if neg then -(un : Int) else un)

/-- `Atoi`.  Its loop over fewer than 19 characters, whose value always fits, gives what
    `ParseInt` gives. -/
def atoi (s : String) : Except NumError Int := parseInt s

theorem le_ofDigitChars (n : Nat) (cs : List Char) : n ≤ Nat.ofDigitChars 10 cs n := by
  induction cs generalizing n with
  | nil => exact Nat.le_refl n
  | cons c cs ih =>
    rw [Nat.ofDigitChars_cons]
    exact Nat.le_trans (by omega) (ih _)

theorem parseDigits_eq {cs : List Char} (hdigits : ∀ c ∈ cs, c.isDigit = true) (hn : n < 2 ^ 64) :
    parseDigits n cs = if Nat.ofDigitChars 10 cs n < 2 ^ 64 then .ok (Nat.ofDigitChars 10 cs n)
      else .error .outOfRange := by
  induction cs generalizing n with
  | nil => rw [parseDigits, Nat.ofDigitChars_nil, if_pos hn]
  | cons c cs ih =>
    rw [List.forall_mem_cons] at hdigits
    rw [parseDigits, hdigits.1, Nat.ofDigitChars_cons]
    by_cases hfits : 10 * n + (c.toNat - '0'.toNat) < 2 ^ 64
    · rw [if_pos hfits, ih hdigits.2 hfits]
      rfl
    · -- the digits behind only make the value larger
      have hle := le_ofDigitChars (10 * n + (c.toNat - '0'.toNat)) cs
      rw [if_neg hfits, if_neg (fun hlt => hfits (Nat.lt_of_le_of_lt hle hlt))]
      rfl

theorem toList_toString (n : Nat) : (toString n).toList = Nat.toDigits 10 n := by
  rw [Nat.toString_eq_ofList_toDigits, String.toList_ofList]

theorem isDigit_of_mem_toString (hc : c ∈ (toString n).toList) : c.isDigit = true := by
  rw [toList_toString] at hc
  exact Nat.isDigit_of_mem_toDigits (by decide) (by decide) hc

theorem parseUint_toString (n : Nat) :
    parseUint (toString n) = if n < 2 ^ 64 then .ok n else .error .outOfRange := by
  rw [parseUint, if_neg (by rw [toList_toString]; exact Nat.toDigits_ne_nil),
    parseDigits_eq (fun c => isDigit_of_mem_toString) (by decide), toList_toString,
    Nat.ofDigitChars_ten_toDigits]

/-- A number has no sign, and fits if it is below `2 ^ 63`. -/
theorem parseInt_toString (n : Nat) :
    parseInt (toString n) = if n < 2 ^ 63 then .ok (n : Int) else .error .outOfRange := by
  have hdigit : ∀ {c cs}, (toString n).toList = c :: cs → c.isDigit = true :=
    fun hcs => isDigit_of_mem_toString (by rw [hcs]; exact .head _)
  have hsign : (match (toString n).toList with
      | '+' :: cs => (false, cs)
      | '-' :: cs => (true, cs)
      | cs => (false, cs)) = (false, (toString n).toList) := by
    split
    next hcs => exact absurd (hdigit hcs) (by decide)
    next hcs => exact absurd (hdigit hcs) (by decide)
    next => rfl
  rw [parseInt, hsign]
  simp only [String.ofList_toList, parseUint_toString]
  by_cases hn : n < 2 ^ 63
  · rw [if_pos (show n < 2 ^ 64 by omega), if_pos hn]
    simpa using hn
  · rw [if_neg hn]
    by_cases hn' : n < 2 ^ 64
    · rw [if_pos hn']
      simpa using Nat.not_lt.mp hn
    · rw [if_neg hn']

/-! ## Hexadecimal -/

/-- The digits of `encoding/hex`. -/
def hexDigit (n : Nat) : Char := "0123456789abcdef".toList.getD n '0'

/-- `hex.EncodeToString`. -/
def hexEncode (b : Bytes) : String :=
  String.ofList (b.flatMap fun x => [hexDigit (x.toNat / 16), hexDigit (x.toNat % 16)])

theorem hexDigit_inj : ∀ n < 16, ∀ m < 16, hexDigit n = hexDigit m → n = m := by decide

theorem hexDigit_mem : ∀ n < 16, hexDigit n ∈ "0123456789abcdef".toList := by decide

theorem hexEncode_injective : Function.Injective hexEncode := by
  intro b b' h
  replace h := String.ofList_injective h
  induction b generalizing b' with
  | nil =>
    cases b' with
    | nil => rfl
    | cons x b' => simp at h
  | cons x b ih =>
    cases b' with
    | nil => simp at h
    | cons x' b' =>
      simp only [List.flatMap_cons, List.cons_append, List.nil_append, List.cons.injEq] at h
      obtain ⟨hhi, hlo, hrest⟩ := h
      have hx := x.toNat_lt
      have hx' := x'.toNat_lt
      have hhi' := hexDigit_inj _ (by omega) _ (by omega) hhi
      have hlo' := hexDigit_inj _ (by omega) _ (by omega) hlo
      have hxx : x = x' := by
        rw [← UInt8.toNat_inj]
        omega
      rw [hxx, ih hrest]

def IsHex (s : String) : Prop := s ≠ "" ∧ ∀ c ∈ s.toList, c ∈ "0123456789abcdef".toList

theorem isHex_hexEncode {b : Bytes} (h : b ≠ []) : IsHex (hexEncode b) := by
  constructor
  · obtain ⟨x, b, rfl⟩ := List.exists_cons_of_ne_nil h
    intro hempty
    have hnil := congrArg String.toList hempty
    simp [hexEncode] at hnil
  · intro c hc
    rw [hexEncode, String.toList_ofList] at hc
    obtain ⟨x, -, hx⟩ := List.mem_flatMap.mp hc
    have hlt := x.toNat_lt
    simp only [List.mem_cons, List.not_mem_nil, or_false] at hx
    rcases hx with rfl | rfl
    · exact hexDigit_mem _ (by omega)
    · exact hexDigit_mem _ (by omega)

/-! ## Paths -/

structure Path where
  rooted : Bool
  comps : List String
deriving DecidableEq, Repr

/-- One component of a path, on the components before it, last one first. -/
def cleanStep (rooted : Bool) (stack : List String) (comp : String) : List String :=
  if comp = "" ∨ comp = "." then stack
  else if comp = ".." then
    match stack with
    | [] => if rooted then [] else [".."]
    | top :: rest => if top = ".." then ".." :: stack else rest
  else comp :: stack

/-- `filepath.Clean`. -/
def cleanPath (s : String) : Path :=
  let rooted := s.toList.head? == some '/'
  ⟨rooted, ((split '/' s).foldl (cleanStep rooted) []).reverse⟩

/-- `filepath.Join`: leading empty elements are dropped. -/
def joinPath (elems : List String) : Path :=
  cleanPath ("/".intercalate (elems.dropWhile (· == "")))

structure PlainName (s : String) : Prop where
  ne_empty : s ≠ ""
  ne_dot : s ≠ "."
  ne_dotdot : s ≠ ".."
  no_slash : '/' ∉ s.toList

instance (s : String) : Decidable (PlainName s) :=
  decidable_of_iff (s ≠ "" ∧ s ≠ "." ∧ s ≠ ".." ∧ '/' ∉ s.toList)
    ⟨fun ⟨h₁, h₂, h₃, h₄⟩ => ⟨h₁, h₂, h₃, h₄⟩, fun h => ⟨h.1, h.2, h.3, h.4⟩⟩

theorem cleanStep_plain (h : PlainName s) (rooted : Bool) (stack : List String) :
    cleanStep rooted stack s = s :: stack := by
  simp [cleanStep, h.ne_empty, h.ne_dot, h.ne_dotdot]

theorem split_plain (h : PlainName s) : split '/' s = [s] :=
  split_eq_singleton h.no_slash

theorem PlainName.head_ne_slash (h : PlainName s) : (s.toList.head? == some '/') = false := by
  have hne : s.toList ≠ [] := fun hnil => h.ne_empty (String.toList_eq_nil_iff.mp hnil)
  obtain ⟨c, cs, hcs⟩ := List.exists_cons_of_ne_nil hne
  have hc : c ≠ '/' := fun heq => h.no_slash (by rw [hcs, heq]; exact .head _)
  simp [hcs, hc]

theorem cleanPath_append (ha : a ≠ "") (b : String) :
    cleanPath (a ++ "/" ++ b) =
      ⟨(cleanPath a).rooted, ((split '/' b).foldl (cleanStep (cleanPath a).rooted)
        (cleanPath a).comps.reverse).reverse⟩ := by
  have hsep : "/" = String.singleton '/' := by decide
  have hroot : (a ++ "/" ++ b).toList.head? = a.toList.head? := by
    have hne : a.toList ≠ [] := fun h => ha (String.toList_eq_nil_iff.mp h)
    obtain ⟨c, cs, hcs⟩ := List.exists_cons_of_ne_nil hne
    simp [hcs]
  rw [cleanPath, hroot, hsep, split_append_sep, List.foldl_append, cleanPath, List.reverse_reverse]

theorem joinPath_empty (l : List String) : joinPath ("" :: l) = joinPath l := by
  simp [joinPath]

theorem joinPath_of_ne (ha : a ≠ "") (l : List String) :
    joinPath (a :: l) = cleanPath ("/".intercalate (a :: l)) := by
  simp [joinPath, ha]

theorem joinPath_name (hname : PlainName name) :
    joinPath [dir, name] = ⟨(cleanPath dir).rooted, (cleanPath dir).comps ++ [name]⟩ := by
  by_cases hdir : dir = ""
  · -- an empty directory is dropped, and the name is not rooted
    subst hdir
    have hjoin : joinPath ["", name] = cleanPath name := by
      rw [joinPath_empty, joinPath_of_ne hname.ne_empty]
      rfl
    rw [hjoin, cleanPath, hname.head_ne_slash, split_plain hname, List.foldl_cons,
      cleanStep_plain hname]
    rfl
  · have hjoin : joinPath [dir, name] = cleanPath (dir ++ "/" ++ name) := joinPath_of_ne hdir _
    rw [hjoin, cleanPath_append hdir, split_plain hname, List.foldl_cons, cleanStep_plain hname,
      List.foldl_nil, List.reverse_cons, List.reverse_reverse]

/-- The components below a fixed directory `dir/sub`: the rest of the path may
    lead out of it. -/
theorem joinPath_sub (hsub : PlainName sub) (rest : String) :
    joinPath [dir, sub, rest] =
      ⟨(cleanPath dir).rooted, ((split '/' rest).foldl (cleanStep (cleanPath dir).rooted)
        (sub :: (cleanPath dir).comps.reverse)).reverse⟩ := by
  have hjoin : ∃ t ≠ "", joinPath [dir, sub] = cleanPath t ∧
      joinPath [dir, sub, rest] = cleanPath (t ++ "/" ++ rest) := by
    by_cases hdir : dir = ""
    · rw [hdir, joinPath_empty, joinPath_empty]
      exact ⟨sub, hsub.ne_empty, joinPath_of_ne hsub.ne_empty _, joinPath_of_ne hsub.ne_empty _⟩
    · exact ⟨dir ++ "/" ++ sub, by simp [hdir], joinPath_of_ne hdir _, joinPath_of_ne hdir _⟩
  obtain ⟨t, ht, hjoin, hjoin'⟩ := hjoin
  rw [hjoin', cleanPath_append ht, ← hjoin, joinPath_name hsub, List.reverse_append]
  rfl

theorem joinPath_plain (hsub : PlainName sub) (hname : PlainName name) :
    joinPath [dir, sub, name] =
      ⟨(cleanPath dir).rooted, (cleanPath dir).comps ++ [sub, name]⟩ := by
  rw [joinPath_sub hsub, split_plain hname, List.foldl_cons, cleanStep_plain hname, List.foldl_nil]
  simp

def joinComps : List String → String
  | [] => ""
  | [c] => c
  | c :: cs => c ++ "/" ++ joinComps cs

def Path.text (p : Path) : String :=
  if p.rooted then "/" ++ joinComps p.comps
  else if p.comps = [] then "." else joinComps p.comps

def Path.base (p : Path) : String :=
  p.comps.getLast?.getD (if p.rooted then "/" else ".")

theorem joinComps_append {cs : List String} (h : cs ≠ []) (c : String) :
    joinComps (cs ++ [c]) = joinComps cs ++ "/" ++ c := by
  induction cs with
  | nil => exact absurd rfl h
  | cons d cs ih =>
    cases cs with
    | nil => rfl
    | cons e cs =>
      have hrec := ih (by simp)
      simp only [List.cons_append, joinComps] at hrec ⊢
      rw [hrec, String.append_assoc, String.append_assoc, String.append_assoc,
        String.append_assoc, String.append_assoc]

theorem Path.text_append {rooted : Bool} {comps : List String} (h : comps ≠ []) (name : String) :
    Path.text ⟨rooted, comps ++ [name]⟩ = Path.text ⟨rooted, comps⟩ ++ "/" ++ name := by
  cases rooted with
  | true => simp [Path.text, joinComps_append h, String.append_assoc]
  | false => simp [Path.text, joinComps_append h, h]

theorem Path.exists_text_append (rooted : Bool) (comps : List String) :
    ∃ before, ∀ name, Path.text ⟨rooted, comps ++ [name]⟩ = before ++ name := by
  by_cases hcomps : comps = []
  · subst hcomps
    cases rooted with
    | true => exact ⟨"/", fun name => rfl⟩
    | false => exact ⟨"", fun name => by simp [Path.text, joinComps]⟩
  · exact ⟨Path.text ⟨rooted, comps⟩ ++ "/", fun name => Path.text_append hcomps name⟩

theorem plainName_of_chars (hne : s ≠ "")
    (h : ∀ c ∈ s.toList, c ≠ '.' ∧ c ≠ '/') : PlainName s where
  ne_empty := hne
  ne_dot heq := (h '.' (by rw [heq]; decide)).1 rfl
  ne_dotdot heq := (h '.' (by rw [heq]; decide)).1 rfl
  no_slash hmem := (h '/' hmem).2 rfl

theorem plainName_of_dash (hdash : '-' ∈ s.toList) (hslash : '/' ∉ s.toList) : PlainName s where
  ne_empty heq := by
    rw [heq] at hdash
    cases hdash
  ne_dot heq := by
    rw [heq] at hdash
    exact absurd hdash (by decide)
  ne_dotdot heq := by
    rw [heq] at hdash
    exact absurd hdash (by decide)
  no_slash := hslash

theorem IsHex.plainName (h : IsHex s) : PlainName s := by
  refine plainName_of_chars h.1 ?_
  intro c hc
  have hhex := h.2 c hc
  constructor <;>
  · rintro rfl
    exact absurd hhex (by decide)

end Opni.Lib
