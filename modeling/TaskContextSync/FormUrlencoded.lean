import Mathlib.Data.List.Basic

/-!
# Bytes, percent-encoding and form decoding

The URL Standard and the `url` crate read a URL's query as bytes. The URL parser drops
ASCII tab and newline bytes everywhere, takes the query from the first `?` to the first
`#`, and percent-encodes the bytes of the special-query set (`urlQuery`). Reading the query
as `application/x-www-form-urlencoded` (`form_urlencoded::parse`) splits it on `&`, skips
empty pieces, splits each piece at its first `=`, and decodes both halves: `+` becomes a
space, then `%XX` becomes the byte `0xXX` (`formUrlencodedParse`).

A decoded half is kept as bytes here; the crate then reads them as UTF-8, lossily, which
gives back the string they encode when they are valid UTF-8.

`decodeComponent_queryPercentEncode` is the round trip the handoff URL needs: the encoder's
output holds no `&`, `+` or `=` of its own, and decoding it gives back any bytes without `+`
in which no `%` is followed by two hexadecimal digits (`hasPercentEscape`); a `%` followed by
anything else is kept as it is.
-/

namespace TaskContextSync

/-- A byte string. -/
abbrev Bytes := List UInt8

/-- The UTF-8 bytes of a string (`str::as_bytes`). -/
def utf8Bytes (s : String) : Bytes :=
  s.data.flatMap String.utf8EncodeChar

@[simp] theorem utf8Bytes_append (s t : String) :
    utf8Bytes (s ++ t) = utf8Bytes s ++ utf8Bytes t := by
  simp [utf8Bytes]

theorem le_toNat_or {x y : UInt8} (hy : y.toNat.testBit 7 = true) : 128 ≤ (x ||| y).toNat := by
  rw [show (x ||| y).toNat = x.toNat ||| y.toNat from BitVec.toNat_or _ _]
  exact Nat.testBit_implies_ge (i := 7) (by rw [Nat.testBit_or, hy, Bool.or_true])

/-- An ASCII character is one byte, its code. -/
theorem utf8EncodeChar_of_lt {c : Char} (h : c.toNat < 128) :
    String.utf8EncodeChar c = [UInt8.ofNat c.toNat] := by
  have hc : c.val ≤ 0x7f := by
    show c.val.toNat ≤ 127
    exact Nat.le_of_lt_succ h
  simp only [String.utf8EncodeChar, if_pos hc]
  rfl

/-- Every byte of a longer sequence has its top bit set. -/
theorem le_toNat_of_mem_utf8EncodeChar {c : Char} (h : 128 ≤ c.toNat) {b : UInt8}
    (hb : b ∈ String.utf8EncodeChar c) : 128 ≤ b.toNat := by
  have hc : ¬c.val ≤ 0x7f := fun hc => by
    have : c.val.toNat ≤ 127 := hc
    exact absurd h (by simp only [Char.toNat]; omega)
  simp only [String.utf8EncodeChar, if_neg hc] at hb
  split_ifs at hb <;>
    simp only [List.mem_cons, List.not_mem_nil, or_false] at hb <;>
    rcases hb with rfl | rfl | rfl | rfl <;>
    exact le_toNat_or (by decide)

/-- A string without the ASCII character `d` has no byte `d` in its UTF-8. -/
theorem not_mem_utf8Bytes {s : String} {d : Char} (hd : d.toNat < 128) (h : d ∉ s.data) :
    UInt8.ofNat d.toNat ∉ utf8Bytes s := by
  intro hb
  obtain ⟨c, hc, hbc⟩ := List.mem_flatMap.mp hb
  have hd' : (UInt8.ofNat d.toNat).toNat = d.toNat := UInt8.toNat_ofNat_of_lt (by
    simp only [UInt8.size]; omega)
  rcases Nat.lt_or_ge c.toNat 128 with hlt | hge
  · rw [utf8EncodeChar_of_lt hlt, List.mem_singleton,
      ← Function.Injective.eq_iff (f := UInt8.toNat) @UInt8.toNat.inj, hd',
      UInt8.toNat_ofNat_of_lt (by simp only [UInt8.size]; omega)] at hbc
    rw [show d = c by rw [← Char.ofNat_toNat c, ← Char.ofNat_toNat d, hbc]] at h
    exact h hc
  · have := le_toNat_of_mem_utf8EncodeChar hge hbc
    omega

/-- The UTF-8 of a string of ASCII characters is their codes. -/
theorem utf8Bytes_ascii {s : String} (h : ∀ c ∈ s.data, c.toNat < 128) :
    utf8Bytes s = s.data.map fun c => UInt8.ofNat c.toNat := by
  rw [utf8Bytes]
  generalize s.data = l at h ⊢
  induction l with
  | nil => rfl
  | cons c l ih =>
    rw [List.flatMap_cons, utf8EncodeChar_of_lt (h c (List.mem_cons_self c l)),
      ih fun x hx => h x (List.mem_cons_of_mem c hx)]
    rfl

/-! ## Decoding -/

/-- `replace_plus`: every `+` becomes a space. -/
def plusToSpace (bs : Bytes) : Bytes :=
  bs.map fun b => if b = 0x2B then 0x20 else b

/-- The value of a hexadecimal digit, either case. -/
def hexValue (b : UInt8) : Option Nat :=
  if 0x30 ≤ b.toNat ∧ b.toNat ≤ 0x39 then some (b.toNat - 0x30)
  else if 0x41 ≤ b.toNat ∧ b.toNat ≤ 0x46 then some (b.toNat - 0x37)
  else if 0x61 ≤ b.toNat ∧ b.toNat ≤ 0x66 then some (b.toNat - 0x57)
  else none

/-- `percent_decode`: `%` and two hexadecimal digits become the byte they spell; any other
`%` stays. -/
def percentDecode : Bytes → Bytes
  | b :: h :: l :: rest =>
    if b = 0x25 then
      match hexValue h, hexValue l with
      | some x, some y => UInt8.ofNat (16 * x + y) :: percentDecode rest
      | _, _ => b :: percentDecode (h :: l :: rest)
    else b :: percentDecode (h :: l :: rest)
  | b :: rest => b :: percentDecode rest
  | [] => []

/-- Whether the bytes start with two hexadecimal digits. -/
def startsWithHexPair : Bytes → Bool
  | h :: l :: _ => (hexValue h).isSome && (hexValue l).isSome
  | _ => false

/-- Whether some `%` is followed by two hexadecimal digits, which `percent_decode` turns into
one byte. -/
def hasPercentEscape : Bytes → Bool
  | [] => false
  | b :: rest => (b == 0x25 && startsWithHexPair rest) || hasPercentEscape rest

/-- How `form_urlencoded` decodes a name or a value. -/
def decodeComponent (bs : Bytes) : Bytes :=
  percentDecode (plusToSpace bs)

/-- One `&`-separated piece: skipped when empty, else split at its first `=`, both halves
decoded. -/
def parsePiece (piece : Bytes) : Option (Bytes × Bytes) :=
  if piece.isEmpty then none
  else
    let (name, rest) := piece.span (· != 0x3D)
    some (decodeComponent name, decodeComponent (rest.drop 1))

/-- `form_urlencoded::parse`, each decoded half kept as bytes. -/
def formUrlencodedParse (input : Bytes) : List (Bytes × Bytes) :=
  (input.splitOn 0x26).filterMap parsePiece

theorem plusToSpace_eq_self {bs : Bytes} (h : ∀ b ∈ bs, b ≠ 0x2B) : plusToSpace bs = bs := by
  conv_rhs => rw [← List.map_id bs]
  exact List.map_congr_left fun b hb => if_neg (h b hb)

theorem percentDecode_cons_of_ne {b : UInt8} (hb : b ≠ 0x25) (rest : Bytes) :
    percentDecode (b :: rest) = b :: percentDecode rest := by
  match rest with
  | [] => rfl
  | [_] => rfl
  | _ :: _ :: _ => rw [percentDecode, if_neg hb]

/-- A `%` that no two hexadecimal digits follow is kept. -/
theorem percentDecode_percent {rest : Bytes} (h : startsWithHexPair rest = false) :
    percentDecode (0x25 :: rest) = 0x25 :: percentDecode rest := by
  match rest, h with
  | [], _ => rfl
  | [_], _ => rfl
  | x :: y :: _, h =>
    rw [percentDecode, if_pos rfl]
    simp only [startsWithHexPair] at h
    cases hx : hexValue x <;> cases hy : hexValue y <;> simp_all

theorem hasPercentEscape_eq_false {bs : Bytes} (h : (0x25 : UInt8) ∉ bs) :
    hasPercentEscape bs = false := by
  induction bs with
  | nil => rfl
  | cons b bs ih =>
    have hb : (b == 0x25) = false := beq_false_of_ne fun e => h (e ▸ List.mem_cons_self b bs)
    simp [hasPercentEscape, hb, ih fun hm => h (List.mem_cons_of_mem b hm)]

/-! ## The query of a URL -/

/-- ASCII tab, line feed and carriage return, which the URL parser removes. -/
def isTabOrNewline (b : UInt8) : Bool :=
  b = 0x09 || b = 0x0A || b = 0x0D

/-- The special-query percent-encode set: C0 controls, space, `"`, `#`, `'`, `<`, `>`, and
every byte above `0x7E`. -/
def inQueryEncodeSet (b : UInt8) : Bool :=
  b.toNat ≤ 0x20 || 0x7E < b.toNat || b = 0x22 || b = 0x23 || b = 0x27 || b = 0x3C || b = 0x3E

/-- An upper-case hexadecimal digit. -/
def hexDigit (n : Nat) : UInt8 :=
  if n < 10 then UInt8.ofNat (0x30 + n) else UInt8.ofNat (0x37 + n)

/-- `%` and the two digits of a byte. -/
def percentEncodeByte (b : UInt8) : Bytes :=
  [0x25, hexDigit (b.toNat / 16), hexDigit (b.toNat % 16)]

/-- The URL parser's query state: each byte of the encode set becomes `%XX`. -/
def queryPercentEncode (bs : Bytes) : Bytes :=
  bs.flatMap fun b => if inQueryEncodeSet b then percentEncodeByte b else [b]

/-- The serialized query of an absolute URL whose scheme, host and path hold no `?` and no
`#`: after the first `?`, up to the first `#`, tab and newline bytes removed, encoded. -/
def urlQuery (url : Bytes) : Bytes :=
  let input := url.filter fun b => !isTabOrNewline b
  queryPercentEncode (((input.dropWhile (· != 0x3F)).drop 1).takeWhile (· != 0x23))

/-! ## Decoding what the URL parser encoded -/

theorem hexValue_hexDigit : ∀ n < 16, hexValue (hexDigit n) = some n := by decide

/-- No hexadecimal digit is `&`, `+` or `=`. -/
theorem hexDigit_ne_separator :
    ∀ n < 16, hexDigit n ≠ 0x26 ∧ hexDigit n ≠ 0x2B ∧ hexDigit n ≠ 0x3D := by decide

/-- A hexadecimal digit is not in the encode set. -/
theorem hexValue_eq_none_of_inQueryEncodeSet {b : UInt8} (h : inQueryEncodeSet b = true) :
    hexValue b = none := by
  simp only [inQueryEncodeSet, Bool.or_eq_true, decide_eq_true_eq,
    ← Function.Injective.eq_iff (f := UInt8.toNat) @UInt8.toNat.inj, UInt8.reduceToNat] at h
  simp only [hexValue]
  split_ifs <;> first | rfl | omega

theorem startsWithHexPair_cons_of_hexValue {b : UInt8} (h : hexValue b = none) (rest : Bytes) :
    startsWithHexPair (b :: rest) = false := by
  cases rest <;> simp [startsWithHexPair, h]

theorem queryPercentEncode_cons (b : UInt8) (bs : Bytes) :
    queryPercentEncode (b :: bs) =
      (if inQueryEncodeSet b then percentEncodeByte b else [b]) ++ queryPercentEncode bs :=
  List.flatMap_cons _ _ _

/-- The encoder's output starts with two hexadecimal digits exactly when its input does: an
encoded byte starts with `%`. -/
theorem startsWithHexPair_queryPercentEncode (bs : Bytes) :
    startsWithHexPair (queryPercentEncode bs) = startsWithHexPair bs := by
  have hpercent : hexValue 0x25 = none := by decide
  match bs with
  | [] => rfl
  | x :: rest =>
    rw [queryPercentEncode_cons]
    cases hx : inQueryEncodeSet x
    · match rest with
      | [] => rfl
      | y :: rest =>
        rw [queryPercentEncode_cons]
        cases hy : inQueryEncodeSet y
        · rfl
        · simp [startsWithHexPair, percentEncodeByte, hpercent,
            hexValue_eq_none_of_inQueryEncodeSet hy]
    · rw [startsWithHexPair_cons_of_hexValue (hexValue_eq_none_of_inQueryEncodeSet hx)]
      simp [percentEncodeByte, startsWithHexPair, hpercent]

theorem percentDecode_percentEncodeByte (b : UInt8) (rest : Bytes) :
    percentDecode (percentEncodeByte b ++ rest) = b :: percentDecode rest := by
  have hb : b.toNat < 256 := b.toNat_lt_size
  rw [percentEncodeByte, List.cons_append, List.cons_append, List.cons_append, List.nil_append,
    percentDecode, if_pos rfl, hexValue_hexDigit _ (by omega), hexValue_hexDigit _ (by omega)]
  dsimp only
  congr 1
  apply UInt8.toNat.inj
  rw [UInt8.toNat_ofNat_of_lt (by simp only [UInt8.size]; omega)]
  omega

/-- The encoder adds only `%` and hexadecimal digits. -/
theorem mem_queryPercentEncode {bs : Bytes} {x : UInt8} (hx : x ∈ queryPercentEncode bs) :
    x ∈ bs ∨ x = 0x25 ∨ ∃ n < 16, x = hexDigit n := by
  obtain ⟨b, hb, hxb⟩ := List.mem_flatMap.mp hx
  split at hxb
  · have : b.toNat < 256 := b.toNat_lt_size
    simp only [percentEncodeByte, List.mem_cons, List.not_mem_nil, or_false] at hxb
    rcases hxb with rfl | rfl | rfl
    · exact .inr (.inl rfl)
    · exact .inr (.inr ⟨_, by omega, rfl⟩)
    · exact .inr (.inr ⟨_, by omega, rfl⟩)
  · exact .inl (List.mem_singleton.mp hxb ▸ hb)

/-- Bytes in which no `%` is followed by two hexadecimal digits come back from the encoder
unchanged by `percent_decode`. -/
theorem percentDecode_queryPercentEncode :
    ∀ {bs : Bytes}, hasPercentEscape bs = false → percentDecode (queryPercentEncode bs) = bs
  | [], _ => rfl
  | b :: bs, h => by
    simp only [hasPercentEscape, Bool.or_eq_false_iff, Bool.and_eq_false_iff] at h
    have ih := percentDecode_queryPercentEncode h.2
    rw [queryPercentEncode_cons]
    split
    · rw [percentDecode_percentEncodeByte, ih]
    · rw [List.singleton_append]
      by_cases hb : b = 0x25
      · subst hb
        have hstart : startsWithHexPair bs = false := by simpa using h.1
        rw [percentDecode_percent (by rwa [startsWithHexPair_queryPercentEncode]), ih]
      · rw [percentDecode_cons_of_ne hb, ih]

/-- **Decoding a component the URL parser encoded.** Bytes without `+` in which no `%` is
followed by two hexadecimal digits come back. -/
theorem decodeComponent_queryPercentEncode {bs : Bytes} (hplus : ∀ b ∈ bs, b ≠ 0x2B)
    (hesc : hasPercentEscape bs = false) :
    decodeComponent (queryPercentEncode bs) = bs := by
  rw [decodeComponent, plusToSpace_eq_self, percentDecode_queryPercentEncode hesc]
  intro x hx
  rcases mem_queryPercentEncode hx with hx | rfl | ⟨n, hn, rfl⟩
  · exact hplus x hx
  · decide
  · exact (hexDigit_ne_separator n hn).2.1

@[simp] theorem queryPercentEncode_append (a b : Bytes) :
    queryPercentEncode (a ++ b) = queryPercentEncode a ++ queryPercentEncode b :=
  List.flatMap_append _ _ _

theorem queryPercentEncode_eq_self {bs : Bytes} (h : ∀ b ∈ bs, inQueryEncodeSet b = false) :
    queryPercentEncode bs = bs := by
  induction bs with
  | nil => rfl
  | cons b bs ih =>
    rw [queryPercentEncode, List.flatMap_cons, if_neg (by simp [h b (List.mem_cons_self b bs)]),
      ← queryPercentEncode, ih fun x hx => h x (List.mem_cons_of_mem b hx)]
    rfl

/-! ## Splitting a query into pairs -/

/-- A pair written `name=value`. -/
def formPair (p : Bytes × Bytes) : Bytes :=
  p.1 ++ 0x3D :: p.2

theorem parsePiece_formPair {p : Bytes × Bytes} (h : 0x3D ∉ p.1) :
    parsePiece (formPair p) = some (decodeComponent p.1, decodeComponent p.2) := by
  have hall : ∀ b ∈ p.1, (b != 0x3D) = true := fun b hb => by
    simpa using fun hb' : b = 0x3D => h (hb' ▸ hb)
  simp only [parsePiece, formPair, List.span_eq_take_drop, List.takeWhile_append_of_pos hall,
    List.dropWhile_append, List.dropWhile_eq_nil_iff.mpr hall]
  simp

/-- Pairs whose names hold no `&` and no `=`, and whose values hold no `&`, written
`name=value` and joined by `&`, decode pair by pair. -/
theorem formUrlencodedParse_intercalate {ps : List (Bytes × Bytes)} (hps : ps ≠ [])
    (h : ∀ p ∈ ps, 0x26 ∉ p.1 ∧ 0x3D ∉ p.1 ∧ 0x26 ∉ p.2) :
    formUrlencodedParse ([0x26].intercalate (ps.map formPair)) =
      ps.map fun p => (decodeComponent p.1, decodeComponent p.2) := by
  have hsep : ∀ l ∈ ps.map formPair, (0x26 : UInt8) ∉ l := by
    simp only [List.mem_map]
    rintro _ ⟨p, hp, rfl⟩ hmem
    obtain ⟨h1, -, h3⟩ := h p hp
    simp only [formPair, List.mem_append, List.mem_cons] at hmem
    rcases hmem with hmem | hmem | hmem
    · exact h1 hmem
    · exact absurd hmem (by decide)
    · exact h3 hmem
  rw [formUrlencodedParse, List.splitOn_intercalate _ _ hsep (by simpa using hps),
    List.filterMap_map, ← List.filterMap_eq_map]
  exact List.filterMap_congr fun p hp => parsePiece_formPair (h p hp).2.1

end TaskContextSync
