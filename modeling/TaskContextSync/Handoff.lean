import Mathlib.Data.Nat.Digits
import TaskContextSync.FormUrlencoded

/-!
# The handoff URL

`sync_task` hands the browser `https://app.oppla.ai/home/ide?token=…&callback_port=…`,
built with `format!`: the token and the port are pasted in as they are, with no encoding
(`handoffUrl`). Reading its query as `application/x-www-form-urlencoded`
(`handoffQueryPairs`) gives back `token` and `callback_port` with their values when the
token has none of `&`, `#`, `+`, tab, line feed and carriage return, and no `%` followed by
two hexadecimal digits (`handoffQueryPairs_eq`); a `%` followed by anything else comes back
as it is. Each of those alters some token (`handoffQueryPairs_not_intact`): `&` splits it
into more pairs, `#` cuts the query, `+` reads as a space, `%41` as `A`, and a tab is dropped.
-/

namespace TaskContextSync

/-- The page `sync_task` opens in the browser. -/
def handoffUrl (token : String) (port : UInt16) : String :=
  "https://app.oppla.ai/home/ide?token=" ++ token ++ "&callback_port=" ++ toString port

/-- The pairs a reader of the handoff URL's query gets. -/
def handoffQueryPairs (token : String) (port : UInt16) : List (Bytes × Bytes) :=
  formUrlencodedParse (urlQuery (utf8Bytes (handoffUrl token port)))

/-- The characters that do not come through the handoff URL as themselves: `&` ends the
value, `#` ends the query, `+` is decoded, tab and newlines are dropped. -/
def handoffUnsafeChars : List Char :=
  ['&', '#', '+', '\t', '\n', '\r']

/-! ## The port's digits -/

theorem isDigit_of_mem_toDigitsCore :
    ∀ {fuel n : Nat} {ds : List Char}, (∀ c ∈ ds, c.isDigit) →
      ∀ c ∈ Nat.toDigitsCore 10 fuel n ds, c.isDigit
  | 0, _, _, hds => hds
  | fuel + 1, n, ds, hds => by
    have hd : (Nat.digitChar (n % 10)).isDigit := by
      have : ∀ k < 10, (Nat.digitChar k).isDigit := by decide
      exact this _ (Nat.mod_lt n (by decide))
    have hcons : ∀ c ∈ Nat.digitChar (n % 10) :: ds, c.isDigit :=
      List.forall_mem_cons.mpr ⟨hd, hds⟩
    simp only [Nat.toDigitsCore]
    split
    · exact hcons
    · exact isDigit_of_mem_toDigitsCore hcons

/-- The bytes of a number written in decimal are the digits `0x30` to `0x39`. -/
theorem utf8Bytes_toString_digit (n : Nat) :
    ∀ b ∈ utf8Bytes (toString n), 0x30 ≤ b.toNat ∧ b.toNat ≤ 0x39 := by
  have hdig : ∀ c ∈ (toString n).data, c.isDigit :=
    isDigit_of_mem_toDigitsCore (fun _ h => absurd h (List.not_mem_nil _))
  have hcode : ∀ c ∈ (toString n).data, 0x30 ≤ c.toNat ∧ c.toNat ≤ 0x39 := fun c hc => by
    have := hdig c hc
    simp only [Char.isDigit, Bool.and_eq_true, decide_eq_true_eq] at this
    exact this
  rw [utf8Bytes_ascii fun c hc => by have := hcode c hc; omega]
  simp only [List.mem_map]
  rintro _ ⟨c, hc, rfl⟩
  rw [UInt8.toNat_ofNat_of_lt (by have := hcode c hc; simp only [UInt8.size]; omega)]
  exact hcode c hc

/-- A digit is none of the bytes the URL parser or the form decoder treat specially. -/
theorem digit_byte_plain {b : UInt8} (h : 0x30 ≤ b.toNat ∧ b.toNat ≤ 0x39) :
    b ≠ 0x26 ∧ b ≠ 0x23 ∧ b ≠ 0x2B ∧ b ≠ 0x25 ∧ b ≠ 0x3D ∧ isTabOrNewline b = false ∧
      inQueryEncodeSet b = false := by
  simp only [ne_eq, isTabOrNewline, inQueryEncodeSet,
    ← Function.Injective.eq_iff (f := UInt8.toNat) @UInt8.toNat.inj, UInt8.reduceToNat,
    Bool.or_eq_false_iff, decide_eq_false_iff_not]
  omega

/-- A token without the unsafe characters has none of their bytes. -/
theorem token_byte_plain {token : String} (h : ∀ c ∈ handoffUnsafeChars, c ∉ token.data) :
    ∀ b ∈ utf8Bytes token, b ≠ 0x26 ∧ b ≠ 0x23 ∧ b ≠ 0x2B ∧ isTabOrNewline b = false := by
  have hascii : ∀ d ∈ handoffUnsafeChars, d.toNat < 128 := by decide
  intro b hb
  have hne : ∀ d ∈ handoffUnsafeChars, b ≠ UInt8.ofNat d.toNat := fun d hd e =>
    not_mem_utf8Bytes (hascii d hd) (h d hd) (e ▸ hb)
  have h9 : b ≠ 0x09 := hne '\t' (by decide)
  have h10 : b ≠ 0x0A := hne '\n' (by decide)
  have h13 : b ≠ 0x0D := hne '\r' (by decide)
  exact ⟨hne '&' (by decide), hne '#' (by decide), hne '+' (by decide),
    by simp [isTabOrNewline, h9, h10, h13]⟩

/-! ## Reading the query back -/

/-- The query of a URL on the handoff page: everything after the `?`, encoded. -/
theorem urlQuery_handoff {Q : Bytes} (hQ : ∀ b ∈ Q, isTabOrNewline b = false ∧ b ≠ 0x23) :
    urlQuery (utf8Bytes "https://app.oppla.ai/home/ide?" ++ Q) = queryPercentEncode Q := by
  have hpre : ∀ b ∈ utf8Bytes "https://app.oppla.ai/home/ide?", (!isTabOrNewline b) = true := by
    decide
  have hfilter : (utf8Bytes "https://app.oppla.ai/home/ide?" ++ Q).filter
      (fun b => !isTabOrNewline b) = utf8Bytes "https://app.oppla.ai/home/ide?" ++ Q := by
    rw [List.filter_eq_self]
    intro b hb
    rcases List.mem_append.mp hb with hb | hb
    · exact hpre b hb
    · simp [(hQ b hb).1]
  have hdrop : (utf8Bytes "https://app.oppla.ai/home/ide?").dropWhile (· != 0x3F) = [0x3F] := by
    decide
  simp only [urlQuery, hfilter, List.dropWhile_append, hdrop]
  simp only [List.isEmpty_cons, Bool.false_eq_true, if_false, List.singleton_append, List.drop_one,
    List.tail_cons]
  rw [List.takeWhile_eq_self_iff.mpr fun b hb => by simpa using (hQ b hb).2]

/-- The bytes of the port are plain digits. -/
theorem port_byte_plain (port : UInt16) :
    ∀ b ∈ utf8Bytes (toString port), b ≠ 0x26 ∧ b ≠ 0x23 ∧ b ≠ 0x2B ∧ b ≠ 0x25 ∧ b ≠ 0x3D ∧
      isTabOrNewline b = false ∧ inQueryEncodeSet b = false :=
  fun b hb => digit_byte_plain (utf8Bytes_toString_digit port.toNat b hb)

/-- The query the URL parser gives for the handoff URL: the token percent-encoded, everything
else as written. -/
theorem urlQuery_handoffUrl {token : String} (h : ∀ c ∈ handoffUnsafeChars, c ∉ token.data)
    (port : UInt16) :
    urlQuery (utf8Bytes (handoffUrl token port)) =
      utf8Bytes "token=" ++ queryPercentEncode (utf8Bytes token) ++ utf8Bytes "&callback_port=" ++
        utf8Bytes (toString port) := by
  have hT := token_byte_plain h
  have hP := port_byte_plain port
  have hurl : utf8Bytes (handoffUrl token port) = utf8Bytes "https://app.oppla.ai/home/ide?" ++
      (utf8Bytes "token=" ++ utf8Bytes token ++ utf8Bytes "&callback_port=" ++
        utf8Bytes (toString port)) := by
    simp only [handoffUrl, utf8Bytes_append, List.append_assoc]
    rfl
  have hQ : ∀ b ∈ utf8Bytes "token=" ++ utf8Bytes token ++ utf8Bytes "&callback_port=" ++
      utf8Bytes (toString port), isTabOrNewline b = false ∧ b ≠ 0x23 := by
    have hkey : ∀ b ∈ utf8Bytes "token=" ++ utf8Bytes "&callback_port=",
        isTabOrNewline b = false ∧ b ≠ 0x23 := by decide
    intro b hb
    simp only [List.mem_append] at hb
    rcases hb with ((hb | hb) | hb) | hb
    · exact hkey b (List.mem_append_left _ hb)
    · exact ⟨(hT b hb).2.2.2, (hT b hb).2.1⟩
    · exact hkey b (List.mem_append_right _ hb)
    · exact ⟨(hP b hb).2.2.2.2.2.1, (hP b hb).2.1⟩
  rw [hurl, urlQuery_handoff hQ, queryPercentEncode_append, queryPercentEncode_append,
    queryPercentEncode_append,
    @queryPercentEncode_eq_self (utf8Bytes (toString port)) fun b hb => (hP b hb).2.2.2.2.2.2,
    show queryPercentEncode (utf8Bytes "token=") = utf8Bytes "token=" by decide,
    show queryPercentEncode (utf8Bytes "&callback_port=") = utf8Bytes "&callback_port=" by decide]

/-- **The handoff URL carries the token and the port.** Read as
`application/x-www-form-urlencoded`, its query is the pair `token` with the token's bytes
and the pair `callback_port` with the port in decimal, for every port and every token
without `&`, `#`, `+`, tab, line feed and carriage return in which no `%` is followed by two
hexadecimal digits. -/
theorem handoffQueryPairs_eq (token : String) (port : UInt16)
    (h : ∀ c ∈ handoffUnsafeChars, c ∉ token.data) (hesc : hasPercentEscape (utf8Bytes token) = false) :
    handoffQueryPairs token port =
      [(utf8Bytes "token", utf8Bytes token),
        (utf8Bytes "callback_port", utf8Bytes (toString port))] := by
  have hT := token_byte_plain h
  have hP := port_byte_plain port
  have hsplit : utf8Bytes "token=" ++ queryPercentEncode (utf8Bytes token) ++
      utf8Bytes "&callback_port=" ++ utf8Bytes (toString port) =
      [0x26].intercalate ([(utf8Bytes "token", queryPercentEncode (utf8Bytes token)),
        (utf8Bytes "callback_port", utf8Bytes (toString port))].map formPair) := by
    rw [show utf8Bytes "token=" = utf8Bytes "token" ++ [0x3D] by decide,
      show utf8Bytes "&callback_port=" = 0x26 :: (utf8Bytes "callback_port" ++ [0x3D]) by decide]
    simp [formPair, List.intercalate]
  rw [handoffQueryPairs, urlQuery_handoffUrl h, hsplit,
    formUrlencodedParse_intercalate (List.cons_ne_nil _ _)]
  · have hdecP : decodeComponent (utf8Bytes (toString port)) = utf8Bytes (toString port) := by
      conv_lhs => rw [← queryPercentEncode_eq_self fun b hb => (hP b hb).2.2.2.2.2.2]
      exact decodeComponent_queryPercentEncode (fun b hb => (hP b hb).2.2.1)
        (hasPercentEscape_eq_false fun hmem => (hP _ hmem).2.2.2.1 rfl)
    simp only [List.map_cons, List.map_nil, hdecP,
      decodeComponent_queryPercentEncode (fun b hb => (hT b hb).2.2.1) hesc,
      show decodeComponent (utf8Bytes "token") = utf8Bytes "token" by decide,
      show decodeComponent (utf8Bytes "callback_port") = utf8Bytes "callback_port" by decide]
  · have hE : (0x26 : UInt8) ∉ queryPercentEncode (utf8Bytes token) := fun hmem => by
      rcases mem_queryPercentEncode hmem with hmem | hmem | ⟨n, hn, hmem⟩
      · exact (hT _ hmem).1 rfl
      · exact absurd hmem (by decide)
      · exact (hexDigit_ne_separator n hn).1 hmem.symm
    simp only [List.mem_cons, List.mem_singleton, List.not_mem_nil, or_false, forall_eq_or_imp,
      forall_eq]
    exact ⟨⟨by decide, by decide, hE⟩, by decide, by decide, fun hmem => (hP _ hmem).1 rfl⟩

/-- A token ending in a `%` that no hexadecimal digits follow, on an ephemeral port. -/
theorem handoffQueryPairs_percent :
    (∀ c ∈ handoffUnsafeChars, c ∉ "50%".data) ∧ hasPercentEscape (utf8Bytes "50%") = false ∧
      handoffQueryPairs "50%" 54321 =
        [(utf8Bytes "token", utf8Bytes "50%"), (utf8Bytes "callback_port", utf8Bytes "54321")] :=
  ⟨by decide, by decide, handoffQueryPairs_eq "50%" 54321 (by decide) (by decide)⟩

/-- Each of `&`, `#`, `+`, a `%` escape and a tab alters a token: `a&b` reads as three pairs,
`a#b` loses the rest of the query, `a+b` reads as `a b`, `a%41` as `aA`, and `a`, tab, `b`
as `ab`. -/
theorem handoffQueryPairs_not_intact :
    handoffQueryPairs "a&b" 80 = [(utf8Bytes "token", utf8Bytes "a"), (utf8Bytes "b", []),
        (utf8Bytes "callback_port", utf8Bytes "80")] ∧
      handoffQueryPairs "a#b" 80 = [(utf8Bytes "token", utf8Bytes "a")] ∧
      handoffQueryPairs "a+b" 80 =
        [(utf8Bytes "token", utf8Bytes "a b"), (utf8Bytes "callback_port", utf8Bytes "80")] ∧
      handoffQueryPairs "a%41" 80 =
        [(utf8Bytes "token", utf8Bytes "aA"), (utf8Bytes "callback_port", utf8Bytes "80")] ∧
      handoffQueryPairs "a\tb" 80 =
        [(utf8Bytes "token", utf8Bytes "ab"), (utf8Bytes "callback_port", utf8Bytes "80")] := by
  decide

end TaskContextSync
