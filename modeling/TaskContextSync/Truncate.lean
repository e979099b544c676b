import Mathlib.Data.String.Basic

/-!
# Cutting a string at a byte index

The search tool shows a result's content whole when it fits a byte limit, and otherwise its
first `limit` bytes followed by `...` (`format!("{}...", &content[..limit])`). Rust's
`&s[..n]` panics when byte `n` falls inside a character, and the test before it counts bytes,
not characters.

`sliceChars_eq_some` says what a cut returns: the prefix of exactly `n` bytes, when there is
one. So a shown content is the whole content or that prefix and `...`
(`truncateContent_eq_some`), and the cut panics exactly when the content is longer than the
limit and no prefix has `limit` bytes (`truncateContent_eq_none_iff`). That never happens on
one-byte characters (`truncateContent_ascii`) and always happens when the limit falls one byte
into a wider character (`truncateContent_straddle`).
-/

namespace TaskContextSync

open String (utf8Len)

/-- `&s[..n]` on the characters of `s`: the characters of its first `n` bytes, or `none` (a
panic) when byte `n` is inside a character or past the end. -/
def sliceChars : List Char → Nat → Option (List Char)
  | _, 0 => some []
  | [], _ + 1 => none
  | c :: cs, n + 1 =>
    if c.utf8Size ≤ n + 1 then (sliceChars cs (n + 1 - c.utf8Size)).map (c :: ·) else none

/-- `&s[..n]`. -/
def sliceTo (s : String) (n : Nat) : Option String :=
  (sliceChars s.data n).map String.mk

/-- `if content.len() > limit { format!("{}...", &content[..limit]) } else { content.clone() }`,
or `none` when the slice panics. -/
def truncateContent (limit : Nat) (content : String) : Option String :=
  if content.utf8ByteSize > limit then (sliceTo content limit).map (· ++ "...") else some content

/-- A cut at `n` bytes returns the prefix of exactly `n` bytes. -/
theorem sliceChars_eq_some {cs p : List Char} {n : Nat} :
    sliceChars cs n = some p ↔ p <+: cs ∧ utf8Len p = n := by
  induction cs generalizing n p with
  | nil => cases n <;> cases p <;> simp [sliceChars]
  | cons c cs ih =>
    cases n with
    | zero =>
      cases p with
      | nil => simp [sliceChars]
      | cons d p => simp [sliceChars, (Char.utf8Size_pos d).ne']
    | succ n =>
      cases p with
      | nil => simp [sliceChars]
      | cons d p =>
        simp only [sliceChars, List.cons_prefix_cons, String.utf8Len_cons]
        split
        · simp only [Option.map_eq_some', ih, List.cons.injEq]
          constructor
          · rintro ⟨q, ⟨hq, hlen⟩, rfl, rfl⟩
            exact ⟨⟨rfl, hq⟩, by omega⟩
          · rintro ⟨⟨rfl, hp⟩, hlen⟩
            exact ⟨p, ⟨hp, by omega⟩, rfl, rfl⟩
        · simp only [reduceCtorEq, false_iff, not_and]
          rintro ⟨rfl, -⟩
          omega

theorem sliceChars_eq_none {cs : List Char} {n : Nat} :
    sliceChars cs n = none ↔ ∀ p, p <+: cs → utf8Len p ≠ n := by
  simp only [Option.eq_none_iff_forall_not_mem, Option.mem_def, sliceChars_eq_some, not_and]

/-- What a result shows: its whole content when it fits, otherwise a prefix of exactly `limit`
bytes followed by `...`. -/
theorem truncateContent_eq_some {limit : Nat} {content shown : String} :
    truncateContent limit content = some shown ↔
      (content.utf8ByteSize ≤ limit ∧ shown = content) ∨
        (limit < content.utf8ByteSize ∧
          ∃ p, p <+: content.data ∧ utf8Len p = limit ∧ shown = ⟨p⟩ ++ "...") := by
  unfold truncateContent sliceTo
  split
  · simp only [Option.map_map, Option.map_eq_some', sliceChars_eq_some, Function.comp_apply]
    constructor
    · rintro ⟨p, ⟨hp, hlen⟩, rfl⟩
      exact .inr ⟨‹_›, p, hp, hlen, rfl⟩
    · rintro (⟨h, -⟩ | ⟨-, p, hp, hlen, rfl⟩)
      · omega
      · exact ⟨p, ⟨hp, hlen⟩, rfl⟩
  · simp only [Option.some.injEq, eq_comm]
    constructor
    · exact fun h => .inl ⟨by omega, h⟩
    · rintro (⟨-, h⟩ | ⟨h, -⟩)
      · exact h
      · omega

/-- The cut panics exactly when the content is over the limit and byte `limit` is inside a
character. -/
theorem truncateContent_eq_none_iff {limit : Nat} {content : String} :
    truncateContent limit content = none ↔
      limit < content.utf8ByteSize ∧ ∀ p, p <+: content.data → utf8Len p ≠ limit := by
  unfold truncateContent sliceTo
  split
  · simp only [Option.map_map, Option.map_eq_none', sliceChars_eq_none]
    exact ⟨fun h => ⟨‹_›, h⟩, And.right⟩
  · simp only [reduceCtorEq, false_iff, not_and]
    intro h
    omega

theorem utf8Len_of_ascii {cs : List Char} (h : ∀ c ∈ cs, c.utf8Size = 1) :
    utf8Len cs = cs.length := by
  induction cs with
  | nil => rfl
  | cons c cs ih =>
    simp only [String.utf8Len_cons, List.length_cons, h c (List.mem_cons_self c cs),
      ih fun d hd => h d (List.mem_cons_of_mem c hd)]

/-- Content of one-byte characters is cut after its first `limit` characters, and never
panics. -/
theorem truncateContent_ascii (limit : Nat) {content : String}
    (h : ∀ c ∈ content.data, c.utf8Size = 1) :
    truncateContent limit content =
      some (if limit < content.length then ⟨content.data.take limit⟩ ++ "..." else content) := by
  have hsize : content.utf8ByteSize = content.length := utf8Len_of_ascii h
  have htake : utf8Len (content.data.take limit) = min limit content.length :=
    (utf8Len_of_ascii fun c hc => h c (List.mem_of_mem_take hc)).trans (List.length_take ..)
  rw [truncateContent_eq_some]
  split
  · exact .inr ⟨by omega, _, List.take_prefix _ _, by omega, rfl⟩
  · exact .inl ⟨by omega, rfl⟩

theorem truncateContent_ascii_hello :
    (∀ c ∈ "hello".data, c.utf8Size = 1) ∧
      truncateContent 3 "hello" =
        some (if 3 < "hello".length then ⟨"hello".data.take 3⟩ ++ "..." else "hello") :=
  ⟨by decide, truncateContent_ascii 3 (by decide)⟩

/-- A cut one byte into a character wider than a byte, after one-byte characters, panics. -/
theorem sliceChars_straddle {pre : List Char} (hpre : ∀ c ∈ pre, c.utf8Size = 1) {c : Char}
    (hc : 1 < c.utf8Size) (rest : List Char) :
    sliceChars (pre ++ c :: rest) (pre.length + 1) = none := by
  induction pre with
  | nil => simp [sliceChars, Nat.not_le.mpr hc]
  | cons d pre ih =>
    have hd : d.utf8Size = 1 := hpre d (List.mem_cons_self d pre)
    simp [sliceChars, hd, ih fun c hc => hpre c (List.mem_cons_of_mem d hc)]

theorem truncateContent_straddle {pre : List Char} (hpre : ∀ c ∈ pre, c.utf8Size = 1) {c : Char}
    (hc : 1 < c.utf8Size) (rest : List Char) :
    truncateContent (pre.length + 1) ⟨pre ++ c :: rest⟩ = none := by
  have hsize : (String.mk (pre ++ c :: rest)).utf8ByteSize > pre.length + 1 := by
    show pre.length + 1 < utf8Len (pre ++ c :: rest)
    simp only [String.utf8Len_append, String.utf8Len_cons, utf8Len_of_ascii hpre]
    omega
  rw [truncateContent, if_pos hsize, sliceTo, sliceChars_straddle hpre hc]
  rfl

end TaskContextSync
