import CodeDigest.Emission.Block
import CodeDigest.Proofs.Brackets
import CodeDigest.Proofs.Rows

/-! How far down a declaration reaches that is kept whole: to the end of the first group that may be
its body. -/
namespace CodeDigest.Emission
open Brackets Lexicon
variable {openers : List Char} {ts p r : List Token} {t close last : Token}

/-- A token that opens a body, if it stands outside all brackets. -/
def OpensBody (openers : List Char) (t : Token) : Prop :=
  ∃ c ∈ openers, t.code? = some c ∧ (closer? c).isSome

/-- A group outside all brackets that may be a body, from `o` to `close`, and no earlier one. -/
structure BodyAt (openers : List Char) (ts before : List Token) (o : Token) (inner : List Token)
    (close : Token) (after : List Token) : Prop where
  tokens_eq : ts = before ++ o :: (inner ++ close :: after)
  before_nested : Nested before
  first : ∀ a t b, before = a ++ t :: b → Nested a → ¬OpensBody openers t
  opens : OpensBody openers o
  inner_nested : Nested inner
  closes : ∃ d, Opens o d ∧ close.code? = some d

/-- The bracket that closes the first group that may be a body. -/
def FirstBody (openers : List Char) (ts : List Token) (close : Token) : Prop :=
  ∃ before o inner after, BodyAt openers ts before o inner close after

def LastCloser (ts : List Token) (last : Token) : Prop :=
  ∃ before after c, ts = before ++ last :: after ∧ last.code? = some c ∧ isCloser c = true ∧
    ∀ t ∈ after, ∀ c, t.code? = some c → isCloser c = false

/-! What one token does to the search for the end of the body. -/
section
variable {due due' : List Char} {c d : Char}

private theorem closeOf?_of_isPlain (h : IsPlain t) (depth : Nat) (opened : Bool) :
    closeOf? openers depth opened (t :: r) = closeOf? openers depth opened r := by
  rw [closeOf?]
  split
  · rfl
  · next c hc =>
    obtain ⟨ho, hcl⟩ := h c hc
    have := closer?_isSome c
    rw [ho] at this
    rw [if_neg (by rw [← this]; decide), if_neg (by rw [← isCloser, hcl]; decide)]

private theorem closeOf?_of_opens (hc : t.code? = some c) (hd : closer? c = some d)
    (depth : Nat) (opened : Bool) : closeOf? openers depth opened (t :: r) =
      closeOf? openers (depth + 1) (opened || (depth = 0 && openers.contains c)) r := by
  have := closer?_isSome c
  rw [hd] at this
  simp only [closeOf?, hc]
  rw [if_pos (by rw [← this]; rfl)]

private theorem closeOf?_of_closes (hc : t.code? = some c) (hcl : isCloser c = true)
    (depth : Nat) (opened : Bool) : closeOf? openers depth opened (t :: r) =
      if opened && depth ≤ 1 then some t.start else closeOf? openers (depth - 1) opened r := by
  have := closer?_isSome c
  rw [closer?_of_isCloser hcl] at this
  simp only [closeOf?, hc]
  rw [if_neg (by rw [← this]; decide), if_pos (by rw [← isCloser, hcl])]

/-- Inside a body the search goes on. -/
private theorem closeOf?_inside (h : due? due ts = some due') :
    closeOf? openers (due.length + 1) true (ts ++ r) =
      closeOf? openers (due'.length + 1) true r := by
  induction ts generalizing due with
  | nil =>
    cases h
    rfl
  | cons t ts ih =>
    rw [due?_cons, Option.bind_eq_some_iff] at h
    obtain ⟨next, ht, h⟩ := h
    rw [List.cons_append, ← ih h]
    obtain ⟨hp, rfl⟩ | ⟨d, ⟨c, hc, hd⟩, rfl⟩ | ⟨d, hc, hd, rfl⟩ := take?_eq_some ht
    · rw [closeOf?_of_isPlain hp]
    · rw [closeOf?_of_opens hc hd]
      rfl
    · rw [closeOf?_of_closes hc hd, if_neg (by simp)]
      rfl

/-- Tokens that open no body outside all brackets are passed over. -/
private theorem closeOf?_before (h : due? due ts = some due')
    (hb : ∀ a t b, ts = a ++ t :: b → due? due a = some [] → ¬OpensBody openers t) :
    closeOf? openers due.length false (ts ++ r) = closeOf? openers due'.length false r := by
  induction ts generalizing due with
  | nil =>
    cases h
    rfl
  | cons t ts ih =>
    rw [due?_cons, Option.bind_eq_some_iff] at h
    obtain ⟨next, ht, h⟩ := h
    rw [List.cons_append, ← ih h fun a u b he ha =>
      hb (t :: a) u b (by rw [he]; rfl) (by rw [due?_cons, ht]; exact ha)]
    obtain ⟨hp, rfl⟩ | ⟨d, ⟨c, hc, hd⟩, rfl⟩ | ⟨d, hc, hd, rfl⟩ := take?_eq_some ht
    · rw [closeOf?_of_isPlain hp]
    · rw [closeOf?_of_opens hc hd, List.length_cons]
      congr 1
      cases due with
      | nil =>
        have := hb [] t ts rfl rfl
        simpa [OpensBody, hc, hd] using this
      | cons e due => simp
    · rw [closeOf?_of_closes hc hd, if_neg (by simp)]
      rfl

end

theorem BodyAt.closeOf?_eq {before inner after : List Token} {o : Token}
    (h : BodyAt openers ts before o inner close after) :
    closeOf? openers 0 false ts = some close.start := by
  obtain ⟨c, hm, hc, hs⟩ := h.opens
  obtain ⟨d, ⟨c', hc', hd⟩, hclose⟩ := h.closes
  obtain rfl : c = c' := Option.some.inj (hc.symm.trans hc')
  calc closeOf? openers 0 false ts
      = closeOf? openers 0 false (o :: (inner ++ close :: after)) := by
        rw [h.tokens_eq]
        exact closeOf?_before h.before_nested h.first
    _ = closeOf? openers 1 true (inner ++ close :: after) := by
        rw [closeOf?_of_opens hc hd]
        simp [hm]
    _ = closeOf? openers 1 true (close :: after) := closeOf?_inside h.inner_nested
    _ = some close.start := by
        rw [closeOf?_of_closes hclose (isCloser_of_closer? hd).1]
        rfl

private theorem exists_first_opensBody (openers : List Char) (ts : List Token) :
    (∀ a t b, ts = a ++ t :: b → Nested a → ¬OpensBody openers t) ∨
      ∃ before o rest, ts = before ++ o :: rest ∧ Nested before ∧ OpensBody openers o ∧
        ∀ a t b, before = a ++ t :: b → Nested a → ¬OpensBody openers t := by
  induction ts using List.reverseRecOn with
  | nil => exact .inl fun a t b h => by simp at h
  | append_singleton ts t ih =>
    obtain ih | ⟨before, o, rest, rfl, h⟩ := ih
    · by_cases ht : Nested ts ∧ OpensBody openers t
      · exact .inr ⟨ts, t, [], rfl, ht.1, ht.2, ih⟩
      · refine .inl fun a u b h ha hu => ?_
        have hsplit : ∃ a u b, ts ++ [t] = a ++ u :: b ∧ Nested a ∧ OpensBody openers u :=
          ⟨a, u, b, h, ha, hu⟩
        rw [exists_split_snoc] at hsplit
        obtain h | ⟨a, u, b, he, ha, hu⟩ := hsplit
        · exact ht h
        · exact ih a u b he ha hu
    · exact .inr ⟨before, o, rest ++ [t], by simp, h⟩

/-- Unless no body opens outside all brackets, the first one that does is a group. -/
theorem exists_bodyAt (openers : List Char) (h : Nested ts) :
    (∀ a t b, ts = a ++ t :: b → Nested a → ¬OpensBody openers t) ∨
      ∃ before o inner close after, BodyAt openers ts before o inner close after := by
  obtain hno | ⟨before, o, rest, rfl, hb, ho, hfirst⟩ := exists_first_opensBody openers ts
  · exact .inl hno
  · right
    obtain ⟨c, hm, hc, hs⟩ := id ho
    obtain ⟨d, hd⟩ := Option.isSome_iff_exists.mp hs
    rw [Nested, due?_append, hb, Option.bind_some, due?_cons, take?_of_opens ⟨c, hc, hd⟩] at h
    have hdue : due? ([] ++ [d]) rest = some [] := h
    obtain ⟨inner, close, after, rfl, hi, hclose, -⟩ := exists_close hdue
    exact ⟨before, o, inner, close, after, rfl, hb, hfirst, ho, hi, d, ⟨c, hc, hd⟩, hclose⟩

theorem closeOf?_eq_none (h : Nested ts)
    (hno : ∀ a t b, ts = a ++ t :: b → Nested a → ¬OpensBody openers t) :
    closeOf? openers 0 false ts = none := by
  have := closeOf?_before (r := []) h hno
  rwa [List.append_nil] at this

/-- The search finds the bracket that closes the first body, when there is one. -/
theorem closeOf?_of_nested (openers : List Char) (h : Nested ts) :
    (closeOf? openers 0 false ts = none ∧ ∀ close, ¬FirstBody openers ts close) ∨
      ∃ close ∈ ts, FirstBody openers ts close ∧ closeOf? openers 0 false ts = some close.start := by
  obtain hno | ⟨before, o, inner, close, after, hbody⟩ := exists_bodyAt openers h
  · left
    refine ⟨closeOf?_eq_none h hno, ?_⟩
    rintro close ⟨before, o, inner, after, hbody⟩
    exact hno before o _ hbody.tokens_eq hbody.before_nested hbody.opens
  · right
    exact ⟨close, by simp [hbody.tokens_eq], ⟨_, _, _, _, hbody⟩, hbody.closeOf?_eq⟩

/-! From tokens to rows. -/
section
variable {content region : Text} {start : Nat} {c : Capture} {surface : Surface} {l : Lexicon}

def tokenRow (content : Text) (t : Token) : Nat := ((Source.ofText content).position t.start).row

theorem tokenRow_eq {a b : Text} (hc : content = a ++ region ++ b)
    (h : l.tokensFrom (Text.byteSize a) region = p ++ t :: r) :
    tokenRow content t = (a ++ spelled p).count '\n' := by
  have hs : region = spelled p ++ spelled (t :: r) := by
    rw [← spelled_tokensFrom l (Text.byteSize a) region, h, spelled_append]
  rw [hc, hs, ← List.append_assoc, List.append_assoc _ _ b, tokenRow, tokensFrom_start h,
    ← Text.byteSize_append, Source.position_row]

theorem isBlank_lines {a b : Text} {x : Char} {first last : Nat} (hc : content = a ++ x :: b)
    (hx : CharClass.isBlank x = false) (hfirst : first ≤ a.count '\n') (hlast : a.count '\n' ≤ last) :
    Text.isBlank (Text.unlines ((Source.ofText content).lines first last)) = false := by
  have hn : '\n' ∉ [x] := by
    intro h
    obtain rfl := List.mem_singleton.mp h
    cases hx
  have he : content = a ++ [x] ++ b := by simp [hc]
  obtain ⟨before, k, k', after, -, -, hp⟩ := Text.exists_pieceAt_of_notMem he hn
  have hget := Source.getElem?_lines (.ofText content) first last (a.count '\n' - first)
  rw [Nat.add_sub_cancel' hfirst, if_pos hlast, Source.line?_of_pieceAt hp] at hget
  rw [Text.isBlank_unlines, List.all_eq_false]
  exact ⟨_, List.mem_of_getElem? hget, by simp [hx]⟩

/-- Where a declaration that is kept whole ends, when its region shows a token on a row. -/
theorem block?_eq_of_token {a b : Text} {x : Char} (endRow : Nat)
    (hs : c.start? (.ofText content) = some start)
    (he : min (((matchingClose? surface (.ofText content) start (c.stop (.ofText content))).map
      fun o => ((Source.ofText content).position o).row).getD c.endRow) c.endRow = endRow)
    (hc : content = a ++ x :: b) (hx : CharClass.isBlank x = false)
    (hfirst : c.startRow ≤ a.count '\n') (hlast : a.count '\n' ≤ endRow) :
    ∃ e, block? surface c (.ofText content) = some e ∧ e.covers = some (c.startRow, endRow) ∧
      e.text = Text.trim (withAnnotations (leadingAnnotations surface (.ofText content) c.startRow).2
        (Text.trim (Text.unlines ((Source.ofText content).lines c.startRow endRow)))) := by
  have hb := isBlank_lines hc hx hfirst hlast
  simp only [block?, hs, Option.bind_some, he, keyedByText?]
  rw [if_neg (by simp [withAnnotations, hb])]
  exact ⟨_, rfl, rfl, rfl⟩

/-- A code character of a region stands on a row of the region. -/
private theorem exists_row_of_code {a b : Text} {x : Char} (hc : content = a ++ region ++ b)
    (ht : t ∈ l.tokensFrom (Text.byteSize a) region) (hx : t.code? = some x) :
    ∃ u v, content = u ++ x :: v ∧ tokenRow content t = u.count '\n' ∧
      a.count '\n' ≤ u.count '\n' ∧ u.count '\n' ≤ (a ++ region).count '\n' := by
  obtain ⟨p, r, h⟩ := List.append_of_mem ht
  have hs := spelled_tokensFrom l (Text.byteSize a) region
  rw [h, spelled_append, spelled_cons, text_of_code? ht hx] at hs
  refine ⟨a ++ spelled p, spelled r ++ b, ?_, tokenRow_eq hc h, ?_, ?_⟩
  · rw [hc, ← hs]
    simp
  · rw [List.count_append]
    omega
  · rw [← hs]
    simp only [List.count_append]
    omega

/-- A declaration that is kept whole is shown down to the first group that may be its body. So it
reaches the row of the last bracket that closes in its region exactly when that group does. -/
theorem block?_reaches_lastCloser_iff (hs : c.start? (.ofText content) = some start)
    (hr : (Source.ofText content).slice? start (c.stop (.ofText content)) = some region)
    (hn : Nested (surface.lexicon.tokensFrom start region))
    (hl : LastCloser (surface.lexicon.tokensFrom start region) last) :
    ∃ e endRow, block? surface c (.ofText content) = some e ∧
      e.covers = some (c.startRow, endRow) ∧
      e.text = Text.trim (withAnnotations (leadingAnnotations surface (.ofText content) c.startRow).2
        (Text.trim (Text.unlines ((Source.ofText content).lines c.startRow endRow)))) ∧
      (tokenRow content last ≤ endRow ↔
        ∀ close, FirstBody surface.dialect.blockOpeners (surface.lexicon.tokensFrom start region) close →
          tokenRow content last ≤ tokenRow content close) := by
  have hmatch : matchingClose? surface (.ofText content) start (c.stop (.ofText content)) =
      closeOf? surface.dialect.blockOpeners 0 false (surface.lexicon.tokensFrom start region) := by
    rw [matchingClose?, hr, Option.bind_some]
  obtain ⟨a, b, hc, rfl, hstop⟩ := Text.slice?_eq_some_iff.mp hr
  replace hc : content = a ++ region ++ b := hc
  have hstart : c.startRow = a.count '\n' := by
    rw [hc, List.append_assoc] at hs
    exact (Source.count_of_offset? hs).symm
  have hend : (a ++ region).count '\n' ≤ c.endRow := c.count_le_endRow (q := b) (hc ▸ hstop.symm)
  obtain ⟨hnone, hno⟩ | ⟨close, hmem, hbody, hsome⟩ :=
    closeOf?_of_nested surface.dialect.blockOpeners hn
  · obtain ⟨before, after, x, htokens, hx, hcl, -⟩ := hl
    obtain ⟨u, v, hu, hrow, hle, hle'⟩ := exists_row_of_code hc (by rw [htokens]; simp) hx
    obtain ⟨e, he, hcovers, htext⟩ := block?_eq_of_token c.endRow hs
      (by rw [hmatch, hnone]; exact Nat.min_self _) hu (isBlank_of_isCloser hcl) (by omega) (by omega)
    exact ⟨e, c.endRow, he, hcovers, htext, fun _ close h => absurd h (hno close), fun _ => by omega⟩
  · obtain ⟨_, _, _, _, h⟩ := id hbody
    obtain ⟨d, ⟨_, -, hd⟩, hx⟩ := h.closes
    obtain ⟨u, v, hu, hrow, hle, hle'⟩ := exists_row_of_code hc hmem hx
    obtain ⟨e, he, hcovers, htext⟩ := block?_eq_of_token (tokenRow content close) hs
      (by
        rw [hmatch, hsome]
        exact Nat.min_eq_left (Nat.le_trans (Nat.le_of_eq hrow) (by omega)))
      hu (isBlank_of_isCloser (isCloser_of_closer? hd).1) (by omega) (by omega)
    refine ⟨e, tokenRow content close, he, hcovers, htext, ?_, fun h' => h' close hbody⟩
    rintro hlast close' ⟨_, _, _, _, h'⟩
    have := Option.some.inj (hsome.symm.trans h'.closeOf?_eq)
    rwa [tokenRow, tokenRow, ← this]

def fieldStruct : Text := "struct S \x7b\n  x: u8,\n\x7d".toList

theorem struct_block_reaches_lastCloser_iff :
    ∃ e endRow, block? ⟨.rust, .rust⟩ ⟨"definition.struct", 0, 0, 2, 1⟩ (.ofText fieldStruct) = some e ∧
      e.covers = some (0, endRow) ∧
      e.text = Text.trim (withAnnotations (leadingAnnotations ⟨.rust, .rust⟩ (.ofText fieldStruct) 0).2
        (Text.trim (Text.unlines ((Source.ofText fieldStruct).lines 0 endRow)))) ∧
      (tokenRow fieldStruct ⟨.code '\x7d', 20, ['\x7d']⟩ ≤ endRow ↔
        ∀ close, FirstBody Dialect.rust.blockOpeners (Lexicon.rust.tokensFrom 0 fieldStruct) close →
          tokenRow fieldStruct ⟨.code '\x7d', 20, ['\x7d']⟩ ≤ tokenRow fieldStruct close) := by
  have hlast : LastCloser (Lexicon.rust.tokensFrom 0 fieldStruct) ⟨.code '\x7d', 20, ['\x7d']⟩ := by
    refine ⟨(Lexicon.rust.tokensFrom 0 fieldStruct).dropLast, [], '\x7d', ?_⟩
    decide +kernel
  exact block?_reaches_lastCloser_iff (c := ⟨"definition.struct", 0, 0, 2, 1⟩)
    (by decide +kernel) (by decide +kernel) (by decide +kernel) hlast

def functionType : Text := "type F func(a int) struct \x7b\n\tX int\n\x7d".toList

/-- A function type whose result is a structure loses the structure's members: the parameters are
taken for its body. -/
theorem function_type_block_misses_lastCloser :
    ¬Capture.Inverted ⟨"definition.type", 0, 0, 2, 1⟩ ∧
      Capture.start? ⟨"definition.type", 0, 0, 2, 1⟩ (.ofText functionType) = some 0 ∧
      Source.slice? (.ofText functionType) 0
        (Capture.stop ⟨"definition.type", 0, 0, 2, 1⟩ (.ofText functionType)) = some functionType ∧
      Nested (Lexicon.go.tokensFrom 0 functionType) ∧
      LastCloser (Lexicon.go.tokensFrom 0 functionType) ⟨.code '\x7d', 35, ['\x7d']⟩ ∧
      tokenRow functionType ⟨.code '\x7d', 35, ['\x7d']⟩ = 2 ∧
      block? ⟨.go, .go⟩ ⟨"definition.type", 0, 0, 2, 1⟩ (.ofText functionType) =
        some ⟨"type F func(a int) struct \x7b".toList, 0, ["type F func(a int) struct \x7b".toList],
          some (0, 0)⟩ := by
  have hlast : LastCloser (Lexicon.go.tokensFrom 0 functionType) ⟨.code '\x7d', 35, ['\x7d']⟩ := by
    refine ⟨(Lexicon.go.tokensFrom 0 functionType).dropLast, [], '\x7d', ?_⟩
    decide +kernel
  exact ⟨by decide, by decide +kernel, by decide +kernel, by decide +kernel, hlast,
    by decide +kernel, by decide +kernel⟩

end

end CodeDigest.Emission
