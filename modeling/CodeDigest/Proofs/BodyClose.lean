import CodeDigest.Proofs.BlockExtent

/-! Where a body closes: at the partner of the first bracket outside all others that may open one. -/
namespace CodeDigest.Emission
open Brackets Lexicon
variable {openers : List Char} {ts before inner after : List Token} {o close : Token}
  {content region : Text} {start stop : Nat} {surface : Surface}

theorem closeOf?_eq_none_iff (h : Nested ts) : closeOf? openers 0 false ts = none ↔
    ∀ before t after, ts = before ++ t :: after → Nested before → ¬OpensBody openers t := by
  constructor
  · intro hnone
    obtain hno | ⟨before, o, inner, close, after, hbody⟩ := exists_bodyAt openers h
    · exact hno
    · rw [hbody.closeOf?_eq] at hnone
      cases hnone
  · exact closeOf?_eq_none h

theorem closeOf?_eq_some_iff {offset : Nat} (h : Nested ts) :
    closeOf? openers 0 false ts = some offset ↔
      ∃ close, FirstBody openers ts close ∧ close.start = offset := by
  constructor
  · intro hsome
    obtain ⟨hnone, -⟩ | ⟨close, -, hbody, hclose⟩ := closeOf?_of_nested openers h
    · rw [hnone] at hsome
      cases hsome
    · exact ⟨close, hbody, Option.some.inj (hclose.symm.trans hsome)⟩
  · rintro ⟨close, ⟨_, _, _, _, hbody⟩, rfl⟩
    exact hbody.closeOf?_eq

/-- The two brackets of the first body decide alone where it closes. -/
theorem BodyAt.closeOf?_eq_pair (h : BodyAt openers ts before o inner close after) :
    closeOf? openers 0 false ts = closeOf? openers 0 false [o, close] := by
  have hpair : BodyAt openers [o, close] [] o [] close [] :=
    ⟨rfl, rfl, fun a t b h => by simp at h, h.opens, rfl, h.closes⟩
  rw [h.closeOf?_eq, hpair.closeOf?_eq]

/-- What the text has at the places of the two brackets. -/
theorem BodyAt.exists_brackets {l : Lexicon} {a b : Text} (hc : content = a ++ region ++ b)
    (h : BodyAt openers (l.tokensFrom (Text.byteSize a) region) before o inner close after) :
    ∃ p c m d q, content = p ++ c :: (m ++ d :: q) ∧ c ∈ openers ∧ closer? c = some d ∧
      Text.byteSize p = o.start ∧ Text.byteSize (p ++ c :: m) = close.start := by
  obtain ⟨c, hm, ho, -⟩ := h.opens
  obtain ⟨d, ⟨c', hc', hd⟩, hclose⟩ := h.closes
  obtain rfl : c = c' := Option.some.inj (ho.symm.trans hc')
  have htokens := h.tokens_eq
  have htokens' : l.tokensFrom (Text.byteSize a) region = (before ++ o :: inner) ++ close :: after := by
    rw [htokens, List.append_assoc, List.cons_append]
  have hopen : o.text = [c] := text_of_code? (by rw [htokens]; simp) ho
  have hclosing : close.text = [d] := text_of_code? (by rw [htokens]; simp) hclose
  have hregion : region = spelled before ++ c :: (spelled inner ++ d :: spelled after) := by
    rw [← spelled_tokensFrom l (Text.byteSize a) region, htokens]
    simp [hopen, hclosing]
  refine ⟨a ++ spelled before, c, spelled inner, d, spelled after ++ b, ?_, hm, hd, ?_, ?_⟩
  · rw [hc, hregion]
    simp
  · rw [tokensFrom_start htokens, Text.byteSize_append]
  · rw [tokensFrom_start htokens', spelled_append, spelled_cons, hopen, List.append_assoc,
      Text.byteSize_append, List.singleton_append]

/-- In a range whose code brackets are nested, the body found closes at the partner of the first bracket
outside all others that the dialect opens bodies with, and no body is found exactly where there is no such
bracket. The bracket and its partner alone decide: comments, literals, other brackets and what is nested in
between play no part. Both stand in the source where they are found. -/
theorem matchingClose?_finds_partner
    (hr : (Source.ofText content).slice? start stop = some region)
    (hn : Nested (surface.lexicon.tokensFrom start region)) :
    let ts := surface.lexicon.tokensFrom start region
    let openers := surface.dialect.blockOpeners
    let found := matchingClose? surface (.ofText content) start stop
    (∀ offset, found = some offset ↔ ∃ close, FirstBody openers ts close ∧ close.start = offset) ∧
      (found = none ↔
        ∀ before t after, ts = before ++ t :: after → Nested before → ¬OpensBody openers t) ∧
      ∀ before o inner close after, BodyAt openers ts before o inner close after →
        found = closeOf? openers 0 false [o, close] ∧
        ∃ p c m d q, content = p ++ c :: (m ++ d :: q) ∧ c ∈ openers ∧ closer? c = some d ∧
          Text.byteSize p = o.start ∧ Text.byteSize (p ++ c :: m) = close.start := by
  intro ts openers found
  have hfound : found = closeOf? openers 0 false ts := by
    simp only [found, matchingClose?, hr, Option.bind_some]
    rfl
  obtain ⟨a, b, hc, rfl, -⟩ := Text.slice?_eq_some_iff.mp hr
  rw [hfound]
  exact ⟨fun _ => closeOf?_eq_some_iff hn, closeOf?_eq_none_iff hn,
    fun _ _ _ _ _ h => ⟨h.closeOf?_eq_pair, h.exists_brackets hc⟩⟩

def arrayOfStructs : Text :=
  "type T [4]struct \x7b\n\tf func(int) // \x7d\n\ts string \"\x7d\"\n\x7d".toList

theorem arrayOfStructs_finds_partner :
    let surface : Surface := ⟨.go, .go⟩
    let ts := surface.lexicon.tokensFrom 0 arrayOfStructs
    let openers := surface.dialect.blockOpeners
    let found := matchingClose? surface (.ofText arrayOfStructs) 0 52
    (Source.ofText arrayOfStructs).slice? 0 52 = some arrayOfStructs ∧ Nested ts ∧ found = some 51 ∧
      (¬∀ before t after, ts = before ++ t :: after → Nested before → ¬OpensBody openers t) ∧
      ∃ before o inner close after, BodyAt openers ts before o inner close after ∧ close.start = 51 ∧
        found = closeOf? openers 0 false [o, close] := by
  intro surface ts openers found
  have hr : (Source.ofText arrayOfStructs).slice? 0 52 = some arrayOfStructs := by decide +kernel
  have hn : Nested (surface.lexicon.tokensFrom 0 arrayOfStructs) := by decide +kernel
  have hfound : found = some 51 := by decide +kernel
  obtain ⟨hsome, hnone, hpair⟩ := matchingClose?_finds_partner hr hn
  obtain ⟨close, ⟨before, o, inner, after, hbody⟩, hstart⟩ := (hsome 51).mp hfound
  refine ⟨hr, hn, hfound, ?_, before, o, inner, close, after, hbody, hstart, (hpair _ _ _ _ _ hbody).1⟩
  intro hno
  cases hfound.symm.trans (hnone.mpr hno)

end CodeDigest.Emission
