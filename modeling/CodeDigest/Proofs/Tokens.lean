import CodeDigest.Proofs.Bytes
import CodeDigest.Token

/-! Tokens tile their text: each starts where the one before it stops. -/
namespace CodeDigest
variable {l : Lexicon} {start : Nat} {s : Text} {p r : List Token} {t : Token} {c x : Char}

theorem Token.code?_eq_some_iff : t.code? = some c ↔ t.kind = .code c := by
  unfold Token.code?
  split
  · next h => simp [h]
  · next h => simpa using h c

namespace Lexicon

theorem tokensFrom_nil (l : Lexicon) (start : Nat) : l.tokensFrom start [] = [] := by
  rw [tokensFrom]

def spelled (ts : List Token) : Text := ts.flatMap (·.text)

@[simp] theorem spelled_nil : spelled [] = [] := rfl

@[simp] theorem spelled_cons (t : Token) (ts : List Token) :
    spelled (t :: ts) = t.text ++ spelled ts := List.flatMap_cons

@[simp] theorem spelled_append (ts us : List Token) :
    spelled (ts ++ us) = spelled ts ++ spelled us := List.flatMap_append

/-- Behind its first tokens a text is read like any other. -/
theorem tokensFrom_eq_append (h : l.tokensFrom start s = p ++ r) :
    ∃ rest, s = spelled p ++ rest ∧ r = l.tokensFrom (start + Text.byteSize (spelled p)) rest := by
  induction p generalizing start s with
  | nil => exact ⟨s, rfl, h.symm⟩
  | cons t p ih =>
    cases s with
    | nil => simp [tokensFrom_nil] at h
    | cons c s =>
      rw [tokensFrom] at h
      obtain ⟨ht, h⟩ := List.cons_eq_cons.mp h
      obtain ⟨rest, hs, hr⟩ := ih h
      subst ht
      refine ⟨rest, ?_, ?_⟩
      · rw [spelled_cons, List.append_assoc, ← hs]
        simp
      · rw [hr, spelled_cons, Text.byteSize_append, Nat.add_assoc]

theorem spelled_tokensFrom (l : Lexicon) (start : Nat) (s : Text) :
    spelled (l.tokensFrom start s) = s := by
  obtain ⟨rest, hs, hr⟩ := tokensFrom_eq_append (List.append_nil (l.tokensFrom start s)).symm
  cases rest with
  | nil => exact (hs.trans (List.append_nil _)).symm
  | cons c rest => simp [tokensFrom] at hr

/-- A token stands where the text before it ends, and what it takes is read off what is left. -/
theorem tokensFrom_eq_append_cons (h : l.tokensFrom start s = p ++ t :: r) :
    ∃ c rest, s = spelled p ++ c :: rest ∧ t.kind = (l.tokenAt c rest).1 ∧
      t.start = start + Text.byteSize (spelled p) ∧ t.text = c :: rest.take (l.tokenAt c rest).2 := by
  obtain ⟨rest, hs, hr⟩ := tokensFrom_eq_append h
  cases rest with
  | nil => simp [tokensFrom_nil] at hr
  | cons c rest =>
    rw [tokensFrom] at hr
    obtain ⟨ht, -⟩ := List.cons_eq_cons.mp hr
    subst ht
    exact ⟨c, rest, hs, rfl, rfl, rfl⟩

theorem tokensFrom_start (h : l.tokensFrom start s = p ++ t :: r) :
    t.start = start + Text.byteSize (spelled p) := by
  obtain ⟨_, _, -, -, hstart, -⟩ := tokensFrom_eq_append_cons h
  exact hstart

theorem tokensFrom_stop (h : l.tokensFrom start s = p ++ t :: r) :
    t.stop = start + Text.byteSize (spelled (p ++ [t])) := by
  rw [Token.stop, tokensFrom_start h, spelled_append, Text.byteSize_append, Nat.add_assoc]
  simp

theorem tokenAt_code (h : (l.tokenAt x s).1 = .code c) : c = x ∧ (l.tokenAt x s).2 = 0 := by
  generalize hk : l.tokenAt x s = k at h ⊢
  unfold tokenAt at hk
  split at hk
  · subst hk
    cases h
  · split at hk
    · subst hk
      cases h
    · split at hk
      · subst hk
        cases h
      · split at hk
        · subst hk
          cases h
        · subst hk
          cases h
          exact ⟨rfl, rfl⟩

theorem text_of_code? (ht : t ∈ l.tokensFrom start s) (hc : t.code? = some c) : t.text = [c] := by
  obtain ⟨p, r, h⟩ := List.append_of_mem ht
  obtain ⟨x, rest, -, hkind, -, htext⟩ := tokensFrom_eq_append_cons h
  rw [Token.code?_eq_some_iff, hkind] at hc
  obtain ⟨rfl, hn⟩ := tokenAt_code hc
  rw [htext, hn, List.take_zero]

theorem text_ne_nil (ht : t ∈ l.tokensFrom start s) : t.text ≠ [] := by
  obtain ⟨p, r, h⟩ := List.append_of_mem ht
  obtain ⟨_, _, -, -, -, htext⟩ := tokensFrom_eq_append_cons h
  simp [htext]

theorem byteSize_text_pos (h : l.tokensFrom start s = p ++ t :: r) : 0 < Text.byteSize t.text := by
  obtain ⟨x, _, -, -, -, htext⟩ := tokensFrom_eq_append_cons h
  have := x.utf8Size_pos
  rw [htext, Text.byteSize_cons]
  omega

end Lexicon
end CodeDigest
