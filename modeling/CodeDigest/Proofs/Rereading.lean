import CodeDigest.Proofs.Lookahead
import CodeDigest.Proofs.TokenGrammar

/-! When a token is read again in front of another text: what may change behind it. -/
namespace CodeDigest.Lexicon
variable {l : Lexicon} {s text body rest rest' : Text} {q : Quote} {kind : Token.Kind} {c : Char}

/-- Whatever opens at the start of a text opens at the start of another. -/
structure OpensNoMore (l : Lexicon) (s' s : Text) : Prop where
  line : l.OpensLineComment s' → l.OpensLineComment s
  block : l.OpensBlockComment s' → l.OpensBlockComment s
  triple : l.OpensTriple s' → l.OpensTriple s
  literal : ∀ q, l.OpensLiteral s' q → l.OpensLiteral s q

private theorem unsuppressed_reread {m : LineMarker} {more : Text} (h : m.Unsuppressed (more ++ rest))
    (hended : rest = [] → rest' = []) (stop : ∀ c ∈ rest.head?, c = '\n')
    (stop' : ∀ c ∈ rest'.head?, c = '\n') : m.Unsuppressed (more ++ rest') := by
  cases more with
  | cons a more => exact h
  | nil =>
    cases rest' with
    | nil =>
      unfold LineMarker.Unsuppressed
      cases m.unlessNext <;> simp
    | cons b rest' =>
      obtain rfl := stop' b rfl
      cases rest with
      | nil => exact absurd (hended rfl) (by simp)
      | cons a rest =>
        obtain rfl := stop a rfl
        exact h

/-- A token is read again in front of a text that comes to an end where the text behind the token did, and
begins a line, at most, where that began one. A literal must open there again and no triple quote instead of
it, and code must not open anything. -/
theorem TokenRule.reread (h : l.TokenRule kind text rest)
    (hended : rest = [] → rest' = []) (hline : rest.head? = some '\n' → ∀ c ∈ rest'.head?, c = '\n')
    (hliteral : ∀ q body, text = q.delimiter :: body → literalLength q (body ++ rest) = body.length →
      l.OpensLiteral (text ++ rest) q → l.OpensLiteral (text ++ rest') q)
    (htriple : kind = .literal false → l.OpensTriple (text ++ rest') → l.OpensTriple (text ++ rest))
    (hcode : ∀ c, kind = .code c → OpensNoMore l (c :: rest') (c :: rest)) :
    l.TokenRule kind text rest' := by
  cases h with
  | @lineComment m more _ hm unsuppressed inLine stop =>
    have stop' : ∀ c ∈ rest'.head?, c = '\n' := by
      cases rest with
      | nil => simp [hended rfl]
      | cons a rest =>
        obtain rfl := stop a rfl
        exact hline rfl
    refine .lineComment hm (unsuppressed_reread unsuppressed hended stop stop') inLine stop'
  | @blockComment opener closer _ _ hb upTo =>
    apply TokenRule.blockComment hb
    apply upTo.of_rest _ _ hended
    · exact closer.length
    · rintro x m y rfl
      rfl
    · exact fun _ _ _ _ hm => hm
  | @triple delimiter _ _ ht hd upTo =>
    apply TokenRule.triple ht hd
    apply upTo.of_rest _ _ hended
    · exact delimiter.length
    · rintro x m y ⟨rfl, -⟩
      rfl
    · exact fun _ _ _ _ hm => hm
  | @literal q body _ hopens noTriple upTo =>
    obtain ⟨hback, hnewline⟩ := hopens.delimiter_ne
    have hlength := (literalLength_eq_iff hback hnewline).mpr upTo
    refine .literal (hliteral q body rfl hlength hopens) (mt (htriple rfl) noTriple) ?_
    exact (literalLength_eq_iff hback hnewline).mp (literalLength_of_rest hlength hended hline)
  | code noLine noBlock noTriple noLiteral =>
    have hmore := hcode _ rfl
    refine .code (mt hmore.line noLine) (mt hmore.block noBlock) (mt hmore.triple noTriple) ?_
    exact fun q => mt (hmore.literal q) (noLiteral q)

/-- What opens a literal opens it in front of another text too, if that still looks like a character
literal. -/
theorem OpensLiteral.of_charLiteral (h : l.OpensLiteral (c :: s) q)
    (hchar : looksLikeCharLiteral (c :: s) = true → looksLikeCharLiteral (c :: rest) = true) :
    l.OpensLiteral (c :: rest) q := by
  have hsingle (h : l.singleQuote = .charOrLifetime) (hlooks : looksLikeCharLiteral ('\'' :: rest) = true) :
      l.OpensLiteral ('\'' :: rest) ⟨'\'', false, true⟩ := by
    rcases looksLikeCharLiteral_iff.mp hlooks with ⟨r, rfl⟩ | ⟨a, r, ha, rfl⟩
    · exact .escapedChar h
    · exact .char h ha
  cases h with
  | double h => exact .double h
  | single h => exact .single h
  | raw h => exact .raw h
  | template h => exact .template h
  | escapedChar h => exact hsingle h (hchar rfl)
  | char h hc => exact hsingle h (hchar (looksLikeCharLiteral_iff.mpr (.inr ⟨_, _, hc, rfl⟩)))

/-- What may stand behind a token in place of what stood there: nothing if that was nothing, a new line if
that was one, and behind it a single quote if one was there. -/
structure Replaces (rest rest' : Text) : Prop where
  ended : rest = [] → rest' = []
  line : rest.head? = some '\n' → rest'.head? = some '\n'
  quoted : ∀ s, rest = '\n' :: '\'' :: s → ∃ s', rest' = '\n' :: '\'' :: s'

private theorem literalLength_char {c : Char} (hc : c ≠ '\'') (s : Text) :
    literalLength ⟨'\'', false, true⟩ (c :: '\'' :: s) =
      if c = '\\' then literalLength ⟨'\'', false, true⟩ s + 2 else if c = '\n' then 0 else 2 := by
  have hquote : literalLength ⟨'\'', false, true⟩ ('\'' :: s) = 1 := by
    rw [literalLength.eq_def]
    rfl
  rw [literalLength]
  simp [hc, hquote]

/-- What opens a literal opens it in front of another text too, unless a newline between two quotes did. -/
theorem OpensLiteral.replace (h : l.OpensLiteral (q.delimiter :: (body ++ rest)) q)
    (hlength : literalLength q (body ++ rest) = body.length)
    (hquoted : body = [] → ∀ s, rest = '\n' :: '\'' :: s → ∃ s', rest' = '\n' :: '\'' :: s') :
    l.OpensLiteral (q.delimiter :: (body ++ rest')) q := by
  generalize hs : q.delimiter :: (body ++ rest) = s at h
  cases h with
  | double h => exact .double h
  | single h => exact .single h
  | raw h => exact .raw h
  | template h => exact .template h
  | @escapedChar s h =>
    obtain ⟨-, hs⟩ := List.cons_eq_cons.mp hs
    cases body with
    | nil =>
      obtain rfl : rest = _ := hs
      cases s <;> simp [literalLength] at hlength
    | cons b body =>
      obtain ⟨rfl, -⟩ := List.cons_eq_cons.mp hs
      exact .escapedChar h
  | @char c s h hc =>
    obtain ⟨-, hs⟩ := List.cons_eq_cons.mp hs
    rcases body with _ | ⟨b, _ | ⟨b', body⟩⟩
    · -- An empty body ends in front of a newline, which may stand between two quotes.
      obtain rfl : rest = _ := hs
      rw [List.nil_append, literalLength_char hc, List.length_nil] at hlength
      split_ifs at hlength with hback hnewline
      obtain ⟨s', rfl⟩ := hquoted rfl s (by rw [hnewline])
      exact .char h (by decide)
    · obtain ⟨rfl, htail⟩ := List.cons_eq_cons.mp hs
      obtain rfl : rest = _ := htail
      rw [List.singleton_append, literalLength_char hc, List.length_singleton] at hlength
      split_ifs at hlength <;> omega
    · obtain ⟨rfl, htail⟩ := List.cons_eq_cons.mp hs
      obtain ⟨rfl, -⟩ := List.cons_eq_cons.mp htail
      exact .char h hc

/-- A token is read again in front of a text that can stand in place of the one behind it, if a literal does
not become a triple quote there and code opens nothing. -/
theorem TokenRule.replace (h : l.TokenRule kind text rest) (hr : Replaces rest rest')
    (htriple : kind = .literal false → l.OpensTriple (text ++ rest') → l.OpensTriple (text ++ rest))
    (hcode : ∀ c, kind = .code c → OpensNoMore l (c :: rest') (c :: rest)) :
    l.TokenRule kind text rest' := by
  refine h.reread hr.ended ?_ ?_ htriple hcode
  · intro hnewline c hc
    rw [hr.line hnewline] at hc
    exact (Option.mem_some_iff.mp hc).symm
  · rintro q body rfl hlength hopens
    exact hopens.replace hlength fun _ => hr.quoted

/-- A token of more than one character is read as it was when nothing follows it. -/
theorem TokenRule.alone (h : l.TokenRule kind (c :: s) rest) (hs : s ≠ []) :
    l.TokenRule kind (c :: s) [] := by
  refine h.reread (fun _ => rfl) (by simp) ?_ ?_ ?_
  · rintro q body hbody hlength hopens
    rw [hbody] at hopens ⊢
    refine hopens.replace hlength ?_
    rintro rfl
    exact absurd (List.cons_eq_cons.mp hbody).2 hs
  · rintro - ⟨htriple, delimiter, hd, hp⟩
    rw [List.append_nil] at hp
    exact ⟨htriple, delimiter, hd, hp.trans (List.prefix_append _ _)⟩
  · rintro a rfl
    cases h
    exact absurd rfl hs

/-- The first tokens of a text are read again in front of a text that can stand in place of the rest, if
nothing opens there that did not before. -/
theorem tokensFrom_replace (hl : l.Unambiguous) {start : Nat} {p r : List Token}
    (h : l.tokensFrom start s = p ++ r) (hr : ∀ w, Replaces (w ++ spelled r) (w ++ rest))
    (hopens : ∀ w ≠ [], OpensNoMore l (w ++ rest) (w ++ spelled r)) :
    l.tokensFrom start (spelled p ++ rest) =
      p ++ l.tokensFrom (start + Text.byteSize (spelled p)) rest := by
  apply tokensFrom_append hl
  rintro a t b rfl
  rw [List.append_assoc, List.cons_append] at h
  have hne : t.text ≠ [] := text_ne_nil (h ▸ List.mem_append_right a List.mem_cons_self)
  have hrule := tokenRule_of_tokensFrom hl h
  rw [spelled_append] at hrule
  refine ⟨tokensFrom_start h, hne, hrule.replace (hr _) ?_ ?_⟩
  · intro _ htriple
    rw [← List.append_assoc] at htriple ⊢
    exact (hopens _ (List.append_ne_nil_of_left_ne_nil hne _)).triple htriple
  · intro c _
    exact hopens (c :: spelled b) (List.cons_ne_nil _ _)

end CodeDigest.Lexicon
