import CodeDigest.Proofs.Rows

/-! The lines of a text without white space at its ends, and the rows of a source that hold it. -/
namespace CodeDigest

namespace Text
variable {t k k' : Text}

theorem unlines_append_cons (k p : Text) (ps : List Text) :
    unlines ((k ++ p) :: ps) = k ++ unlines (p :: ps) := by
  cases ps <;> simp [unlines, joinWith]

/-- Consecutive lines of a text are a part of the text. -/
theorem unlines_isInfix {ls ms : List Text} (hne : ms ≠ []) (h : ms <:+: ls) :
    unlines ms <:+: unlines ls := by
  obtain ⟨ps, qs, rfl⟩ := h
  obtain ⟨init, m, rfl⟩ := (List.eq_nil_or_concat ms).resolve_left hne
  rw [List.concat_eq_append, unlines_snoc]
  obtain rfl | ⟨qs, q, rfl⟩ := List.eq_nil_or_concat qs
  · have he : ps ++ (init ++ [m]) ++ [] = (ps ++ init) ++ [m] := by simp
    rw [he, unlines_snoc, List.flatMap_append, List.append_assoc]
    exact (List.suffix_append _ _).isInfix
  · have he : ps ++ (init ++ [m]) ++ qs.concat q = (ps ++ init ++ [m] ++ qs) ++ [q] := by simp
    refine ⟨ps.flatMap (· ++ ['\n']), '\n' :: (qs.flatMap (· ++ ['\n']) ++ q), ?_⟩
    rw [he, unlines_snoc]
    simp

theorem chopReturn_eq_self {s : Text} (h : trimEnd s = s) : chopReturn s = s := by
  rw [trimEnd_eq_self_iff] at h
  unfold chopReturn
  split
  · next hr => cases h _ hr
  · rfl

theorem exists_chopReturn_append {s : Text} (h : trimEnd s = s) (b : Text) :
    ∃ v, chopReturn (s ++ b) = s ++ v := by
  by_cases hb : b = []
  · refine ⟨[], ?_⟩
    rw [hb, List.append_nil, chopReturn_eq_self h]
  · exact ⟨chopReturn b, chopReturn_append hb s⟩

theorem lines_of_splitOn {last : Text} {init : List Text} (h : splitOn '\n' t = init ++ [last])
    (hne : last ≠ []) : lines t = init.map chopReturn ++ [last] := by
  rw [lines, h]
  clear h
  induction init with
  | nil => exact if_neg hne
  | cons l init ih =>
    cases init with
    | nil => exact congrArg (chopReturn l :: ·) ih
    | cons l' init => exact congrArg (chopReturn l :: ·) ih

theorem trimEnd_singleton {x : Char} (hx : CharClass.isBlank x = false) : trimEnd [x] = [x] := by
  rw [trimEnd_eq_self_iff]
  rintro y ⟨⟩
  exact hx

/-- The pieces between the newlines of a text without white space at its ends: the first and the last
of them have none there either. -/
theorem exists_pieces_of_trim_eq_self (hne : t ≠ []) (ht : trim t = t) :
    ∃ init last, splitOn '\n' t = init ++ [last] ∧ last ≠ [] ∧ trimEnd last = last ∧
      ∃ x l rest, CharClass.isBlank x = false ∧ init ++ [last] = (x :: l) :: rest := by
  obtain ⟨hstart, hend⟩ := trim_eq_self_iff.mp ht
  rw [trimStart_eq_self_iff] at hstart
  rw [trimEnd_eq_self_iff] at hend
  obtain ⟨init, last, hsplit, htext⟩ := exists_splitOn_eq_snoc t
  refine ⟨init, last, hsplit, ?_, ?_, ?_⟩
  · rintro rfl
    obtain rfl | ⟨init, l, rfl⟩ := List.eq_nil_or_concat init
    · exact hne htext
    · exact absurd (hend '\n' (by simp [htext])) (by decide)
  · rw [trimEnd_eq_self_iff]
    intro x hx
    apply hend
    rw [htext, List.getLast?_append, hx, Option.some_or]
  · cases t with
    | nil => exact absurd rfl hne
    | cons x t =>
      have hx := hstart x rfl
      have hn : x ≠ '\n' := by
        rintro rfl
        exact absurd hx (by decide)
      rw [← hsplit, splitOn, if_neg hn]
      cases splitOn '\n' t with
      | nil => exact ⟨x, [], [], hx, rfl⟩
      | cons p ps => exact ⟨x, p, ps, hx, rfl⟩

/-- The lines of such a text make a text without white space at its ends. -/
theorem trim_unlines_lines (ht : trim t = t) : trim (unlines (lines t)) = unlines (lines t) := by
  by_cases hne : t = []
  · rw [hne]
    rfl
  obtain ⟨init, last, hsplit, hlast, hend, x, l, rest, hx, hfirst⟩ :=
    exists_pieces_of_trim_eq_self hne ht
  rw [lines_of_splitOn hsplit hlast, unlines_snoc, trim_eq_self_iff, trimStart_eq_self_iff,
    trimEnd_eq_self_iff]
  constructor
  · intro y hy
    cases init with
    | nil =>
      cases hfirst
      cases hy
      exact hx
    | cons p init =>
      cases hfirst
      obtain ⟨l', hl'⟩ : ∃ l', chopReturn (x :: l) = x :: l' :=
        exists_chopReturn_append (trimEnd_singleton hx) l
      simp only [List.map_cons, List.flatMap_cons, hl', List.cons_append, List.head?_cons] at hy
      cases hy
      exact hx
  · intro y hy
    rw [List.getLast?_append, List.getLast?_eq_some_getLast hlast, Option.some_or] at hy
    rw [trimEnd_eq_self_iff] at hend
    exact hend y ((List.getLast?_eq_some_getLast hlast).trans hy)

/-- What stands behind a text without a newline is a part of its last piece. -/
theorem splitOn_append_of_notMem_right {init : List Text} {last : Text}
    (hs : splitOn '\n' t = init ++ [last]) (hk' : '\n' ∉ k') :
    splitOn '\n' (t ++ k') = init ++ [last ++ k'] := by
  have hnl : ∀ p ∈ init ++ [last], '\n' ∉ p := by
    intro p hp
    rw [← hs] at hp
    exact notMem_of_mem_splitOn hp
  have htext : t ++ k' = unlines (init ++ [last ++ k']) := by
    rw [unlines_snoc, ← List.append_assoc, ← unlines_snoc, ← hs]
    exact congrArg (· ++ k') (joinWith_splitOn '\n' t).symm
  have hlast : '\n' ∉ last ++ k' := by simp [hnl last, hk']
  rw [htext, splitOn_unlines_append fun p hp => hnl p (List.mem_append_left _ hp),
    splitOn_of_notMem hlast]

/-- The lines of such a text stand in the rows that hold the text. -/
theorem unlines_lines_isInfix_rows (hne : t ≠ []) (ht : trim t = t) (hk : '\n' ∉ k)
    (hk' : '\n' ∉ k') :
    unlines (lines t) <:+: unlines ((splitOn '\n' (k ++ (t ++ k'))).map chopReturn) := by
  obtain ⟨init, last, hsplit, hlast, hend, x, l, rest, -, hfirst⟩ :=
    exists_pieces_of_trim_eq_self hne ht
  obtain ⟨v, hv⟩ := exists_chopReturn_append hend k'
  -- The first piece of `t` is the last one too when `t` is on one row, and then `k'` is behind it.
  obtain ⟨p, ps, hp, hpne⟩ : ∃ p ps, init ++ [last ++ k'] = p :: ps ∧ p ≠ [] := by
    cases init with
    | nil => exact ⟨_, [], rfl, by simp [hlast]⟩
    | cons p init =>
      cases hfirst
      exact ⟨_, _, rfl, List.cons_ne_nil x l⟩
  have hpieces : splitOn '\n' (t ++ k') = p :: ps :=
    (splitOn_append_of_notMem_right hsplit hk').trans hp
  have hrows : unlines ((splitOn '\n' (k ++ (t ++ k'))).map chopReturn) =
      k ++ (unlines (lines t) ++ v) := by
    rw [splitOn_append_of_notMem_left hk hpieces, List.map_cons, chopReturn_append hpne,
      unlines_append_cons, ← List.map_cons, ← hp, List.map_append, List.map_singleton, hv,
      lines_of_splitOn hsplit hlast, unlines_snoc, unlines_snoc, List.append_assoc _ last v]
  rw [hrows]
  exact List.infix_append' _ _ _

end Text

theorem Source.lines_ofText (content : Text) (first last : Nat) :
    (ofText content).lines first last =
      (((Text.splitOn '\n' content).map Text.chopReturn).take (last + 1)).drop first := by
  rw [lines, ofText, List.map_drop, List.map_take, map_text_rowsFrom]

private theorem isInfix_drop_take {ps xs : List Text} {first count : Nat} (hfirst : first ≤ ps.length)
    (hcount : (ps ++ xs).length ≤ count) (qs : List Text) :
    xs <:+: ((ps ++ xs ++ qs).take count).drop first := by
  rw [List.take_append, List.take_of_length_le hcount, List.append_assoc,
    List.drop_append_of_le_length hfirst]
  exact List.infix_append' _ _ _

/-- A text without white space at its ends, somewhere in a source: its lines stand in all rows from
one at or above its first row to one at or below its last. -/
theorem Source.unlines_lines_isInfix {a t b : Text} {first last : Nat} (ht : Text.trim t = t)
    (hfirst : first ≤ a.count '\n') (hlast : (a ++ t).count '\n' ≤ last) :
    Text.unlines (Text.lines t) <:+: Text.unlines ((ofText (a ++ t ++ b)).lines first last) := by
  by_cases hne : t = []
  · rw [hne]
    exact List.nil_infix
  obtain ⟨before, k, rfl, hk, hb⟩ := Text.exists_lastPiece '\n' a
  obtain ⟨k', after, rfl, hk', ha⟩ := Text.exists_firstPiece '\n' b
  have hrows := Text.unlines_lines_isInfix_rows hne ht hk hk'
  obtain ⟨ps, qs, hs, -, hps⟩ := Text.exists_splitOn_eq_append hb ha (k ++ (t ++ k'))
  have hlen := Text.length_splitOn '\n' (k ++ (t ++ k'))
  rw [← List.count_eq_zero] at hk hk'
  simp only [List.count_append, hk, hk'] at hfirst hlast hlen
  have he : before ++ k ++ t ++ (k' ++ after) = before ++ (k ++ (t ++ k')) ++ after := by simp
  rw [he, lines_ofText, hs]
  generalize Text.splitOn '\n' (k ++ (t ++ k')) = xs at hrows hlen
  refine hrows.trans (Text.unlines_isInfix ?_ ?_)
  · intro hxs
    simp [List.map_eq_nil_iff.mp hxs] at hlen
  · rw [← List.map_take, ← List.map_drop]
    apply List.IsInfix.map
    apply isInfix_drop_take
    · omega
    · rw [List.length_append]
      omega

end CodeDigest
