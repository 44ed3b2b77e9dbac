import CodeDigest.Proofs.Rows

/-! Texts whose lines stand on consecutive rows of a source, each a part of its row. -/
namespace CodeDigest.Text

/-- Each of some lines is a part of a row of the text, the first of them of `row`, and so on. -/
def OnRows (content : Text) (row : Nat) (ls : List Text) : Prop :=
  ∀ i line, ls[i]? = some line →
    ∃ raw, (splitOn '\n' content)[row + i]? = some raw ∧ line <:+: raw

variable {content : Text} {row : Nat}

theorem onRows_append {ls ms : List Text} (hl : OnRows content row ls)
    (hm : OnRows content (row + ls.length) ms) : OnRows content row (ls ++ ms) := by
  intro i line h
  by_cases hi : i < ls.length
  · rw [List.getElem?_append_left hi] at h
    exact hl i line h
  · rw [List.getElem?_append_right (by omega)] at h
    obtain ⟨raw, hr, hin⟩ := hm _ line h
    exact ⟨raw, by rw [← hr]; congr 1; omega, hin⟩

/-- Cutting something off the ends of lines leaves them on their rows. -/
theorem OnRows.map {ls : List Text} (h : OnRows content row ls) {f : Text → Text}
    (hf : ∀ l, f l <:+: l) : OnRows content row (ls.map f) := by
  intro i line hi
  rw [List.getElem?_map, Option.map_eq_some_iff] at hi
  obtain ⟨l, hl, rfl⟩ := hi
  obtain ⟨raw, hr, hin⟩ := h i l hl
  exact ⟨raw, hr, (hf l).trans hin⟩

/-- A line of a part of a text is a part of a line of the text. -/
theorem exists_line_of_part {s u m v line : Text} {i : Nat} (hs : s = u ++ m ++ v)
    (h : (splitOn '\n' m)[i]? = some line) :
    ∃ raw, (splitOn '\n' s)[u.count '\n' + i]? = some raw ∧ line <:+: raw := by
  obtain ⟨a, b, hp⟩ := getElem?_splitOn_eq_some_iff.mp h
  have he : s = (u ++ a) ++ line ++ (b ++ v) := by
    rw [hs, hp.text_eq]
    simp
  obtain ⟨_, k, k', _, -, -, hq⟩ := exists_pieceAt_of_notMem he hp.notMem
  rw [List.count_append, hp.count_eq] at hq
  exact ⟨_, hq.getElem?_eq, ⟨k, k', rfl⟩⟩

theorem onRows_of_part {a m b : Text} (h : content = a ++ m ++ b) :
    OnRows content (a.count '\n') (splitOn '\n' m) :=
  fun _ _ hi => exists_line_of_part h hi

/-- Cutting something off a text leaves its lines on their rows, unless a newline is cut off
in front. -/
theorem OnRows.of_part {s u m v : Text} (h : OnRows content row (splitOn '\n' s))
    (hs : s = u ++ m ++ v) (hu : '\n' ∉ u) : OnRows content row (splitOn '\n' m) := by
  intro i line hi
  obtain ⟨l, hl, hin⟩ := exists_line_of_part hs hi
  rw [List.count_eq_zero.mpr hu, Nat.zero_add] at hl
  obtain ⟨raw, hr, hin'⟩ := h i l hl
  exact ⟨raw, hr, hin.trans hin'⟩

/-- What is trimmed off in front holds no newline, when the text starts with a line that is not
blank. -/
private theorem notMem_of_firstLine {u rest l : Text} (hu : isBlank u)
    (hl : (splitOn '\n' (u ++ rest)).head? = some l) (hb : isBlank l = false) : '\n' ∉ u := by
  intro hmem
  obtain ⟨a, b, rfl, ha⟩ := List.eq_append_cons_of_mem hmem
  rw [List.append_assoc, List.cons_append, splitOn_append_sep, splitOn_of_notMem ha] at hl
  obtain rfl : a = l := by simpa using hl
  rw [isBlank_append, Bool.and_eq_true] at hu
  rw [hu.1] at hb
  cases hb

/-- Cutting white space off a text leaves its lines on their rows, when the first is not blank. -/
theorem OnRows.of_blank_part {s u m v l : Text} (h : OnRows content row (splitOn '\n' s))
    (hs : s = u ++ m ++ v) (hu : isBlank u) (hl : (splitOn '\n' s).head? = some l)
    (hb : isBlank l = false) : OnRows content row (splitOn '\n' m) := by
  rw [hs, List.append_assoc] at hl
  exact h.of_part hs (notMem_of_firstLine hu hl hb)

/-- What a slice leaves when it is trimmed stands on the row that the slice starts on, if the slice
starts on the row of a character that is no white space, at the character or before it. -/
theorem onRows_trim_of_isPrefix {a k b m : Text} {x : Char} (hc : content = a ++ (k ++ x :: b))
    (hk : '\n' ∉ k) (hx : CharClass.isBlank x = false) (hm : m <+: k ++ x :: b) :
    OnRows content (a.count '\n') (splitOn '\n' (Text.trim m)) := by
  obtain ⟨u, v, hs, hu, -⟩ := trim_spec m
  obtain ⟨w, hw⟩ := hm
  rw [hs, List.append_assoc, List.append_assoc] at hw
  have hnl : '\n' ∉ u := by
    obtain ⟨t, ht, -⟩ | ⟨t, ht, hxt⟩ := List.append_eq_append_iff.mp hw
    · rw [ht] at hk
      exact fun h => hk (List.mem_append_left _ h)
    · cases t with
      | nil =>
        rw [List.append_nil] at ht
        exact ht ▸ hk
      | cons y t =>
        obtain ⟨rfl, -⟩ := List.cons_eq_cons.mp hxt
        rw [ht, isBlank_append, isBlank_cons, hx] at hu
        simp at hu
  have he : content = (a ++ u) ++ Text.trim m ++ (v ++ w) := by
    rw [hc, ← hw]
    simp
  have h := onRows_of_part he
  rwa [List.count_append, List.count_eq_zero.mpr hnl] at h

theorem onRows_singleton {line raw : Text} (h : (splitOn '\n' content)[row]? = some raw)
    (hl : line <:+: raw) : OnRows content row [line] := by
  intro i l hi
  cases i with
  | zero =>
    obtain rfl : line = l := by simpa using hi
    exact ⟨raw, h, hl⟩
  | succ i => simp at hi

theorem onRows_lines (content : Text) (first last : Nat) :
    OnRows content first ((Source.ofText content).lines first last) := by
  intro i line hi
  rw [Source.getElem?_lines] at hi
  split at hi
  · rw [Source.line?_ofText, Option.map_eq_some_iff] at hi
    obtain ⟨raw, hr, rfl⟩ := hi
    exact ⟨raw, hr, (chopReturn_isPrefix raw).isInfix⟩
  · cases hi

theorem notMem_of_mem_lines {first last : Nat} {l : Text}
    (h : l ∈ (Source.ofText content).lines first last) : '\n' ∉ l := by
  obtain ⟨i, hi⟩ := List.mem_iff_getElem?.mp h
  obtain ⟨raw, hr, hin⟩ := onRows_lines content first last i l hi
  exact fun hm => notMem_of_mem_splitOn (List.mem_of_getElem? hr) (hin.subset hm)

end CodeDigest.Text
