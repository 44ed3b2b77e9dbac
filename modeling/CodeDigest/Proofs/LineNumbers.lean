import CodeDigest.Proofs.Lines
import Mathlib.Data.Nat.Digits.Lemmas

/-! Numbered lines: every line stands behind its number, and all numbers take the same room, so that what
stands behind them is the lines. -/
namespace CodeDigest.Text
variable {content : Text} {n width number : Nat} {c : Char}

/-! Numbers in decimal -/

/-- The digits of a number, the greatest place first. -/
def decimal (n : Nat) : Text := ((Nat.digits 10 n).map Nat.digitChar).reverse

theorem ofNat_eq_decimal (h : 0 < n) : ofNat n = decimal n := by
  rw [ofNat, Nat.toList_repr]
  induction n using Nat.strongRecOn with
  | ind n ih =>
    by_cases hn : n < 10
    · rw [Nat.toDigits_of_lt_base hn, decimal, Nat.digits_of_lt 10 n (by omega) hn]
      rfl
    · have hpos : 0 < n / 10 := by omega
      have htail : decimal n = decimal (n / 10) ++ [(n % 10).digitChar] := by
        rw [decimal, Nat.digits_def' (by decide) h, List.map_cons, List.reverse_cons, decimal]
      rw [Nat.toDigits_of_base_le (by decide) (by omega), ih (n / 10) (by omega) hpos, htail]

theorem length_decimal (n : Nat) : (decimal n).length = (Nat.digits 10 n).length := by
  rw [decimal, List.length_reverse, List.length_map]

theorem isDigit_of_mem_decimal (h : c ∈ decimal n) : c.isDigit = true := by
  rw [decimal, List.mem_reverse] at h
  obtain ⟨d, hd, rfl⟩ := List.mem_map.mp h
  rw [Nat.isDigit_digitChar]
  exact decide_eq_true (Nat.digits_lt_base (by decide) hd)

theorem byteSize_eq_length {s : Text} (h : ∀ c ∈ s, c.utf8Size = 1) : byteSize s = s.length := by
  induction s with
  | nil => rfl
  | cons c s ih =>
    rw [byteSize_cons, h c (by simp), ih fun d hd => h d (List.mem_cons_of_mem c hd), List.length_cons,
      Nat.add_comm]

theorem utf8Size_of_isDigit (h : c.isDigit = true) : c.utf8Size = 1 := by
  simp only [Char.isDigit, Bool.and_eq_true, decide_eq_true_eq] at h
  have hle : c.val ≤ 0x7f := UInt32.le_trans h.2 (by decide : (57 : UInt32) ≤ 0x7f)
  exact if_pos hle

/-! What stands before a line -/

/-- A number in front of a line, right-aligned in `width` columns. -/
def numberLead (width number : Nat) : Text :=
  List.replicate (width - (Nat.digits 10 number).length) ' ' ++ decimal number ++ [':', ' ']

theorem numberedLine_eq (h : 0 < number) (line : Text) :
    numberedLine width number line = numberLead width number ++ line := by
  rw [numberedLine, padStart, ofNat_eq_decimal h, length_decimal, numberLead]

theorem newline_notMem_numberLead (width number : Nat) : '\n' ∉ numberLead width number := by
  have hdigits : '\n' ∉ decimal number := fun h => absurd (isDigit_of_mem_decimal h) (by decide)
  have hspaces : '\n' ∉ List.replicate (width - (Nat.digits 10 number).length) ' ' := by
    intro h
    have hspace : '\n' = ' ' := List.eq_of_mem_replicate h
    exact absurd hspace (by decide)
  simp [numberLead, hdigits, hspaces]

/-- No number up to `n` has more digits than `n`, so there is room for all of them. -/
theorem byteSize_numberLead (h : number ≤ n) :
    byteSize (numberLead (Nat.digits 10 n).length number) = (Nat.digits 10 n).length + 2 := by
  have hle := Nat.le_length_digits_le 10 number n h
  have hdigits := byteSize_eq_length fun c (hc : c ∈ decimal number) =>
    utf8Size_of_isDigit (isDigit_of_mem_decimal hc)
  have hspaces : byteSize (List.replicate ((Nat.digits 10 n).length - (Nat.digits 10 number).length) ' ') =
      (Nat.digits 10 n).length - (Nat.digits 10 number).length := by
    rw [byteSize_eq_length, List.length_replicate]
    intro c hc
    rw [List.eq_of_mem_replicate hc]
    decide
  have hcolon : byteSize [':', ' '] = 2 := by decide
  rw [numberLead, byteSize_append, byteSize_append, hspaces, hdigits, length_decimal, hcolon]
  omega

/-! The lines of a text -/

theorem exists_of_mem_endLines {ps : List Text} {line : Text} (h : line ∈ endLines ps) :
    ∃ p ∈ ps, line <+: p := by
  fun_induction endLines ps with
  | case1 => cases h
  | case2 => cases h
  | case3 last hne =>
    rw [List.mem_singleton.mp h]
    exact ⟨last, by simp, List.prefix_rfl⟩
  | case4 p next rest ih =>
    obtain rfl | h := List.mem_cons.mp h
    · exact ⟨p, by simp, chopReturn_isPrefix p⟩
    · obtain ⟨q, hq, hline⟩ := ih h
      exact ⟨q, List.mem_cons_of_mem p hq, hline⟩

theorem newline_notMem_of_mem_lines {s line : Text} (h : line ∈ lines s) : '\n' ∉ line := by
  obtain ⟨p, hp, hline⟩ := exists_of_mem_endLines h
  exact fun hmem => notMem_of_mem_splitOn hp (hline.subset hmem)

/-- Lines that are not blank, put together and read again, are still not blank: the last of them is not empty,
and the others lose a carriage return at most. -/
theorem isBlank_of_mem_lines_dropBlankLines {s line : Text} (h : line ∈ lines (dropBlankLines s)) :
    isBlank line = false := by
  have hkept : ∀ l ∈ (lines s).filter (!isBlank ·), '\n' ∉ l ∧ isBlank l = false := by
    intro l hl
    obtain ⟨hl, hblank⟩ := List.mem_filter.mp hl
    exact ⟨newline_notMem_of_mem_lines hl, by simpa using hblank⟩
  rw [dropBlankLines] at h
  generalize (lines s).filter (!isBlank ·) = kept at h hkept
  obtain rfl | ⟨init, last, rfl⟩ := List.eq_nil_or_concat kept
  · cases h
  · rw [List.concat_eq_append] at h hkept
    have hlast : last ≠ [] := by
      rintro rfl
      exact absurd (hkept [] (by simp)).2 (by decide)
    have hsplit := splitOn_unlines (by simp) fun l hl => (hkept l hl).1
    rw [lines_of_splitOn hsplit hlast] at h
    obtain h | h := List.mem_append.mp h
    · obtain ⟨l, hl, rfl⟩ := List.mem_map.mp h
      rw [isBlank_chopReturn]
      exact (hkept l (List.mem_append_left _ hl)).2
    · obtain rfl := List.mem_singleton.mp h
      exact (hkept line (by simp)).2

/-- Neither a number nor a line holds a newline, so there are as many entries between newlines as lines. -/
theorem splitOn_numberLines (h : lines content ≠ []) :
    splitOn '\n' (numberLines content) = (lines content).mapIdx fun i line =>
      numberLead (Nat.digits 10 (lines content).length).length (i + 1) ++ line := by
  have hwidth : (ofNat (lines content).length).length = (Nat.digits 10 (lines content).length).length := by
    rw [ofNat_eq_decimal (List.length_pos_iff.mpr h), length_decimal]
  simp only [numberLines, hwidth, numberedLine_eq (Nat.succ_pos _)]
  apply splitOn_unlines
  · rwa [Ne, List.mapIdx_eq_nil_iff]
  · intro entry hentry
    obtain ⟨i, hi, rfl⟩ := List.mem_mapIdx.mp hentry
    rw [List.mem_append, not_or]
    exact ⟨newline_notMem_numberLead _ _, newline_notMem_of_mem_lines (List.getElem_mem hi)⟩

/-- Numbering loses nothing of a text that has a line. Between newlines stand as many entries as there are
lines. Each is its line, unchanged, behind the line's number in decimal, counted from one and aligned to the
digits of the last number, a colon and a space. All that stands before the lines has the same size, and
without it the entries are the lines. Once the blank lines of a text were dropped, no numbered line is
blank. -/
theorem numberLines_lossless (h : lines content ≠ []) :
    let ls := lines content
    let width := (Nat.digits 10 ls.length).length
    let entries := splitOn '\n' (numberLines content)
    entries.length = ls.length ∧
      (∀ i line, ls[i]? = some line → entries[i]? = some (numberLead width (i + 1) ++ line)) ∧
      (∀ i < ls.length, byteSize (numberLead width (i + 1)) = width + 2) ∧
      entries.map (dropBytes? · (width + 2)) = ls.map some ∧
      ∀ s, content = dropBlankLines s → ∀ line ∈ ls, isBlank line = false := by
  intro ls width entries
  have hentries : entries = ls.mapIdx fun i line => numberLead width (i + 1) ++ line :=
    splitOn_numberLines h
  have hlead : ∀ i < ls.length, byteSize (numberLead width (i + 1)) = width + 2 :=
    fun i hi => byteSize_numberLead hi
  refine ⟨?_, ?_, hlead, ?_, ?_⟩
  · rw [hentries, List.length_mapIdx]
  · intro i line hline
    rw [hentries, List.getElem?_mapIdx, hline, Option.map_some]
  · rw [hentries]
    apply List.ext_getElem
    · simp
    · intro i hi _
      have hi : i < ls.length := by simpa using hi
      simp only [List.getElem_map, List.getElem_mapIdx]
      exact dropBytes?_eq_some_iff.mpr ⟨_, rfl, hlead i hi⟩
  · rintro s rfl line hline
    exact isBlank_of_mem_lines_dropBlankLines hline

/-- Ten lines, the first of which ends with a carriage return and a newline, and the last with nothing but a
carriage return, which it keeps. A blank line between them was dropped. -/
theorem tenLines_numberLines_lossless :
    let content := dropBlankLines "a\r\r\n \t\nb\nc\nd\ne\nf\ng\nh\ni\nj\r".toList
    let entries := splitOn '\n' (numberLines content)
    lines content ≠ [] ∧ entries.length = 10 ∧ entries[0]? = some " 1: a".toList ∧
      entries[9]? = some "10: j\r".toList ∧ byteSize (numberLead 2 1) = 4 ∧
      entries.map (dropBytes? · 4) = (lines content).map some ∧
      ∀ line ∈ lines content, isBlank line = false := by
  intro content entries
  have hlines : lines content =
      [['a'], ['b'], ['c'], ['d'], ['e'], ['f'], ['g'], ['h'], ['i'], ['j', '\r']] := by decide +kernel
  have hne : lines content ≠ [] := by simp [hlines]
  have hwidth : (Nat.digits 10 (lines content).length).length = 2 := by simp [hlines]
  obtain ⟨hlength, hentry, hlead, hdrop, hblank⟩ := numberLines_lossless hne
  rw [hwidth] at hentry hlead hdrop
  have hfirst : entries[0]? = some (numberLead 2 1 ++ ['a']) := hentry 0 ['a'] (by rw [hlines]; rfl)
  have hlast : entries[9]? = some (numberLead 2 10 ++ ['j', '\r']) :=
    hentry 9 ['j', '\r'] (by rw [hlines]; rfl)
  refine ⟨hne, ?_, ?_, ?_, hlead 0 (by simp [hlines]), hdrop, hblank _ rfl⟩
  · rw [hlength, hlines]
    rfl
  · rw [hfirst]
    simp [numberLead, decimal]
  · rw [hlast]
    simp [numberLead, decimal]

end CodeDigest.Text
