import CodeDigest.Proofs.Endings
import CodeDigest.Proofs.Pieces
import CodeDigest.Rendering.Style
import Mathlib.Data.List.DropRight

/-! Reading a pack back from its Markdown: the fence of a file is longer than any row of backticks in its
content, so no line of the content ends the block that the content stands in. -/
namespace CodeDigest.Rendering
variable {c : Char} {s : Text} {n : Nat} {f : PackedFile} {p q : Pack}

/-! The longest run. -/

/-- The run that a scan is in grows by the characters next to it, and the longest run is at least as long. -/
theorem longestRun_go_fst (c : Char) (current : Nat) (s : Text) :
    (longestRun.go c current s).1 = current + (s.takeWhile (· = c)).length ∧
      (longestRun.go c current s).1 ≤ (longestRun.go c current s).2 := by
  induction s generalizing current with
  | nil => simp [longestRun.go]
  | cons d s ih =>
    rw [longestRun.go]
    by_cases hd : d = c
    · obtain ⟨hrun, hle⟩ := ih (current + 1)
      rw [if_pos hd]
      refine ⟨?_, hle⟩
      rw [hrun, List.takeWhile_cons_of_pos (by simpa using hd), List.length_cons]
      omega
    · rw [if_neg hd]
      refine ⟨?_, Nat.le_max_left _ _⟩
      rw [List.takeWhile_cons_of_neg (by simpa using hd)]
      rfl

theorem length_le_of_replicate_prefix (h : List.replicate n c <+: s) :
    n ≤ (s.takeWhile (· = c)).length := by
  obtain ⟨r, rfl⟩ := h
  rw [List.takeWhile_append_of_pos (by simp), List.length_append, List.length_replicate]
  exact Nat.le_add_right _ _

theorem le_longestRun_go (current : Nat) (h : List.replicate n c <:+: s) :
    n ≤ (longestRun.go c current s).2 := by
  induction s generalizing current with
  | nil =>
    have hn := h.length_le
    rw [List.length_replicate, List.length_nil] at hn
    omega
  | cons d s ih =>
    rcases List.infix_cons_iff.mp h with hrun | htail
    · obtain ⟨hfst, hle⟩ := longestRun_go_fst c current (d :: s)
      have := length_le_of_replicate_prefix hrun
      omega
    · rw [longestRun.go]
      by_cases hd : d = c
      · rw [if_pos hd]
        exact ih _ htail
      · rw [if_neg hd]
        exact Nat.le_trans (ih 0 htail) (Nat.le_max_right _ _)

/-- No run of a character in a text is longer than the longest. -/
theorem le_longestRun (h : List.replicate n c <:+: s) : n ≤ longestRun c s := le_longestRun_go 0 h

/-! The lines of a document. -/

theorem body_isPrefix (content : Text) : body content <+: content :=
  List.rdropWhile_prefix (· = '\n') content

theorem mem_splitOn_isInfix {sep : Char} {line : Text} (h : line ∈ Text.splitOn sep s) : line <:+: s := by
  obtain ⟨row, hrow⟩ := List.mem_iff_getElem?.mp h
  obtain ⟨before, after, hp⟩ := Text.getElem?_splitOn_eq_some_iff.mp hrow
  exact ⟨before, after, hp.text_eq.symm⟩

/-- No line of a content is its fence. -/
theorem fence_notMem_splitOn (content : Text) : fence content ∉ Text.splitOn '\n' (body content) := by
  intro h
  have hrun := le_longestRun ((mem_splitOn_isInfix h).trans (body_isPrefix content).isInfix)
  omega

theorem newline_notMem_fence (content : Text) : '\n' ∉ fence content := by
  intro h
  have hc : '\n' = '\x60' := List.eq_of_mem_replicate h
  exact absurd hc (by decide)

theorem newline_notMem_ofNat (n : Nat) : '\n' ∉ Text.ofNat n := by
  intro h
  rw [Text.ofNat, Nat.toList_repr] at h
  exact absurd (Nat.isDigit_of_mem_toDigits (by decide) (by decide) h) (by decide)

theorem newline_notMem_headline (t : Tally) : '\n' ∉ headline t := by
  have h1 : '\n' ∉ "This file is a packed representation of ".toList := by decide +kernel
  have h2 : '\n' ∉ " files.".toList := by decide +kernel
  have h3 : '\n' ∉ " files were reduced to their declarations, comments and imports.".toList := by decide +kernel
  unfold headline
  simp only [List.mem_append, not_or]
  refine ⟨⟨⟨h1, newline_notMem_ofNat _⟩, h2⟩, ?_⟩
  split
  · simp only [List.mem_append, not_or]
    exact ⟨⟨by decide, newline_notMem_ofNat _⟩, h3⟩
  · exact List.not_mem_nil

def heading : Text := "## File: ".toList

/-- The lines that show a file, the empty one before its heading included. -/
def markdownLines (f : PackedFile) : List Text :=
  [[], heading ++ displayPath f.path, fence f.content ++ hint f] ++ Text.splitOn '\n' (body f.content)
    ++ [fence f.content]

theorem markdownFile_eq (f : PackedFile) : markdownFile f = (markdownLines f).flatMap (· ++ ['\n']) := by
  have hbody : (Text.splitOn '\n' (body f.content)).flatMap (· ++ ['\n']) = body f.content ++ ['\n'] := by
    obtain ⟨init, last, hsplit, heq⟩ := Text.exists_splitOn_eq_snoc (body f.content)
    rw [hsplit, heq]
    simp
  have hlead : "\n## File: ".toList = ['\n'] ++ heading := rfl
  unfold markdownFile markdownLines
  rw [List.flatMap_append, List.flatMap_append, hbody, hlead]
  simp only [List.flatMap_cons, List.flatMap_nil, List.append_assoc, List.nil_append, List.append_nil]

/-! The reader. -/

structure Section where
  path : Text
  hint : Text
  content : Text
deriving Repr, DecidableEq

def isBacktick (c : Char) : Bool := c = '\x60'

def isInside (fence line : Text) : Bool := line ≠ fence

/-- Reads the files off the lines of a document. A heading names a file, the row of backticks that opens the
next line is its fence, and its content are the lines up to the first one that is this fence. -/
def readSections : List Text → List Section
  | line :: opening :: lines =>
    match Text.strip? heading line with
    | none => readSections (opening :: lines)
    | some path =>
      let fence := opening.takeWhile isBacktick
      ⟨path, opening.dropWhile isBacktick, Text.unlines (lines.takeWhile (isInside fence))⟩
        :: readSections (lines.dropWhile (isInside fence)).tail
  | _ => []
  termination_by lines => lines.length
  decreasing_by
    · simp
    · have htail := (List.tail_suffix (lines.dropWhile (isInside (opening.takeWhile isBacktick)))).length_le
      have hdrop := (List.dropWhile_suffix (l := lines) (isInside (opening.takeWhile isBacktick))).length_le
      simp only [List.length_cons]
      omega

def readMarkdown (document : Text) : List Section := readSections (Text.splitOn '\n' document)

def sectionOf (f : PackedFile) : Section := ⟨displayPath f.path, hint f, body f.content⟩

/-- The path and the word behind the fence keep to their lines, and that word does not continue the fence. -/
structure KeepsToLines (f : PackedFile) : Prop where
  path : '\n' ∉ displayPath f.path
  hint : '\n' ∉ hint f
  fence : '\x60' ∉ Rendering.hint f

theorem readSections_skip {line : Text} (h : Text.strip? heading line = none) (lines : List Text) :
    readSections (line :: lines) = readSections lines := by
  cases lines with
  | nil => simp [readSections]
  | cons opening lines => rw [readSections, h]

theorem readSections_heading (path opening : Text) (lines : List Text) :
    readSections ((heading ++ path) :: opening :: lines) =
      ⟨path, opening.dropWhile isBacktick,
        Text.unlines (lines.takeWhile (isInside (opening.takeWhile isBacktick)))⟩
      :: readSections (lines.dropWhile (isInside (opening.takeWhile isBacktick))).tail := by
  have h : Text.strip? heading (heading ++ path) = some path := Text.strip?_eq_some_iff.mpr rfl
  rw [readSections, h]

/-- The fence ends where the word behind it begins. -/
theorem fence_hint (h : KeepsToLines f) :
    (fence f.content ++ hint f).takeWhile isBacktick = fence f.content ∧
      (fence f.content ++ hint f).dropWhile isBacktick = hint f := by
  have hfence : ∀ c ∈ fence f.content, isBacktick c = true := by
    intro c hc
    exact decide_eq_true (List.eq_of_mem_replicate hc)
  apply Text.takeWhile_append_stop hfence
  intro c hc
  apply decide_eq_false
  rintro rfl
  exact h.fence (List.mem_of_mem_head? hc)

/-- The lines of a file are read as that file, and the reader goes on behind its closing fence. -/
theorem readSections_markdownLines (h : KeepsToLines f) (rest : List Text) :
    readSections (markdownLines f ++ rest) = sectionOf f :: readSections rest := by
  have hlines : ∀ line ∈ Text.splitOn '\n' (body f.content), isInside (fence f.content) line = true := by
    intro line hline
    apply decide_eq_true
    rintro rfl
    exact fence_notMem_splitOn f.content hline
  obtain ⟨htake, hdrop⟩ := @Text.takeWhile_append_stop _ _ _ (fence f.content :: rest) hlines (by simp [isInside])
  obtain ⟨hfence, hhint⟩ := fence_hint h
  rw [markdownLines, List.append_assoc, List.append_assoc, List.cons_append, readSections_skip (by rfl),
    List.cons_append, List.cons_append, List.nil_append, readSections_heading, hfence, hhint,
    List.singleton_append, htake, hdrop, Text.unlines, Text.joinWith_splitOn]
  rfl

theorem readSections_files {files : List PackedFile} (h : ∀ f ∈ files, KeepsToLines f) :
    readSections (files.flatMap markdownLines ++ [[]]) = files.map sectionOf := by
  induction files with
  | nil => simp [readSections]
  | cons f files ih =>
    rw [List.flatMap_cons, List.append_assoc, readSections_markdownLines (h f List.mem_cons_self),
      ih fun g hg => h g (List.mem_cons_of_mem f hg), List.map_cons]

theorem newline_notMem_markdownLines (h : KeepsToLines f) : ∀ line ∈ markdownLines f, '\n' ∉ line := by
  have hheading : '\n' ∉ heading := by decide
  intro line hline
  simp only [markdownLines, List.mem_append, List.mem_cons, List.not_mem_nil, or_false] at hline
  rcases hline with ((rfl | rfl | rfl) | hline) | rfl
  · exact List.not_mem_nil
  · rw [List.mem_append, not_or]
    exact ⟨hheading, h.path⟩
  · rw [List.mem_append, not_or]
    exact ⟨newline_notMem_fence _, h.hint⟩
  · exact Text.notMem_of_mem_splitOn hline
  · exact newline_notMem_fence _

/-- The lines of a document: its title, its headline and the lines of its files. -/
theorem splitOn_markdown (h : ∀ f ∈ p.files, KeepsToLines f) :
    Text.splitOn '\n' (markdown p) =
      ["# Packed repository".toList, [], headline p.tally] ++ p.files.flatMap markdownLines ++ [[]] := by
  have hfiles : p.files.flatMap markdownFile = (p.files.flatMap markdownLines).flatMap (· ++ ['\n']) := by
    rw [List.flatMap_assoc]
    exact List.flatMap_congr fun f _ => markdownFile_eq f
  have hlines : ∀ line ∈ ["# Packed repository".toList, [], headline p.tally]
      ++ p.files.flatMap markdownLines, '\n' ∉ line := by
    intro line hline
    rw [List.mem_append, List.mem_flatMap] at hline
    rcases hline with hline | ⟨f, hf, hline⟩
    · simp only [List.mem_cons, List.not_mem_nil, or_false] at hline
      rcases hline with rfl | rfl | rfl
      · decide +kernel
      · exact List.not_mem_nil
      · exact newline_notMem_headline _
    · exact newline_notMem_markdownLines (h f hf) line hline
  have hsplit := Text.splitOn_unlines_append hlines []
  rw [Text.unlines_snoc] at hsplit
  refine Eq.trans ?_ hsplit
  unfold markdown
  rw [hfiles, List.flatMap_append]
  simp

theorem readMarkdown_markdown (h : ∀ f ∈ p.files, KeepsToLines f) :
    readMarkdown (markdown p) = p.files.map sectionOf := by
  have htitle : Text.strip? heading "# Packed repository".toList = none := by decide +kernel
  have hheadline : Text.strip? heading (headline p.tally) = none := rfl
  rw [readMarkdown, splitOn_markdown h, List.append_assoc, List.cons_append, readSections_skip htitle,
    List.cons_append, readSections_skip rfl, List.cons_append, readSections_skip hheadline,
    List.nil_append, readSections_files h]

/-- A pack can be read back from its Markdown, whatever headings, fences or empty lines its contents hold, so
two packs that differ in what is shown of their files have different documents. -/
theorem markdown_reads_back (h : ∀ f ∈ p.files, KeepsToLines f) :
    readMarkdown (p.render .markdown) = p.files.map sectionOf ∧
      ∀ q : Pack, (∀ f ∈ q.files, KeepsToLines f) → q.files.map sectionOf ≠ p.files.map sectionOf →
        q.render .markdown ≠ p.render .markdown := by
  refine ⟨readMarkdown_markdown h, ?_⟩
  intro q hq hne heq
  apply hne
  rw [← readMarkdown_markdown hq, ← readMarkdown_markdown h]
  exact congrArg readMarkdown heq

/-- Notes that hold a heading and fences of their own, in front of an empty file. -/
theorem fenced_notes_read_back :
    let notes : PackedFile :=
      ⟨"doc\\notes.MD".toList, "```\nmake\n```\n\n## File: b.go\n````\n\n".toList, 38, .unsupported, none⟩
    let empty : PackedFile := ⟨"b.go".toList, [], 0, .untouched, some "go".toList⟩
    let p : Pack := ⟨[notes, empty]⟩
    let q : Pack := ⟨[empty]⟩
    (∀ f ∈ p.files, KeepsToLines f) ∧ (∀ f ∈ q.files, KeepsToLines f) ∧
      readMarkdown (p.render .markdown) =
        [⟨"doc/notes.MD".toList, "md".toList, "```\nmake\n```\n\n## File: b.go\n````".toList⟩,
          ⟨"b.go".toList, "go".toList, []⟩] ∧
      q.render .markdown ≠ p.render .markdown := by
  intro notes empty p q
  have hnotes : KeepsToLines notes := ⟨by decide +kernel, by decide +kernel, by decide +kernel⟩
  have hempty : KeepsToLines empty := ⟨by decide +kernel, by decide +kernel, by decide +kernel⟩
  have hp : ∀ f ∈ p.files, KeepsToLines f := by
    intro f hf
    rcases List.mem_pair.mp hf with rfl | rfl
    · exact hnotes
    · exact hempty
  have hq : ∀ f ∈ q.files, KeepsToLines f := by
    intro f hf
    obtain rfl := List.mem_singleton.mp hf
    exact hempty
  obtain ⟨hread, hdiffer⟩ := markdown_reads_back hp
  have hsections : p.files.map sectionOf =
      [⟨"doc/notes.MD".toList, "md".toList, "```\nmake\n```\n\n## File: b.go\n````".toList⟩,
        ⟨"b.go".toList, "go".toList, []⟩] := by decide +kernel
  exact ⟨hp, hq, hread.trans hsections, hdiffer q hq (by decide +kernel)⟩

end CodeDigest.Rendering
