import CodeDigest.Proofs.Pieces
import CodeDigest.Rendering.Style
import Mathlib.Data.List.TakeWhile

/-! Reading a pack back from its XML: escaped text holds no markup, so the elements of a document and their
attributes are those that its pack gives it. -/
namespace CodeDigest

/-! A reader of documents. It leaves white space as it stands, and takes nothing but elements and text. -/
namespace Xml

inductive Node where
  | text (s : Text)
  | element (name : Text) (attributes : List (Text × Text)) (children : List Node)

inductive Piece where
  | text (s : Text)
  | opening (name : Text) (attributes : List (Text × Text))
  | closing (name : Text)
deriving Repr, DecidableEq

/-- The characters that have an entity, each under its name. -/
def entities : List (Text × Char) :=
  [(['l', 't'], '<'), (['g', 't'], '>'), (['a', 'm', 'p'], '&'), (['a', 'p', 'o', 's'], '\''),
    (['q', 'u', 'o', 't'], '"')]

/-- Puts characters in the place of entities. A text in which markup stands, or an ampersand that begins no
entity, is not read. -/
def unescape (s : Text) : Option Text :=
  go none s
where
  /-- Reads on, inside an entity from the name so far, last character first. -/
  go : Option Text → Text → Option Text
    | none, [] => some []
    | some _, [] => none
    | none, c :: rest =>
      if c = '<' then none
      else if c = '&' then go (some []) rest
      else (go none rest).map (c :: ·)
    | some name, c :: rest =>
      if c = ';' then (entities.lookup name.reverse).bind fun e => (go none rest).map (e :: ·)
      else go (some (c :: name)) rest

def isNameChar (c : Char) : Bool := c.isAlphanum || c = '-' || c = '_' || c = ':' || c = '.'

def isSpace (c : Char) : Bool := c = ' ' || c = '\t' || c = '\n' || c = '\r'

def readName? (s : Text) : Option (Text × Text) :=
  if s.takeWhile isNameChar = [] then none else some (s.takeWhile isNameChar, s.dropWhile isNameChar)

def readUntil? (mark : Char) (s : Text) : Option (Text × Text) :=
  match s.dropWhile (· ≠ mark) with
  | [] => none
  | _ :: after => some (s.takeWhile (· ≠ mark), after)

def readAttribute? (s : Text) : Option ((Text × Text) × Text) :=
  match readName? s with
  | some (name, '=' :: quote :: rest) =>
    if quote = '"' || quote = '\'' then
      (readUntil? quote rest).bind fun (raw, after) =>
        (unescape raw).map fun value => ((name, value), after)
    else none
  | _ => none

theorem length_of_readName? {s name rest : Text} (h : readName? s = some (name, rest)) :
    rest.length < s.length := by
  rw [readName?] at h
  split at h
  · cases h
  · next hne =>
    cases h
    have hlength := congrArg List.length (List.takeWhile_append_dropWhile (p := isNameChar) (l := s))
    have hpos := List.length_pos_iff.mpr hne
    rw [List.length_append] at hlength
    omega

theorem length_of_readUntil? {mark : Char} {s raw after : Text}
    (h : readUntil? mark s = some (raw, after)) : after.length < s.length := by
  rw [readUntil?] at h
  split at h
  · cases h
  · next hd =>
    cases h
    have hle := (List.dropWhile_suffix (l := s) (· ≠ mark)).length_le
    rw [hd, List.length_cons] at hle
    omega

theorem length_of_readAttribute? {s after : Text} {a : Text × Text}
    (h : readAttribute? s = some (a, after)) : after.length < s.length := by
  rw [readAttribute?] at h
  split at h
  · next hname =>
    have hrest := length_of_readName? hname
    split at h
    · obtain ⟨⟨raw, after'⟩, huntil, hvalue⟩ := Option.bind_eq_some_iff.mp h
      obtain ⟨value, -, heq⟩ := Option.map_eq_some_iff.mp hvalue
      cases heq
      have := length_of_readUntil? huntil
      simp only [List.length_cons] at hrest
      omega
    · cases h
  · cases h

def readAttributes? (s : Text) : Option (List (Text × Text) × Text) :=
  if (s.dropWhile isSpace).head? = some '>' then some ([], (s.dropWhile isSpace).tail)
  else
    match _h : readAttribute? (s.dropWhile isSpace) with
    | none => none
    | some (a, after) => (readAttributes? after).map fun (more, rest) => (a :: more, rest)
  termination_by s.length
  decreasing_by
    have hspace := (List.dropWhile_suffix (l := s) isSpace).length_le
    have hafter := length_of_readAttribute? _h
    omega

theorem length_of_readAttributes? {s rest : Text} {attributes : List (Text × Text)}
    (h : readAttributes? s = some (attributes, rest)) : rest.length ≤ s.length := by
  fun_induction readAttributes? s generalizing attributes with
  | case1 s =>
    cases h
    have hspace := (List.dropWhile_suffix (l := s) isSpace).length_le
    rw [List.length_tail]
    omega
  | case2 => cases h
  | case3 s _ a after hattribute ih =>
    obtain ⟨⟨more, rest'⟩, hmore, heq⟩ := Option.map_eq_some_iff.mp h
    cases heq
    have hspace := (List.dropWhile_suffix (l := s) isSpace).length_le
    have hafter := length_of_readAttribute? hattribute
    have hrest := ih hmore
    omega

def readTag? (s : Text) : Option (Piece × Text) :=
  match s with
  | '/' :: rest =>
    match readName? rest with
    | some (name, '>' :: after) => some (.closing name, after)
    | _ => none
  | rest =>
    (readName? rest).bind fun (name, after) =>
      (readAttributes? after).map fun (attributes, after) => (.opening name attributes, after)

theorem length_of_readTag? {s after : Text} {t : Piece} (h : readTag? s = some (t, after)) :
    after.length < s.length := by
  unfold readTag? at h
  split at h
  · split at h
    · next hname =>
      cases h
      have := length_of_readName? hname
      simp only [List.length_cons] at this ⊢
      omega
    · cases h
  · obtain ⟨⟨name, rest⟩, hname, hrest⟩ := Option.bind_eq_some_iff.mp h
    obtain ⟨⟨attributes, rest'⟩, hattributes, heq⟩ := Option.map_eq_some_iff.mp hrest
    cases heq
    have h1 := length_of_readName? hname
    have h2 := length_of_readAttributes? hattributes
    omega

def pieces? (s : Text) : Option (List Piece) :=
  match s with
  | [] => some []
  | c :: rest =>
    if c = '<' then
      match _h : readTag? rest with
      | none => none
      | some (t, after) => (pieces? after).map (t :: ·)
    else
      (unescape (c :: rest.takeWhile (· ≠ '<'))).bind fun text =>
        (pieces? (rest.dropWhile (· ≠ '<'))).map (.text text :: ·)
  termination_by s.length
  decreasing_by
    · have := length_of_readTag? _h
      simp only [List.length_cons]
      omega
    · have := (List.dropWhile_suffix (l := rest) (· ≠ '<')).length_le
      simp only [List.length_cons]
      omega

/-- An element that is open, and what came before it, last node first. -/
structure Open where
  name : Text
  attributes : List (Text × Text)
  before : List Node

/-- Builds the nodes that pieces make, inside the elements that are open, the innermost
first, and behind the nodes so far, last node first. Every element is closed under its own name. -/
def build? : List Open → List Node → List Piece → Option (List Node)
  | [], here, [] => some here.reverse
  | _ :: _, _, [] => none
  | outer, here, .text s :: rest => build? outer (.text s :: here) rest
  | outer, here, .opening name attributes :: rest => build? (⟨name, attributes, here⟩ :: outer) [] rest
  | [], _, .closing _ :: _ => none
  | o :: outer, here, .closing name :: rest =>
    if name = o.name then build? outer (.element o.name o.attributes here.reverse :: o.before) rest else none

def read? (s : Text) : Option (List Node) := (pieces? s).bind (build? [] [])

/-! What is read off written names, attributes, tags and texts. -/
section
open Rendering
variable {name value rest s : Text} {c mark : Char} {attributes : List (Text × Text)}

def IsName (name : Text) : Prop := name ≠ [] ∧ ∀ c ∈ name, isNameChar c = true

instance (name : Text) : Decidable (IsName name) :=
  decidable_of_iff (name ≠ [] ∧ name.all isNameChar = true) (by rw [IsName, List.all_eq_true])

def attributeText (a : Text × Text) : Text := a.1 ++ ['=', '"'] ++ xmlEscape a.2 ++ ['"']

def attributesText (attributes : List (Text × Text)) : Text :=
  attributes.flatMap fun a => ' ' :: attributeText a

def openingText (name : Text) (attributes : List (Text × Text)) : Text :=
  ['<'] ++ name ++ attributesText attributes ++ ['>']

def closingText (name : Text) : Text := ['<', '/'] ++ name ++ ['>']

theorem go_xmlEntity (c : Char) (rest : Text) :
    unescape.go none (xmlEntity c ++ rest) = (unescape.go none rest).map (c :: ·) := by
  unfold xmlEntity
  split
  · rfl
  · rfl
  · rfl
  · rfl
  · rfl
  · next hlt _ hamp _ _ => rw [List.singleton_append, unescape.go, if_neg hlt, if_neg hamp]

theorem unescape_xmlEscape (s : Text) : unescape (xmlEscape s) = some s := by
  induction s with
  | nil => rfl
  | cons c s ih =>
    rw [unescape] at ih ⊢
    rw [xmlEscape, List.flatMap_cons, go_xmlEntity, ← xmlEscape, ih]
    rfl

/-- Escaped text holds no character that markup is made of. -/
theorem notMem_xmlEscape (s : Text) : ∀ mark ∈ ['<', '>', '\'', '"'], mark ∉ xmlEscape s := by
  intro mark hmark
  rw [xmlEscape, List.mem_flatMap, not_exists]
  rintro c ⟨-, hc⟩
  unfold xmlEntity at hc
  simp only [List.mem_cons, List.not_mem_nil, or_false] at hmark
  split at hc
  · rcases hmark with rfl | rfl | rfl | rfl <;> exact absurd hc (by decide)
  · rcases hmark with rfl | rfl | rfl | rfl <;> exact absurd hc (by decide)
  · rcases hmark with rfl | rfl | rfl | rfl <;> exact absurd hc (by decide)
  · rcases hmark with rfl | rfl | rfl | rfl <;> exact absurd hc (by decide)
  · rcases hmark with rfl | rfl | rfl | rfl <;> exact absurd hc (by decide)
  · obtain rfl := List.mem_singleton.mp hc
    simp_all

theorem readName?_append (h : IsName name) (hrest : ∀ c ∈ rest.head?, isNameChar c = false) :
    readName? (name ++ rest) = some (name, rest) := by
  obtain ⟨htake, hdrop⟩ := Text.takeWhile_append_stop h.2 hrest
  rw [readName?, htake, hdrop, if_neg h.1]

theorem readUntil?_append (h : mark ∉ s) (rest : Text) :
    readUntil? mark (s ++ mark :: rest) = some (s, rest) := by
  have hs : ∀ c ∈ s, decide (c ≠ mark) = true := by
    rintro c hc
    apply decide_eq_true
    rintro rfl
    exact h hc
  obtain ⟨htake, hdrop⟩ := @Text.takeWhile_append_stop _ _ s (mark :: rest) hs (by simp)
  rw [readUntil?, htake, hdrop]

theorem readAttribute?_append {a : Text × Text} (h : IsName a.1) (rest : Text) :
    readAttribute? (attributeText a ++ rest) = some (a, rest) := by
  have hname : readName? (a.1 ++ '=' :: '"' :: (xmlEscape a.2 ++ '"' :: rest)) =
      some (a.1, '=' :: '"' :: (xmlEscape a.2 ++ '"' :: rest)) := by
    apply readName?_append h
    rintro c ⟨⟩
    decide
  have hvalue := readUntil?_append (notMem_xmlEscape a.2 '"' (by decide)) rest
  rw [attributeText, List.append_assoc, List.append_assoc, List.append_assoc, List.cons_append,
    List.cons_append, List.nil_append, List.singleton_append, readAttribute?, hname]
  simp only [hvalue, unescape_xmlEscape, Option.bind_some, Option.map_some]
  rfl

/-- A name begins with a character that ends neither the white space before it nor its tag. -/
theorem IsName.exists_cons (h : IsName name) :
    ∃ c s, name = c :: s ∧ isSpace c = false ∧ c ≠ '>' ∧ c ≠ '/' := by
  obtain ⟨c, s, rfl⟩ := List.exists_cons_of_ne_nil h.1
  have hc := h.2 c List.mem_cons_self
  refine ⟨c, s, rfl, ?_, ?_, ?_⟩
  · rw [Bool.eq_false_iff]
    intro hspace
    simp only [isSpace, Bool.or_eq_true, decide_eq_true_eq] at hspace
    rcases hspace with ((rfl | rfl) | rfl) | rfl <;> exact absurd hc (by decide)
  · rintro rfl
    exact absurd hc (by decide)
  · rintro rfl
    exact absurd hc (by decide)

theorem readAttributes?_cons {a : Text × Text} (h : IsName a.1) (s : Text) :
    readAttributes? (' ' :: (attributeText a ++ s)) =
      (readAttributes? s).map fun (more, rest) => (a :: more, rest) := by
  have hread := readAttribute?_append h s
  obtain ⟨c, w, hc, hspace, hclose, -⟩ := h.exists_cons
  have hdrop : (' ' :: (attributeText a ++ s)).dropWhile isSpace = attributeText a ++ s := by
    rw [List.dropWhile_cons_of_pos (by decide), attributeText, hc]
    exact List.dropWhile_cons_of_neg (by simp [hspace])
  have hhead : ¬(attributeText a ++ s).head? = some '>' := by
    rw [attributeText, hc]
    simpa using hclose
  rw [readAttributes?, hdrop, if_neg hhead]
  split
  · next hnone => simp [hread] at hnone
  · next hsome =>
    rw [hread] at hsome
    cases hsome
    rfl

theorem readAttributes?_append (h : ∀ a ∈ attributes, IsName a.1) (rest : Text) :
    readAttributes? (attributesText attributes ++ '>' :: rest) = some (attributes, rest) := by
  induction attributes with
  | nil =>
    rw [attributesText, List.flatMap_nil, List.nil_append, readAttributes?]
    rfl
  | cons a attributes ih =>
    rw [attributesText, List.flatMap_cons, List.cons_append, List.cons_append, List.append_assoc,
      readAttributes?_cons (h a List.mem_cons_self), ← attributesText,
      ih fun b hb => h b (List.mem_cons_of_mem a hb)]
    rfl

/-- Neither an attribute nor the end of a tag continues the name of the tag. -/
theorem not_isNameChar_head (attributes : List (Text × Text)) (rest : Text) :
    ∀ c ∈ (attributesText attributes ++ '>' :: rest).head?, isNameChar c = false := by
  cases attributes with
  | nil =>
    rintro c ⟨⟩
    decide
  | cons a attributes =>
    rintro c ⟨⟩
    decide

theorem pieces?_tag {t : Piece} {after : Text} (h : readTag? s = some (t, after)) :
    pieces? ('<' :: s) = (pieces? after).map (t :: ·) := by
  rw [pieces?, if_pos rfl]
  split
  · next hnone => simp [h] at hnone
  · next hsome =>
    rw [h] at hsome
    cases hsome
    rfl

theorem pieces?_opening (hname : IsName name) (h : ∀ a ∈ attributes, IsName a.1) (rest : Text) :
    pieces? (openingText name attributes ++ rest) = (pieces? rest).map (.opening name attributes :: ·) := by
  have hread := readName?_append hname (not_isNameChar_head attributes rest)
  have htag : readTag? (name ++ (attributesText attributes ++ '>' :: rest)) =
      some (.opening name attributes, rest) := by
    obtain ⟨c, w, hc, -, -, hslash⟩ := hname.exists_cons
    unfold readTag?
    split
    · next hs =>
      rw [hc] at hs
      exact absurd (List.cons_eq_cons.mp hs).1 hslash
    · simp [hread, readAttributes?_append h]
  rw [← pieces?_tag htag]
  simp [openingText]

theorem pieces?_closing (hname : IsName name) (rest : Text) :
    pieces? (closingText name ++ rest) = (pieces? rest).map (.closing name :: ·) := by
  have hread : readName? (name ++ '>' :: rest) = some (name, '>' :: rest) := by
    apply readName?_append hname
    rintro c ⟨⟩
    decide
  have htag : readTag? ('/' :: (name ++ '>' :: rest)) = some (.closing name, rest) := by
    rw [readTag?, hread]
    rfl
  rw [← pieces?_tag htag]
  simp [closingText]

theorem xmlEscape_ne_nil (h : s ≠ []) : xmlEscape s ≠ [] := by
  intro hnil
  have hs := unescape_xmlEscape s
  rw [hnil] at hs
  exact h (Option.some.inj hs).symm

/-- Escaped text is read as one piece up to the next tag. -/
theorem pieces?_text (h : s ≠ []) (hrest : ∀ c ∈ rest.head?, c = '<') :
    pieces? (xmlEscape s ++ rest) = (pieces? rest).map (.text s :: ·) := by
  obtain ⟨c, w, hw⟩ := List.exists_cons_of_ne_nil (xmlEscape_ne_nil h)
  have hmem : ∀ d ∈ c :: w, d ≠ '<' := by
    rintro d hd rfl
    exact notMem_xmlEscape s '<' (by decide) (hw ▸ hd)
  obtain ⟨htake, hdrop⟩ := @Text.takeWhile_append_stop _ (· ≠ '<') w rest
    (fun d hd => decide_eq_true (hmem d (List.mem_cons_of_mem c hd)))
    (fun d hd => by simp [hrest d hd])
  rw [hw, List.cons_append, pieces?, if_neg (hmem c List.mem_cons_self), htake, hdrop, ← hw,
    unescape_xmlEscape, Option.bind_some]

end

end Xml

namespace Rendering
open Xml
variable {p : Pack}

/-! The document of a pack. -/

def fileElement (f : PackedFile) : Node :=
  .element "file".toList
    [("path".toList, displayPath f.path), ("compression".toList, f.method.name.toList)]
    [.text (['\n'] ++ body f.content ++ ['\n'])]

/-- The nodes of a document: a summary and the list of the files, each on lines of its own. -/
def documentNodes (p : Pack) : List Node :=
  [.element "summary".toList [] [.text (headline p.tally)], .text ['\n'],
    .element "files".toList [] (.text ['\n'] :: p.files.flatMap fun f => [fileElement f, .text ['\n']]),
    .text ['\n']]

def filePieces (f : PackedFile) : List Piece :=
  [.opening "file".toList
      [("path".toList, displayPath f.path), ("compression".toList, f.method.name.toList)],
    .text (['\n'] ++ body f.content ++ ['\n']), .closing "file".toList, .text ['\n']]

theorem xmlFile_eq (f : PackedFile) :
    xmlFile f = openingText "file".toList
        [("path".toList, displayPath f.path), ("compression".toList, f.method.name.toList)]
      ++ (xmlEscape (['\n'] ++ body f.content ++ ['\n'])
      ++ (closingText "file".toList ++ xmlEscape ['\n'])) := by
  have hmethod : xmlEscape f.method.name.toList = f.method.name.toList := by
    cases f.method <;> decide +kernel
  have hbody : xmlEscape (['\n'] ++ body f.content ++ ['\n']) =
      ['\n'] ++ xmlEscape (body f.content) ++ ['\n'] := by
    rw [xmlEscape, List.flatMap_append, List.flatMap_append]
    rfl
  have hopening : "<file path=\"".toList = ['<'] ++ "file".toList ++ [' '] ++ "path".toList ++ ['=', '"'] := rfl
  have hbetween : "\" compression=\"".toList = ['"', ' '] ++ "compression".toList ++ ['=', '"'] := rfl
  have hend : "\">\n".toList = ['"', '>', '\n'] := rfl
  have hclosing : "\n</file>\n".toList = ['\n'] ++ closingText "file".toList ++ xmlEscape ['\n'] := rfl
  unfold xmlFile
  rw [hbody, hopening, hbetween, hend, hclosing]
  simp only [openingText, attributesText, attributeText, List.flatMap_cons, List.flatMap_nil, hmethod,
    List.append_assoc, List.cons_append, List.nil_append, List.append_nil]

theorem pieces?_xmlFile (f : PackedFile) {rest : Text} (hrest : ∀ c ∈ rest.head?, c = '<') :
    pieces? (xmlFile f ++ rest) = (pieces? rest).map (filePieces f ++ ·) := by
  have hnames : ∀ a ∈ [("path".toList, displayPath f.path), ("compression".toList, f.method.name.toList)],
      IsName a.1 := by
    intro a ha
    simp only [List.mem_cons, List.not_mem_nil, or_false] at ha
    rcases ha with rfl | rfl
    · exact (by decide : IsName "path".toList)
    · exact (by decide : IsName "compression".toList)
  have hfile : IsName "file".toList := by decide
  have hclosing : ∀ c ∈ (closingText "file".toList ++ (xmlEscape ['\n'] ++ rest)).head?, c = '<' := by
    rintro c ⟨⟩
    rfl
  rw [xmlFile_eq, List.append_assoc, List.append_assoc (xmlEscape _), List.append_assoc (closingText _),
    pieces?_opening hfile hnames, pieces?_text (by simp) hclosing, pieces?_closing hfile,
    pieces?_text (by simp) hrest]
  simp only [Option.map_map]
  rfl

theorem head_xmlFiles (files : List PackedFile) {rest : Text} (hrest : ∀ c ∈ rest.head?, c = '<') :
    ∀ c ∈ (files.flatMap xmlFile ++ rest).head?, c = '<' := by
  cases files with
  | nil => exact hrest
  | cons f files =>
    intro c hc
    rw [List.flatMap_cons, xmlFile_eq] at hc
    cases hc
    rfl

theorem pieces?_xmlFiles (files : List PackedFile) {rest : Text} (hrest : ∀ c ∈ rest.head?, c = '<') :
    pieces? (files.flatMap xmlFile ++ rest) = (pieces? rest).map (files.flatMap filePieces ++ ·) := by
  induction files with
  | nil => simp
  | cons f files ih =>
    rw [List.flatMap_cons, List.append_assoc, pieces?_xmlFile f (head_xmlFiles files hrest), ih, Option.map_map]
    simp [Function.comp_def]

/-- What the reader makes of the pieces of a file: its element and the end of its line. -/
theorem build?_filePieces (f : PackedFile) (outer : List Open) (here : List Node) (rest : List Piece) :
    build? outer here (filePieces f ++ rest) = build? outer (.text ['\n'] :: fileElement f :: here) rest := by
  simp [filePieces, build?, fileElement]

theorem build?_files (files : List PackedFile) (outer : List Open) (here : List Node) (rest : List Piece) :
    build? outer here (files.flatMap filePieces ++ rest) =
      build? outer ((files.flatMap fun f => [fileElement f, .text ['\n']]).reverse ++ here) rest := by
  induction files generalizing here with
  | nil => rfl
  | cons f files ih =>
    rw [List.flatMap_cons, List.append_assoc, build?_filePieces, ih]
    simp

theorem headline_ne_nil (t : Tally) : headline t ≠ [] := by
  intro h
  cases h

/-- The elements of a document, their attributes and their texts are those of the pack. -/
theorem read?_xml (p : Pack) : read? (xml p) = some (documentNodes p) := by
  have hsummary : xml p = openingText "summary".toList [] ++ (xmlEscape (headline p.tally)
      ++ (closingText "summary".toList ++ (xmlEscape ['\n'] ++ (openingText "files".toList []
      ++ (xmlEscape ['\n'] ++ (p.files.flatMap xmlFile
      ++ (closingText "files".toList ++ (xmlEscape ['\n'] ++ [])))))))) := by
    have hopening : "<summary>".toList = openingText "summary".toList [] := rfl
    have hbetween : "</summary>\n<files>\n".toList = closingText "summary".toList ++ (xmlEscape ['\n']
        ++ (openingText "files".toList [] ++ xmlEscape ['\n'])) := rfl
    have hclosing : "</files>\n".toList = closingText "files".toList ++ xmlEscape ['\n'] := rfl
    unfold xml
    rw [hopening, hbetween, hclosing]
    simp only [List.append_assoc, List.append_nil]
  have hnoAttributes : ∀ a ∈ ([] : List (Text × Text)), IsName a.1 := by simp
  have htag : ∀ (name s : Text), ∀ c ∈ (closingText name ++ s).head?, c = '<' := by
    rintro name s c ⟨⟩
    rfl
  have htag' : ∀ (name s : Text), ∀ c ∈ (openingText name [] ++ s).head?, c = '<' := by
    rintro name s c ⟨⟩
    rfl
  have hname : IsName "summary".toList := by decide
  have hname' : IsName "files".toList := by decide
  rw [read?, hsummary, pieces?_opening hname hnoAttributes, pieces?_text (headline_ne_nil _) (htag _ _),
    pieces?_closing hname, pieces?_text (by simp) (htag' _ _), pieces?_opening hname' hnoAttributes,
    pieces?_text (by simp) (head_xmlFiles _ (htag _ _)), pieces?_xmlFiles _ (htag _ _), pieces?_closing hname',
    pieces?_text (by simp) (by simp), pieces?]
  simp only [Option.map_some, Option.bind_some]
  simp [build?, build?_files, documentNodes]

/-! The files of a document. -/

def betweenNewlines? (s : Text) : Option Text :=
  match s with
  | '\n' :: rest => if rest.getLast? = some '\n' then some rest.dropLast else none
  | _ => none

def fileOf? : Node → Option (Text × Method × Text)
  | .element name attributes [.text s] =>
    if name = "file".toList then do
      let path ← attributes.lookup "path".toList
      let method ← attributes.lookup "compression".toList
      return (path, ← Method.all.find? (·.name.toList = method), ← betweenNewlines? s)
    else none
  | _ => none

def filesOf? (nodes : List Node) : Option (List (Text × Method × Text)) :=
  nodes.findSome? fun
    | .element name _ children => if name = "files".toList then some (children.filterMap fileOf?) else none
    | .text _ => none

theorem betweenNewlines?_append (s : Text) : betweenNewlines? (['\n'] ++ s ++ ['\n']) = some s := by
  simp [betweenNewlines?]

theorem fileOf?_fileElement (f : PackedFile) :
    fileOf? (fileElement f) = some (displayPath f.path, f.method, body f.content) := by
  have hmethod : Method.all.find? (·.name.toList = f.method.name.toList) = some f.method := by
    cases f.method <;> decide +kernel
  have hpath : [("path".toList, displayPath f.path), ("compression".toList, f.method.name.toList)].lookup
      "path".toList = some (displayPath f.path) := rfl
  have hcompression : [("path".toList, displayPath f.path), ("compression".toList, f.method.name.toList)].lookup
      "compression".toList = some f.method.name.toList := rfl
  unfold fileElement fileOf?
  dsimp only
  rw [if_pos rfl, hpath, hcompression, betweenNewlines?_append]
  simp only [Option.bind_eq_bind, Option.bind_some, hmethod]
  rfl

theorem filterMap_fileOf? (files : List PackedFile) :
    (files.flatMap fun f => [fileElement f, .text ['\n']]).filterMap fileOf? =
      files.map fun f => (displayPath f.path, f.method, body f.content) := by
  induction files with
  | nil => rfl
  | cons f files ih =>
    rw [List.flatMap_cons, List.filterMap_append, ih, List.map_cons, List.filterMap_cons, fileOf?_fileElement]
    rfl

theorem filesOf?_documentNodes (p : Pack) :
    filesOf? (documentNodes p) = some (p.files.map fun f => (displayPath f.path, f.method, body f.content)) := by
  have hfiles : (Node.text ['\n'] :: p.files.flatMap fun f => [fileElement f, .text ['\n']]).filterMap fileOf? =
      p.files.map fun f => (displayPath f.path, f.method, body f.content) := by
    rw [List.filterMap_cons, filterMap_fileOf?]
    rfl
  unfold filesOf? documentNodes
  rw [← hfiles]
  rfl

/-- A pack can be read back from its XML, whatever its paths and contents hold: the nodes of the document are
one summary and one element for each file, with two attributes and one text, and they tell the path, the
method and the content of every file, in order. -/
theorem xml_reads_back (p : Pack) :
    read? (p.render .xml) = some (documentNodes p) ∧
      (read? (p.render .xml)).bind filesOf? =
        some (p.files.map fun f => (displayPath f.path, f.method, body f.content)) := by
  have hread : read? (p.render .xml) = some (documentNodes p) := read?_xml p
  refine ⟨hread, ?_⟩
  rw [hread, Option.bind_some, filesOf?_documentNodes]

/-- A path with a backslash, a quote and a bracket, and a content that looks like the end of an element and
ends in newlines. -/
theorem tagged_file_reads_back :
    let tagged : PackedFile :=
      ⟨"src\\a\"<b.c".toList, "</file>\n<file path='x'>&lt;\n\n".toList, 30, .unsupported, none⟩
    let empty : PackedFile := ⟨"b.go".toList, [], 0, .untouched, some "go".toList⟩
    let p : Pack := ⟨[tagged, empty]⟩
    read? (p.render .xml) = some (documentNodes p) ∧
      (read? (p.render .xml)).bind filesOf? =
        some [("src/a\"<b.c".toList, .unsupported, "</file>\n<file path='x'>&lt;".toList),
          ("b.go".toList, .untouched, [])] := by
  intro tagged empty p
  obtain ⟨hread, hfiles⟩ := xml_reads_back p
  have hshown : (p.files.map fun f => (displayPath f.path, f.method, body f.content)) =
      [("src/a\"<b.c".toList, .unsupported, "</file>\n<file path='x'>&lt;".toList),
        ("b.go".toList, .untouched, [])] := by decide +kernel
  exact ⟨hread, hfiles.trans (congrArg some hshown)⟩

end Rendering
end CodeDigest
