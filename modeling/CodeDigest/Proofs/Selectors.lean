import CodeDigest.Proofs.Emissions
import CodeDigest.Proofs.Pieces
import CodeDigest.Proofs.Tokens

/-! Where a selector ends: at the first opening brace of its text, be it code or not. -/
namespace CodeDigest.Emission
open Lexicon
variable {c : Capture} {s : Source} {text : Text}

def beforeBrace (text : Text) : List Token :=
  (Lexicon.css.tokens text).takeWhile fun t => t.code? ≠ some '\x7b'

/-- Behind these tokens the text ends or goes on with the brace. -/
private theorem exists_behind_brace (text : Text) :
    ∃ rest, text = spelled (beforeBrace text) ++ rest ∧ ∀ x ∈ rest.head?, x = '\x7b' := by
  have hts : Lexicon.css.tokensFrom 0 text = beforeBrace text ++
      (Lexicon.css.tokens text).dropWhile fun t => t.code? ≠ some '\x7b' :=
    List.takeWhile_append_dropWhile.symm
  obtain ⟨rest, htext, hrest⟩ := tokensFrom_eq_append hts
  refine ⟨rest, htext, ?_⟩
  have hspelled := spelled_tokensFrom Lexicon.css (0 + Text.byteSize (spelled (beforeBrace text))) rest
  rw [← hrest] at hspelled
  cases hd : (Lexicon.css.tokens text).dropWhile fun t => t.code? ≠ some '\x7b' with
  | nil =>
    rw [hd] at hspelled
    simp [← hspelled]
  | cons t r =>
    have ht : t.code? = some '\x7b' := by
      have := List.head?_dropWhile_not (fun t : Token => decide (t.code? ≠ some '\x7b'))
        (Lexicon.css.tokens text)
      rw [hd] at this
      simpa using this
    have hmem : t ∈ Lexicon.css.tokensFrom 0 text := by
      rw [hts, hd]
      simp
    rw [hd, spelled_cons, text_of_code? hmem ht] at hspelled
    simp [← hspelled]

/-- Without a brace in a comment or literal, the first brace of the text is the first that is code. -/
private theorem takeWhile_of_clear
    (h : ∀ t ∈ beforeBrace text, t.code? = none → '\x7b' ∉ t.text) :
    text.takeWhile (· ≠ '\x7b') = spelled (beforeBrace text) := by
  obtain ⟨rest, htext, hrest⟩ := exists_behind_brace text
  have hclear : ∀ x ∈ spelled (beforeBrace text), decide (x ≠ '\x7b') = true := by
    intro x hx
    obtain ⟨t, ht, hxt⟩ := List.mem_flatMap.mp hx
    rw [decide_eq_true_eq]
    rintro rfl
    cases hc : t.code? with
    | none => exact h t ht hc hxt
    | some y =>
      have hne : t.code? ≠ some '\x7b' := by simpa using List.mem_takeWhile_imp ht
      have hmem : t ∈ Lexicon.css.tokensFrom 0 text := (List.takeWhile_prefix _).subset ht
      rw [text_of_code? hmem hc, List.mem_singleton] at hxt
      exact hne (by rw [hc, hxt])
  conv_lhs => rw [htext]
  exact (Text.takeWhile_append_stop hclear fun x hx => by simp [hrest x hx]).1

/-- A selector shows its text up to the first brace that is code, or all of it when there is none,
exactly when no comment and no literal before that brace holds a brace. -/
theorem selector?_ends_at_code_iff (h : captureText? c s = some text) :
    selector? c s = keyedByText? (Text.trim (spelled (beforeBrace text))) c.startRow ↔
      ∀ t ∈ beforeBrace text, t.code? = none → '\x7b' ∉ t.text := by
  rw [selector?, h, Option.bind_some]
  constructor
  · intro heq t ht _ hbrace
    have hmem : '\x7b' ∈ Text.trim (spelled (beforeBrace text)) :=
      Text.mem_trim (by decide) (List.mem_flatMap.mpr ⟨t, ht, hbrace⟩)
    have hnot : '\x7b' ∉ Text.trim (text.takeWhile (· ≠ '\x7b')) := by
      intro hm
      simpa using List.mem_takeWhile_imp ((Text.trim_isInfix _).subset hm)
    have hb : Text.isBlank (Text.trim (spelled (beforeBrace text))) = false := by
      rw [Text.isBlank, List.all_eq_false]
      exact ⟨_, hmem, by decide⟩
    rw [keyedByText?_of_not_blank hb] at heq
    obtain ⟨-, he⟩ := keyedByText?_eq_some heq
    have htext := congrArg Emission.text he
    dsimp only at htext
    rw [htext] at hmem
    exact hnot hmem
  · intro hclear
    rw [takeWhile_of_clear hclear]

def bracedTitle : Text := "a[title=\"\x7b\"] b \x7b\n  color: red;\n\x7d\n".toList

theorem bracedTitle_selector?_ends_at_code_iff :
    captureText? ⟨"definition.selector", 0, 0, 0, 16⟩ (.ofText bracedTitle) =
        some "a[title=\"\x7b\"] b \x7b".toList ∧
      (selector? ⟨"definition.selector", 0, 0, 0, 16⟩ (.ofText bracedTitle) =
          keyedByText? (Text.trim (spelled (beforeBrace "a[title=\"\x7b\"] b \x7b".toList))) 0 ↔
        ∀ t ∈ beforeBrace "a[title=\"\x7b\"] b \x7b".toList, t.code? = none → '\x7b' ∉ t.text) := by
  have h : captureText? ⟨"definition.selector", 0, 0, 0, 16⟩ (.ofText bracedTitle) =
      some "a[title=\"\x7b\"] b \x7b".toList := by decide +kernel
  exact ⟨h, selector?_ends_at_code_iff h⟩

/-- The brace in the title is no code, and yet the selector ends there. -/
theorem bracedTitle_cuts_selector :
    let c : Capture := ⟨"definition.selector", 0, 0, 0, 14⟩
    let text : Text := "a[title=\"\x7b\"] b".toList
    ¬c.Inverted ∧ captureText? c (.ofText bracedTitle) = some text ∧
      (∀ t ∈ Lexicon.css.tokens text, t.code? ≠ some '\x7b') ∧
      selector? c (.ofText bracedTitle) =
        some ⟨"a[title=\"".toList, 0, ["a[title=\"".toList], none⟩ ∧
      selector? c (.ofText bracedTitle) ≠ keyedByText? text 0 := by
  intro c text
  refine ⟨by decide, by decide +kernel, by decide +kernel, by decide +kernel, ?_⟩
  decide +kernel

end CodeDigest.Emission
