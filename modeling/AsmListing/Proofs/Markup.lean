import AsmListing.Proofs.Rendering

/-!
# Color can be erased

A block can be rendered with color or without.  The two renderings are made in
separate runs over arbitrary records, which need not be those of a listing, and
either run may fail.  Still color is nothing but markup: both runs fail alike, the
columns are the same, and deleting all tags from the colored text gives the text
without color, if that has no tags of its own.

`Erases` relates the two texts, whatever follows them, so it can be put together
from its parts: a token in a color (`erases_paint`), a line of them
(`Renderer.erases_lineText`), and the lines of a block (`Erases.append`).  The two
runs go through the same records, so they agree step by step (`Fallible.Agree`).
-/

namespace AsmListing

/-! ## Deleting tags -/

/-- Deletes what a tag has left, if `inside` is set, and then every run from a `<` to
the next `>`.  A `<` without a `>` after it starts no run. -/
def eraseFrom : Bool → Text → Text
  | _, [] => []
  | true, character :: rest => eraseFrom (character != '>') rest
  | false, character :: rest =>
    if character = '<' ∧ '>' ∈ rest then
      eraseFrom true rest
    else
      character :: eraseFrom false rest

/-- Deletes every run from a `<` to the next `>`. -/
def eraseTags (text : Text) : Text :=
  eraseFrom false text

theorem eraseFrom_true_append {tag : Text} (htag : '>' ∉ tag) (rest : Text) :
    eraseFrom true (tag ++ '>' :: rest) = eraseFrom false rest := by
  induction tag with
  | nil => simp [eraseFrom]
  | cons character tag ih =>
      rw [List.mem_cons, not_or] at htag
      have hcontinues : (character != '>') = true := by simpa using Ne.symm htag.1
      rw [List.cons_append, eraseFrom, hcontinues, ih htag.2]

/-- A tag is deleted. -/
theorem eraseTags_tag {tag : Text} (htag : '>' ∉ tag) (rest : Text) :
    eraseTags ('<' :: tag ++ '>' :: rest) = eraseTags rest := by
  rw [eraseTags, List.cons_append, eraseFrom, if_pos (by simp), eraseFrom_true_append htag]
  rfl

/-- What has no tags stays. -/
theorem eraseTags_append {text : Text} (htext : '<' ∉ text) (rest : Text) :
    eraseTags (text ++ rest) = text ++ eraseTags rest := by
  induction text with
  | nil => rfl
  | cons character text ih =>
      rw [List.mem_cons, not_or] at htext
      rw [eraseTags, List.cons_append, eraseFrom, if_neg fun htag => htext.1 htag.1.symm,
        ← eraseTags, ih htext.2, List.cons_append]

/-- `Erases painted plain`: if `plain` has no tags, deleting those of `painted` gives
`plain`, whatever comes after it. -/
def Erases (painted plain : Text) : Prop :=
  '<' ∉ plain → ∀ rest, eraseTags (painted ++ rest) = plain ++ eraseTags rest

theorem Erases.refl (text : Text) : Erases text text :=
  fun htext rest => eraseTags_append htext rest

theorem Erases.append {painted plain more rest : Text} (hfirst : Erases painted plain)
    (hsecond : Erases more rest) : Erases (painted ++ more) (plain ++ rest) := by
  intro hplain following
  rw [List.mem_append, not_or] at hplain
  rw [List.append_assoc, hfirst hplain.1, hsecond hplain.2, List.append_assoc]

/-! ## Text in a color -/

/-- Colors that do not end the tag they stand in. -/
def Palette.Plain (palette : Palette) : Prop :=
  ∀ color ∈ palette.colors, '>' ∉ color.toList

theorem Palette.plain_dark : Palette.dark.Plain := by
  unfold Palette.Plain
  decide

theorem Palette.plain_light : Palette.light.Plain := by
  unfold Palette.Plain
  decide

/-- A text in a color stands between two tags. -/
theorem markUp_eq (color : String) (text : Text) :
    markUp color text =
      '<' :: ("color=".toList ++ color.toList) ++
        '>' :: (text ++ ('<' :: "/color".toList ++ ['>'])) := by
  have hopening : "<color=".toList = '<' :: "color=".toList := by decide
  have hclosing : "</color>".toList = '<' :: "/color".toList ++ ['>'] := by decide
  unfold markUp
  rw [hopening, hclosing]
  simp only [List.append_assoc, List.cons_append]

theorem erases_paint {color : Option String} (hcolor : ∀ name ∈ color, '>' ∉ name.toList)
    (text : Text) : Erases (paint true color text) text := by
  cases color with
  | none => exact .refl text
  | some name =>
      intro htext rest
      have hopening : '>' ∉ "color=".toList ++ name.toList := by
        rw [List.mem_append, not_or]
        exact ⟨by decide, hcolor name rfl⟩
      have hclosing : '>' ∉ "/color".toList := by decide
      calc eraseTags (markUp name text ++ rest)
          = eraseTags ('<' :: ("color=".toList ++ name.toList) ++
              '>' :: (text ++ ('<' :: "/color".toList ++ '>' :: rest))) := by
            rw [markUp_eq]
            simp only [List.append_assoc, List.cons_append, List.nil_append]
        _ = eraseTags (text ++ ('<' :: "/color".toList ++ '>' :: rest)) :=
            eraseTags_tag hopening _
        _ = text ++ eraseTags ('<' :: "/color".toList ++ '>' :: rest) :=
            eraseTags_append htext _
        _ = text ++ eraseTags rest := by rw [eraseTags_tag hclosing]

/-! ## The two runs -/

theorem Palette.simdColor_mem (palette : Palette) (simd : Option SimdKind) :
    palette.simdColor simd ∈ palette.colors := by
  rcases simd with _ | _ | _ | _ <;> simp [simdColor, colors]

namespace Renderer

variable {renderer : Renderer}

theorem color?_mem {kind : TokenKind} {spelling : Text} :
    ∀ color ∈ renderer.color? kind spelling, color ∈ renderer.palette.colors := by
  intro color hcolor
  cases kind with
  | newLine => cases hcolor
  | misc => cases hcolor
  | simd =>
      cases hcolor
      exact renderer.palette.simdColor_mem _
  | _ =>
      cases hcolor
      simp [Palette.colors]

section Plain

variable (hpalette : renderer.palette.Plain)

include hpalette

theorem erases_lineText (tokens : List Token) :
    Erases (renderer.lineText true tokens) (renderer.lineText false tokens) := by
  induction tokens with
  | nil => exact .refl []
  | cons token rest ih =>
      rw [lineText, lineText, paint_false]
      refine (Erases.append ?_ (.refl _)).append ih
      exact erases_paint (fun color hcolor => hpalette color (color?_mem color hcolor)) _

theorem erases_locationText (lineIndex : Nat) :
    Erases (renderer.locationText true lineIndex) (renderer.locationText false lineIndex) := by
  unfold locationText
  cases renderer.captions.get? lineIndex with
  | none => exact .refl _
  | some caption =>
      refine (erases_paint ?_ caption).append (.refl _)
      intro color hcolor
      cases hcolor
      exact hpalette _ (by simp [Palette.colors])

/-- A line that is rendered in color agrees with the same line without. -/
theorem agree_renderLine (lineIndex : Nat) (line : Line) :
    Fallible.Agree (fun painted plain => Erases painted.1 plain.1 ∧ painted.2 = plain.2)
      (renderer.renderLine true lineIndex line) (renderer.renderLine false lineIndex line) := by
  unfold renderLine
  split
  · exact .ok ⟨erases_locationText hpalette lineIndex, rfl⟩
  · split
    · next tokens _ => exact .ok ⟨erases_lineText hpalette tokens, rfl⟩
    · exact .error _

/-- Lines agree one by one; the induction is on their number. -/
theorem agree_renderLines (count : Nat) :
    ∀ lineIndex, Fallible.Agree
      (fun painted plain => Erases (painted.map Prod.fst).flatten (plain.map Prod.fst).flatten ∧
        painted.map Prod.snd = plain.map Prod.snd)
      (renderer.renderLines true lineIndex count) (renderer.renderLines false lineIndex count) := by
  induction count with
  | zero =>
      intro lineIndex
      exact .ok ⟨.refl [], rfl⟩
  | succ count ih =>
      intro lineIndex
      rw [renderLines, renderLines]
      refine (Fallible.Agree.refl _).bind ?_
      rintro line _ rfl
      refine (agree_renderLine hpalette lineIndex line).bind ?_
      rintro painted plain ⟨htext, hcolumns⟩
      refine (ih (lineIndex + 1)).bind ?_
      rintro paintedRest plainRest ⟨hrestText, hrestColumns⟩
      exact .ok ⟨htext.append hrestText, by simp [hcolumns, hrestColumns]⟩

theorem agree_renderBlock (index : Nat) :
    Fallible.Agree
      (fun painted plain => Erases painted.text plain.text ∧ painted.columns = plain.columns)
      (renderer.renderBlock index true) (renderer.renderBlock index false) := by
  refine (Fallible.Agree.refl _).bind ?_
  rintro block _ rfl
  refine (agree_renderLines hpalette _ _).bind fun painted plain hlines => ?_
  exact .ok hlines

end Plain

end Renderer

/-- Color is markup and nothing else.  With color, the rendering of a block fails if
and only if it fails without, and with the same error.  Otherwise both have the
same columns, and deleting all tags from the colored text gives the text without
color, if that has no `<` of its own. -/
theorem renderBlock_colored_iff_plain (renderer : Renderer)
    (hpalette : renderer.palette = .dark ∨ renderer.palette = .light) (index : Nat) :
    (∀ error, renderer.renderBlock index true = .error error ↔
      renderer.renderBlock index false = .error error) ∧
    ∀ plain, renderer.renderBlock index false = .ok plain →
      ∃ painted, renderer.renderBlock index true = .ok painted ∧
        painted.columns = plain.columns ∧
        ('<' ∉ plain.text → eraseTags painted.text = plain.text) := by
  have hplain : renderer.palette.Plain := by
    rcases hpalette with hdark | hlight
    · rw [hdark]
      exact Palette.plain_dark
    · rw [hlight]
      exact Palette.plain_light
  have hagree := Renderer.agree_renderBlock hplain index
  generalize renderer.renderBlock index true = colored at hagree ⊢
  generalize renderer.renderBlock index false = uncolored at hagree ⊢
  cases hagree with
  | error error =>
      refine ⟨fun other => Iff.rfl, fun plain hok => ?_⟩
      cases hok
  | @ok painted plain hrelated =>
      refine ⟨fun error => by simp, fun other hok => ?_⟩
      cases hok
      refine ⟨painted, rfl, hrelated.2, fun htext => ?_⟩
      simpa [eraseTags, eraseFrom] using hrelated.1 htext []

/-- A word, a `>` and a number.  The records say so, and not the listing. -/
theorem renderBlock_colored_iff_plain_sample :
    ∃ renderer painted, renderer = Renderer.mk ['a', '>', '1'] .wasm
        [⟨.identifier, 0, 0, 1⟩, ⟨.misc, 1, 1, 1⟩, ⟨.number, 2, 2, 1⟩] [⟨.code, 0, 3⟩]
        [⟨.code, 0, 1, []⟩] .empty .light false ∧
      renderer.renderBlock 0 true = .ok painted ∧
      painted.columns = [[0, 1, 2]] ∧ eraseTags painted.text = ['a', '>', '1'] := by
  obtain ⟨-, hrendered⟩ := renderBlock_colored_iff_plain (Renderer.mk ['a', '>', '1'] .wasm
    [⟨.identifier, 0, 0, 1⟩, ⟨.misc, 1, 1, 1⟩, ⟨.number, 2, 2, 1⟩] [⟨.code, 0, 3⟩]
    [⟨.code, 0, 1, []⟩] .empty .light false) (.inr rfl) 0
  obtain ⟨painted, hpainted, hcolumns, herased⟩ :=
    hrendered ⟨['a', '>', '1'], [[0, 1, 2]]⟩ rfl
  exact ⟨_, painted, rfl, hpainted, hcolumns, herased (by decide)⟩

end AsmListing
