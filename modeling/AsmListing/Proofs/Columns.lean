import AsmListing.Proofs.Alignment
import AsmListing.Proofs.Offsets

/-!
# From a column to its token

A session finds the token at a column of a line by bisection among the columns that
the renderer has counted.  Here this is compared with the line itself: `lineParts` is
the text of a line without color, cut into the texts of its tokens and the spaces that
fill them up, and says of every part which token it belongs to.

* The columns of a line are in order, and a token ends before the next one starts
  (`Renderer.pairwise_zip_lineColumns`), so bisection finds the token whose columns
  contain the given one (`tokenAtColumn?_eq_some_iff`).
* These are the columns of the bytes that belong to the token
  (`Renderer.belongsAt_lineParts_iff`).
* The columns that a session searches were counted when the block was rendered, in the
  color mode of the options (`Session.Faithful.exists_tokens`); colors take up none.
-/

namespace AsmListing

/-- The parts of a line without color, each with the index of its token, if the first
token has the given index.  The spaces between tokens belong to none. -/
def lineParts (dialect : Dialect) (text : Text) : Nat → List Token → List (Text × Option Nat)
  | _, [] => []
  | index, token :: rest =>
    (if token.kind = .newLine then ['\n'] else token.text text, some index) ::
      (List.replicate (gapBefore dialect token rest) ' ', none) ::
        lineParts dialect text (index + 1) rest

/-- The parts of a line as a renderer shows it without color. -/
def Renderer.partsOf (renderer : Renderer) (line : Line) : List (Text × Option Nat) :=
  lineParts renderer.dialect renderer.text line.tokenIndex
    ((line.tokens? renderer.tokens).getD [])

theorem flatMap_fst_lineParts (dialect : Dialect) (text : Text) (index : Nat)
    (tokens : List Token) :
    (lineParts dialect text index tokens).flatMap Prod.fst = plainLine dialect text tokens := by
  induction tokens generalizing index with
  | nil => rfl
  | cons token rest ih => simp [lineParts, plainLine, ih]

/-! ## Searching among columns -/

/-- If tokens end before the next one starts, the search finds the one whose columns
contain the given one. -/
theorem tokenAtColumn?_eq_some_iff {tokens : List Token} {columns : List Nat}
    (hlength : columns.length = tokens.length)
    (hordered : (tokens.zip columns).Pairwise fun earlier later =>
      earlier.2 + earlier.1.renderedLength ≤ later.2) {column place : Nat} :
    tokenAtColumn? tokens columns column = some place ↔
      ∃ token start, tokens[place]? = some token ∧ columns[place]? = some start ∧
        start ≤ column ∧ column < start + token.renderedLength := by
  have hfront : columns.Pairwise fun earlier later =>
      decide (later ≤ column) = true → decide (earlier ≤ column) = true := by
    have hstarts := hordered.map (S := fun earlier later => earlier ≤ later) Prod.snd
      fun _ _ hle => (Nat.le_add_right _ _).trans hle
    rw [List.map_snd_zip hlength.le] at hstarts
    refine hstarts.imp fun hle hlater => ?_
    simp only [decide_eq_true_eq] at hlater ⊢
    omega
  have hborder : ∀ index, index < bisect (· ≤ column) columns ↔
      ∃ start, columns[index]? = some start ∧ start ≤ column := by
    intro index
    rw [lt_bisect_iff hfront, passesAt, Option.any_eq_true]
    simp
  unfold tokenAtColumn? tokenAtColumnBy?
  constructor
  · intro hfound
    split at hfound
    · cases hfound
    · next index hbisect =>
        split at hfound
        · next token start htoken hstart =>
            split at hfound
            · next hlt =>
                cases hfound
                obtain ⟨other, hother, hle⟩ := (hborder place).mp (by omega)
                obtain rfl : start = other := Option.some.inj (hstart.symm.trans hother)
                exact ⟨token, start, htoken, hstart, hle, hlt⟩
            · cases hfound
        · cases hfound
  · rintro ⟨token, start, htoken, hstart, hle, hlt⟩
    have hpassed : bisect (· ≤ column) columns = place + 1 := by
      apply le_antisymm
      · -- the token ends before the next one starts
        by_contra hgt
        obtain ⟨next, hnext, hover⟩ := (hborder (place + 1)).mp (by omega)
        obtain ⟨hplace, rfl⟩ := List.getElem?_eq_some_iff.mp htoken
        obtain ⟨hplace', rfl⟩ := List.getElem?_eq_some_iff.mp hstart
        obtain ⟨hnextPlace, rfl⟩ := List.getElem?_eq_some_iff.mp hnext
        have hapart := List.pairwise_iff_getElem.mp hordered place (place + 1)
          (by simp; omega) (by simp; omega) (Nat.lt_succ_self place)
        simp only [List.getElem_zip] at hapart
        omega
      · exact (hborder place).mpr ⟨start, hstart, hle⟩
    simp only [hpassed, htoken, hstart, hlt, if_true]

namespace Renderer

variable (renderer : Renderer)

theorem partsOf_eq {line : Line} {tokens : List Token}
    (htokens : line.tokens? renderer.tokens = some tokens) :
    renderer.partsOf line =
      lineParts renderer.dialect renderer.text line.tokenIndex tokens := by
  rw [partsOf, htokens, Option.getD_some]

theorem byteSize_spelling {token : Token}
    (htext : (token.text renderer.text).byteSize = token.length) :
    (renderer.spelling token).byteSize = token.renderedLength := by
  unfold spelling Token.renderedLength
  split
  · rfl
  · exact htext

theorem length_lineColumns (start : Nat) (tokens : List Token) :
    (renderer.lineColumns start tokens).length = tokens.length := by
  induction tokens generalizing start with
  | nil => rfl
  | cons token rest ih => simp [lineColumns, ih]

theorem le_of_mem_lineColumns {start : Nat} {tokens : List Token} :
    ∀ column ∈ renderer.lineColumns start tokens, start ≤ column := by
  induction tokens generalizing start with
  | nil => simp [lineColumns]
  | cons token rest ih =>
      intro column hcolumn
      rcases List.mem_cons.mp hcolumn with rfl | hcolumn
      · exact le_rfl
      · exact (Nat.le_add_right _ _).trans (ih column hcolumn)

section Columns

variable {renderer} {tokens : List Token}
  (htexts : ∀ token ∈ tokens, (token.text renderer.text).byteSize = token.length)

include htexts

theorem pairwise_zip_lineColumns (start : Nat) :
    (tokens.zip (renderer.lineColumns start tokens)).Pairwise fun earlier later =>
      earlier.2 + earlier.1.renderedLength ≤ later.2 := by
  induction tokens generalizing start with
  | nil => exact .nil
  | cons token rest ih =>
      refine .cons (fun later hlater => ?_)
        (ih (fun other hother => htexts other (List.mem_cons_of_mem _ hother)) _)
      have hle := renderer.le_of_mem_lineColumns _ (List.of_mem_zip hlater).2
      rw [renderer.byteSize_spelling (htexts token List.mem_cons_self)] at hle
      exact (Nat.add_le_add_left (Nat.le_add_right _ _) _).trans hle

/-- The bytes that belong to a token are those between its column and its end.  The
induction is on the tokens; the bytes of the first one and of the spaces after it count
as columns before the next one. -/
theorem belongsAt_lineParts_iff (start : Nat) {index offset owner : Nat} :
    BelongsAt (lineParts renderer.dialect renderer.text index tokens) offset (some owner) ↔
      ∃ place token column, owner = index + place ∧ tokens[place]? = some token ∧
        (renderer.lineColumns start tokens)[place]? = some column ∧
        column ≤ start + offset ∧ start + offset < column + token.renderedLength := by
  induction tokens generalizing start index offset with
  | nil => simp [lineParts, BelongsAt, ownedBytes]
  | cons first rest ih =>
      have hsize : (renderer.spelling first).byteSize = first.renderedLength :=
        renderer.byteSize_spelling (htexts first List.mem_cons_self)
      rw [lineParts, belongsAt_cons_iff, belongsAt_cons_iff, byteSize_replicate_space, ← spelling,
        hsize, lineColumns, hsize, padding_eq_gapBefore,
        ih (fun other hother => htexts other (List.mem_cons_of_mem _ hother))
          (start + (first.renderedLength + gapBefore renderer.dialect first rest))]
      generalize gapBefore renderer.dialect first rest = gap
      constructor
      · rintro (⟨hlt, howner⟩ | ⟨hpast, ⟨-, hnone⟩ | ⟨hgap, place, token, column, rfl, htoken,
          hcolumn, hlow, hhigh⟩⟩)
        · exact ⟨0, first, start, Option.some.inj howner, rfl, rfl, by omega, by omega⟩
        · cases hnone
        · exact ⟨place + 1, token, column, by omega, htoken, hcolumn, by omega, by omega⟩
      · rintro ⟨place, token, column, rfl, htoken, hcolumn, hlow, hhigh⟩
        cases place with
        | zero =>
            obtain rfl : first = token := by simpa using htoken
            obtain rfl : start = column := by simpa using hcolumn
            exact .inl ⟨by omega, rfl⟩
        | succ place =>
            rw [List.getElem?_cons_succ] at htoken hcolumn
            have hle := renderer.le_of_mem_lineColumns _ (List.mem_of_getElem? hcolumn)
            exact .inr ⟨by omega, .inr ⟨by omega, place, token, column, by omega, htoken, hcolumn,
              by omega, by omega⟩⟩

/-- The bytes of a token are next to each other. -/
theorem exists_belongsAt_iff_between {place : Nat} {token : Token}
    (htoken : tokens[place]? = some token) (index : Nat) :
    ∃ start, ∀ offset,
      BelongsAt (lineParts renderer.dialect renderer.text index tokens) offset
          (some (index + place)) ↔
        start ≤ offset ∧ offset < start + token.renderedLength := by
  have hplace : place < (renderer.lineColumns 0 tokens).length := by
    rw [length_lineColumns]
    exact (List.getElem?_eq_some_iff.mp htoken).1
  have hstart := List.getElem?_eq_getElem hplace
  refine ⟨(renderer.lineColumns 0 tokens)[place], fun offset => ?_⟩
  rw [belongsAt_lineParts_iff htexts 0, Nat.zero_add]
  constructor
  · rintro ⟨other, found, column, hother, hfound, hcolumn, hlow, hhigh⟩
    obtain rfl : place = other := Nat.add_left_cancel hother
    obtain rfl : token = found := Option.some.inj (htoken.symm.trans hfound)
    rw [hstart] at hcolumn
    cases hcolumn
    exact ⟨hlow, hhigh⟩
  · rintro ⟨hlow, hhigh⟩
    exact ⟨place, token, _, rfl, htoken, hstart, hlow, hhigh⟩

end Columns

end Renderer

/-! ## The lines of a session -/

theorem Line.eq_of_tokens? {line : Line} {all tokens : List Token}
    (htokens : line.tokens? all = some tokens) :
    line.tokenEnd ≤ all.length ∧ tokens = (all.drop line.tokenIndex).take line.length := by
  unfold tokens? at htokens
  split at htokens
  · next hend => exact ⟨hend, (Option.some.inj htokens).symm⟩
  · cases htokens

theorem Line.length_of_tokens? {line : Line} {all tokens : List Token}
    (htokens : line.tokens? all = some tokens) : tokens.length = line.length := by
  obtain ⟨hend, rfl⟩ := eq_of_tokens? htokens
  rw [tokenEnd] at hend
  rw [List.length_take, List.length_drop]
  omega

theorem Line.getElem?_of_tokens? {line : Line} {all tokens : List Token}
    (htokens : line.tokens? all = some tokens) {place : Nat} (hplace : place < line.length) :
    tokens[place]? = all[line.tokenIndex + place]? := by
  obtain ⟨-, rfl⟩ := eq_of_tokens? htokens
  rw [List.getElem?_take_of_lt hplace, List.getElem?_drop]

theorem Analysis.LineAt.unique {analysis : Analysis} {place : LineRef} {index other : Nat}
    {line content : Line} (hline : analysis.LineAt place index line)
    (hcontent : analysis.LineAt place other content) : index = other ∧ line = content := by
  obtain ⟨block, hblock, -, rfl, hline⟩ := hline
  obtain ⟨found, hfound, -, rfl, hcontent⟩ := hcontent
  obtain rfl : block = found := Option.some.inj (hblock.symm.trans hfound)
  exact ⟨rfl, Option.some.inj (hline.symm.trans hcontent)⟩

theorem Analysis.LineAt.inside {analysis : Analysis} {place : LineRef} {index : Nat} {line : Line}
    (hline : analysis.LineAt place index line) :
    place.block < analysis.blocks.length ∧
      ∀ block, analysis.blocks[place.block]? = some block → place.line < block.length := by
  obtain ⟨block, hblock, hplace, -, -⟩ := hline
  refine ⟨(List.getElem?_eq_some_iff.mp hblock).1, fun found hfound => ?_⟩
  obtain rfl : block = found := Option.some.inj (hblock.symm.trans hfound)
  exact hplace

/-- The place of a line leads to the line that was read there. -/
theorem LaidOut.exists_stored_at {context : Context} {read : SourceTable × List StoredLine}
    {analysis : Analysis} (hlaid : LaidOut context read analysis) {place : LineRef} {index : Nat}
    {line : Line} (hline : analysis.LineAt place index line) :
    ∃ part before stored after, (read.2.splitBy joins)[place.block]? = some part ∧
      part[place.line]? = some stored ∧ read.2 = before ++ stored :: after ∧
      before.length = index ∧
      line = ⟨stored.kind, (before.flatMap StoredLine.tokens).length, stored.tokens.length⟩ := by
  obtain ⟨record, hrecord, hplace, -, hcontent⟩ := id hline
  obtain ⟨part, stored, hpart, hstored⟩ := hlaid.exists_part_line place hrecord hplace
  obtain ⟨other, same, hother, hread, -⟩ := hlaid.exists_lineAt place hpart hstored
  obtain ⟨rfl, rfl⟩ := hline.unique hother
  obtain ⟨before, found, after, hlines, rfl, hsame⟩ := hlaid.exists_stored hcontent
  obtain rfl : found = stored := by simpa [hlines] using hread
  exact ⟨part, before, found, after, hpart, hstored, hlines, rfl, hsame⟩

namespace Session

variable {session : Session} {analysis : Analysis} {block line index : Nat} {content : Line}

theorem tokenLine?_eq_some_iff (hanalysis : session.analysis? = some analysis) :
    session.tokenLine? block line = some (index, content) ↔
      analysis.LineAt ⟨block, line⟩ index content ∧
        ∀ location, content.kind ≠ .located location := by
  simp only [tokenLine?, blocks, lines, hanalysis, Option.map_some, Option.getD_some]
  constructor
  · intro hfound
    obtain ⟨record, hrecord, hfound⟩ := Option.bind_eq_some_iff.mp hfound
    split at hfound
    · next hline =>
        obtain ⟨found, hcontent, hfound⟩ := Option.bind_eq_some_iff.mp hfound
        split at hfound
        · cases hfound
        · next hlocated =>
            cases hfound
            exact ⟨⟨record, hrecord, hline, rfl, hcontent⟩, hlocated⟩
    · cases hfound
  · rintro ⟨⟨record, hrecord, hline, rfl, hcontent⟩, hlocated⟩
    simp only at hrecord hline hcontent
    simp only [hrecord, Option.bind_some, hline, if_true, hcontent]

/-- The search among the columns of a line, once its block is rendered. -/
theorem fst_tokenAt? (hline : session.tokenLine? block line = some (index, content))
    {rendering : Rendering} (hrendering : session.rendering block = .ok rendering)
    {columns : List Nat} (hcolumns : rendering.columns[line]? = some columns)
    {tokens : List Token} (htokens : content.tokens? session.tokens = some tokens)
    (column : Nat) :
    (session.tokenAt? block line column).1 =
      (tokenAtColumn? tokens columns column).map fun place =>
        (content.tokenIndex + place, index) := by
  have hrender : session.render block = (.ok rendering, session.keep block rendering) := by
    rw [render, hrendering]
  simp only [tokenAt?, hline, hrender, hcolumns, htokens, Option.bind_eq_bind, Option.bind_some]

theorem exists_lineAt_of_tokenAt? (hanalysis : session.analysis? = some analysis)
    {column : Nat} {found : Nat × Nat}
    (hfound : (session.tokenAt? block line column).1 = some found) :
    ∃ index content, analysis.LineAt ⟨block, line⟩ index content ∧
      ∀ location, content.kind ≠ .located location := by
  cases htokenLine : session.tokenLine? block line with
  | none =>
      rw [tokenAt?, htokenLine] at hfound
      cases hfound
  | some found => exact ⟨_, _, (tokenLine?_eq_some_iff hanalysis).mp htokenLine⟩

namespace Faithful

variable (hfaithful : session.Faithful) (hanalysis : session.analysis? = some analysis)
  (hline : analysis.LineAt ⟨block, line⟩ index content)
  (hlocated : ∀ location, content.kind ≠ .located location)

include hfaithful hanalysis hline hlocated

/-- The columns in which a session searches are those of the line, whatever colors the
line is rendered in. -/
theorem exists_tokens :
    ∃ tokens, content.tokens? analysis.tokens = some tokens ∧
      (∀ token ∈ tokens,
        (token.text (session.renderer analysis).text).byteSize = token.length) ∧
      (∀ token ∈ tokens, 0 < token.length) ∧
      (session.renderer analysis).renderLine false index content =
        .ok ((session.renderer analysis).lineText false tokens,
          (session.renderer analysis).lineColumns 0 tokens) ∧
      ∀ column, (session.tokenAt? block line column).1 =
        (tokenAtColumn? tokens ((session.renderer analysis).lineColumns 0 tokens) column).map
          fun place => (content.tokenIndex + place, index) := by
  obtain ⟨files, dialect, hanalyze⟩ := hfaithful.analyzed analysis hanalysis
  obtain ⟨read, hread, hlaid⟩ := exists_laidOut hanalyze
  have hshows : (session.renderer analysis).Shows read.2 :=
    hlaid.shows session.input session.options
  obtain ⟨part, before, stored, after, hpart, hstored, hlines, rfl, rfl⟩ :=
    hlaid.exists_stored_at hline
  have hsizes := StoredLine.sizes_of_mem_tokens
    (source_of_readLines hread stored (by simp [hlines])).2
  have hshown := fun colored =>
    (session.renderer analysis).showLine_of_ne_located colored hlocated
  have htokens := tokens?_lineRecord before after stored
  rw [← hlines, ← hlaid.tokens_eq] at htokens
  refine ⟨stored.tokens, htokens, fun token htoken => (hsizes token htoken).1,
    fun token htoken => (hsizes token htoken).2, ?_, ?_⟩
  · rw [← hshown false]
    exact hshows.renderLine_eq false hlines
  · have hrendering : session.rendering block = (session.renderer analysis).renderBlock block
        session.options.syntaxColoring := by
      rw [hfaithful.sound.rendering_eq, renderAnew_eq, hanalysis]
      exact if_pos hline.inside.1
    refine fst_tokenAt? ((tokenLine?_eq_some_iff hanalysis).mpr ⟨hline, hlocated⟩)
      (hrendering.trans (hshows.renderBlock_eq _ hpart)) ?_ ?_
    · rw [List.getElem?_map, hstored, Option.map_some, hshown]
    · rwa [Session.tokens, hanalysis]

/-- The token at a column is the one that the byte at this column belongs to. -/
theorem tokenAt?_eq_some_iff {column token other : Nat} :
    (session.tokenAt? block line column).1 = some (token, other) ↔
      other = index ∧
        BelongsAt ((session.renderer analysis).partsOf content) column (some token) := by
  obtain ⟨tokens, htokens, htexts, -, -, hsearch⟩ :=
    hfaithful.exists_tokens hanalysis hline hlocated
  rw [(session.renderer analysis).partsOf_eq htokens, Renderer.belongsAt_lineParts_iff htexts 0,
    hsearch, Option.map_eq_some_iff]
  simp only [tokenAtColumn?_eq_some_iff (Renderer.length_lineColumns _ 0 tokens)
    (Renderer.pairwise_zip_lineColumns htexts 0), Prod.mk.injEq, Nat.zero_add]
  constructor
  · rintro ⟨place, ⟨found, start, hfound, hstart, hlow, hhigh⟩, rfl, rfl⟩
    exact ⟨rfl, place, found, start, rfl, hfound, hstart, hlow, hhigh⟩
  · rintro ⟨rfl, place, found, start, rfl, hfound, hstart, hlow, hhigh⟩
    exact ⟨place, ⟨found, start, hfound, hstart, hlow, hhigh⟩, rfl, rfl⟩

/-- No token is found at the spaces between tokens and past the end of the line. -/
theorem tokenAt?_eq_none_iff {column : Nat} :
    (session.tokenAt? block line column).1 = none ↔
      BelongsAt ((session.renderer analysis).partsOf content) column none ∨
        (ownedBytes ((session.renderer analysis).partsOf content)).length ≤ column := by
  rw [Option.eq_none_iff_forall_ne_some]
  constructor
  · intro hnone
    by_cases hcolumn : column < (ownedBytes ((session.renderer analysis).partsOf content)).length
    · obtain ⟨owner, hbelongs⟩ := exists_belongsAt_iff.mpr hcolumn
      cases owner with
      | none => exact .inl hbelongs
      | some token =>
          have hfound := (hfaithful.tokenAt?_eq_some_iff hanalysis hline hlocated).mpr
            ⟨rfl, hbelongs⟩
          exact absurd hfound (hnone _)
    · exact .inr (Nat.le_of_not_lt hcolumn)
  · rintro hreason ⟨token, other⟩ hfound
    obtain ⟨-, hbelongs⟩ := (hfaithful.tokenAt?_eq_some_iff hanalysis hline hlocated).mp hfound
    rcases hreason with hspace | hend
    · cases hbelongs.unique hspace
    · have hcolumn := exists_belongsAt_iff.mp ⟨_, hbelongs⟩
      omega

/-- The bytes of a line belong to its own tokens. -/
theorem between_of_belongsAt {column token : Nat}
    (hbelongs : BelongsAt ((session.renderer analysis).partsOf content) column (some token)) :
    content.tokenIndex ≤ token ∧ token < content.tokenEnd := by
  obtain ⟨tokens, htokens, htexts, -⟩ := hfaithful.exists_tokens hanalysis hline hlocated
  rw [(session.renderer analysis).partsOf_eq htokens,
    Renderer.belongsAt_lineParts_iff htexts 0] at hbelongs
  obtain ⟨place, found, -, rfl, hfound, -⟩ := hbelongs
  have hplace := (List.getElem?_eq_some_iff.mp hfound).1
  rw [Line.length_of_tokens? htokens] at hplace
  exact ⟨Nat.le_add_right _ _, Nat.add_lt_add_left hplace _⟩

/-- The parts of a line make up its rendering without color. -/
theorem exists_renderLine :
    ∃ shown columns,
      (session.renderer analysis).renderLine false index content = .ok (shown, columns) ∧
      ((session.renderer analysis).partsOf content).flatMap Prod.fst = shown := by
  obtain ⟨tokens, htokens, -, -, hrender, -⟩ := hfaithful.exists_tokens hanalysis hline hlocated
  refine ⟨_, _, hrender, ?_⟩
  rw [(session.renderer analysis).partsOf_eq htokens, flatMap_fst_lineParts,
    Renderer.lineText_false _ (List.forall₂_same.mpr fun _ _ => .inl rfl)]

/-- A token is found at its own columns. -/
theorem exists_columns_of_token {token : Nat} (hlow : content.tokenIndex ≤ token)
    (hhigh : token < content.tokenEnd) :
    ∃ found start, analysis.tokens[token]? = some found ∧ 0 < found.renderedLength ∧
      ∀ column, (session.tokenAt? block line column).1 = some (token, index) ↔
        start ≤ column ∧ column < start + found.renderedLength := by
  obtain ⟨tokens, htokens, htexts, hpos, -⟩ := hfaithful.exists_tokens hanalysis hline hlocated
  obtain ⟨place, rfl⟩ := Nat.exists_eq_add_of_le hlow
  have hplace : place < content.length := Nat.lt_of_add_lt_add_left hhigh
  have hlt : place < tokens.length := by rwa [Line.length_of_tokens? htokens]
  have hfound := List.getElem?_eq_getElem hlt
  obtain ⟨start, hbetween⟩ :=
    Renderer.exists_belongsAt_iff_between htexts hfound content.tokenIndex
  refine ⟨tokens[place], start, ?_, ?_, fun column => ?_⟩
  · rw [← Line.getElem?_of_tokens? htokens hplace, hfound]
  · exact Token.renderedLength_pos _ (hpos _ (List.getElem_mem hlt))
  · rw [hfaithful.tokenAt?_eq_some_iff hanalysis hline hlocated, ← hbetween,
      (session.renderer analysis).partsOf_eq htokens]
    exact ⟨fun howned => howned.2, fun howned => ⟨rfl, howned⟩⟩

end Faithful

/-- A place lies outside of the blocks, or there is a line. -/
theorem Faithful.lineAt_cases (hfaithful : session.Faithful)
    (hanalysis : session.analysis? = some analysis) (block line : Nat) :
    analysis.blocks.length ≤ block ∨
      (∃ found, analysis.blocks[block]? = some found ∧ found.length ≤ line) ∨
      ∃ index content, analysis.LineAt ⟨block, line⟩ index content := by
  obtain ⟨files, dialect, hanalyze⟩ := hfaithful.analyzed analysis hanalysis
  obtain ⟨read, -, hlaid⟩ := exists_laidOut hanalyze
  by_cases hblock : block < analysis.blocks.length
  · have hrecord := List.getElem?_eq_getElem hblock
    by_cases hplace : line < analysis.blocks[block].length
    · obtain ⟨part, stored, hpart, hstored⟩ :=
        hlaid.exists_part_line ⟨block, line⟩ hrecord hplace
      obtain ⟨index, content, hline, -⟩ := hlaid.exists_lineAt ⟨block, line⟩ hpart hstored
      exact .inr (.inr ⟨index, content, hline⟩)
    · exact .inr (.inl ⟨_, hrecord, Nat.le_of_not_lt hplace⟩)
  · exact .inl (Nat.le_of_not_lt hblock)

/-- Without color, the token of a byte is found by its column.  If a listing is loaded,
the search for a column of a line gives the token that the byte at this column of the line
belongs to, whatever colors the session renders in.  So it fails outside of the blocks,
in a line that shows a source location, at the spaces that fill a token up and past
the end of the line; and every token of a line is found at its own columns. -/
theorem columns_find_their_tokens (hreach : session.Reachable)
    (hanalysis : session.analysis? = some analysis) (block line : Nat) :
    (∀ column token index, (session.tokenAt? block line column).1 = some (token, index) ↔
      ∃ content, analysis.LineAt ⟨block, line⟩ index content ∧
        (∀ location, content.kind ≠ .located location) ∧
        content.tokenIndex ≤ token ∧ token < content.tokenEnd ∧
        BelongsAt ((session.renderer analysis).partsOf content) column (some token)) ∧
    (∀ column, (session.tokenAt? block line column).1 = none ↔
      analysis.blocks.length ≤ block ∨
      (∃ found, analysis.blocks[block]? = some found ∧ found.length ≤ line) ∨
      ∃ index content, analysis.LineAt ⟨block, line⟩ index content ∧
        ((∃ location, content.kind = .located location) ∨
          BelongsAt ((session.renderer analysis).partsOf content) column none ∨
          (ownedBytes ((session.renderer analysis).partsOf content)).length ≤ column)) ∧
    ∀ index content, analysis.LineAt ⟨block, line⟩ index content →
      (∀ location, content.kind ≠ .located location) →
      (∃ shown columns,
        (session.renderer analysis).renderLine false index content = .ok (shown, columns) ∧
        (ownedBytes ((session.renderer analysis).partsOf content)).map Prod.fst = shown.bytes) ∧
      ∀ token, content.tokenIndex ≤ token → token < content.tokenEnd →
        ∃ found start, analysis.tokens[token]? = some found ∧ 0 < found.renderedLength ∧
          ∀ column, (session.tokenAt? block line column).1 = some (token, index) ↔
            start ≤ column ∧ column < start + found.renderedLength := by
  have hfaithful := hreach.faithful
  refine ⟨fun column token index => ⟨fun hfound => ?_, ?_⟩,
    fun column => ⟨fun hnone => ?_, fun hreason => ?_⟩,
    fun index content hline hlocated => ⟨?_, fun token hlow hhigh => ?_⟩⟩
  · obtain ⟨other, content, hline, hlocated⟩ := exists_lineAt_of_tokenAt? hanalysis hfound
    obtain ⟨rfl, hbelongs⟩ :=
      (hfaithful.tokenAt?_eq_some_iff hanalysis hline hlocated).mp hfound
    obtain ⟨hlow, hhigh⟩ := hfaithful.between_of_belongsAt hanalysis hline hlocated hbelongs
    exact ⟨content, hline, hlocated, hlow, hhigh, hbelongs⟩
  · rintro ⟨content, hline, hlocated, -, -, hbelongs⟩
    exact (hfaithful.tokenAt?_eq_some_iff hanalysis hline hlocated).mpr ⟨rfl, hbelongs⟩
  · rcases hfaithful.lineAt_cases hanalysis block line with hblock | hshort |
      ⟨index, content, hline⟩
    · exact .inl hblock
    · exact .inr (.inl hshort)
    · refine .inr (.inr ⟨index, content, hline, ?_⟩)
      by_cases hlocated : ∃ location, content.kind = .located location
      · exact .inl hlocated
      · rw [not_exists] at hlocated
        exact .inr ((hfaithful.tokenAt?_eq_none_iff hanalysis hline hlocated).mp hnone)
  · by_contra hfound
    obtain ⟨found, hfound⟩ := Option.ne_none_iff_exists'.mp hfound
    -- a token is found in a line of a block
    obtain ⟨index, content, hline, hlocated⟩ := exists_lineAt_of_tokenAt? hanalysis hfound
    obtain ⟨hblock, hplace⟩ := hline.inside
    rcases hreason with houtside | ⟨short, hshort, hlength⟩ | ⟨other, same, hsame, hreason⟩
    · exact absurd hblock (Nat.not_lt.mpr houtside)
    · exact absurd (hplace short hshort) (Nat.not_lt.mpr hlength)
    · obtain ⟨rfl, rfl⟩ := hline.unique hsame
      rcases hreason with ⟨location, hkind⟩ | hreason
      · exact hlocated location hkind
      · rw [(hfaithful.tokenAt?_eq_none_iff hanalysis hline hlocated).mpr hreason] at hfound
        cases hfound
  · obtain ⟨shown, columns, hrender, hshown⟩ :=
      hfaithful.exists_renderLine hanalysis hline hlocated
    exact ⟨shown, columns, hrender, by rw [map_fst_ownedBytes, hshown]⟩
  · exact hfaithful.exists_columns_of_token hanalysis hline hlocated hlow hhigh

set_option maxRecDepth 10000 in
/-- The session has rendered its block in color.  The mnemonic is filled up, so column 5
belongs to no token, and the line break of two characters is found at column 14. -/
theorem columns_find_their_tokens_sample :
    ∃ (session : Session) (analysis : Analysis) (content : Line), session.Reachable ∧
      session.analysis? = some analysis ∧ session.options.syntaxColoring = true ∧
      session.loaded.map (·.renderings.map Option.isSome) = some [true] ∧
      analysis.LineAt ⟨0, 0⟩ 0 content ∧ content.tokenIndex ≤ 4 ∧ 4 < content.tokenEnd ∧
      (session.tokenAt? 0 0 14).1 = some (4, 0) ∧
      BelongsAt ((session.renderer analysis).partsOf content) 14 (some 4) ∧
      (session.tokenAt? 0 0 5).1 = none ∧
      BelongsAt ((session.renderer analysis).partsOf content) 5 none := by
  let loaded := (fresh.change .none (.load (.direct " je .L\r\n".toList .intel {}))).2
  let session := (loaded.ask (.blockText 0)).2
  have hreach : session.Reachable := (Reachable.fresh.change .none _).ask _
  have heval : session.analysis?.isSome ∧ session.options.syntaxColoring = true ∧
      session.loaded.map (·.renderings.map Option.isSome) = some [true] ∧
      (session.tokenAt? 0 0 14).1 = some (4, 0) ∧ (session.tokenAt? 0 0 5).1 = none := by
    decide +kernel
  obtain ⟨hsome, hcolor, hkept, hbreak, hspace⟩ := heval
  obtain ⟨analysis, hanalysis⟩ := Option.isSome_iff_exists.mp hsome
  obtain ⟨hfound, hnone, -⟩ := columns_find_their_tokens hreach hanalysis 0 0
  obtain ⟨content, hline, hlocated, hlow, hhigh, hbelongs⟩ := (hfound 14 4 0).mp hbreak
  refine ⟨session, analysis, content, hreach, hanalysis, hcolor, hkept, hline, hlow, hhigh, hbreak,
    hbelongs, hspace, ?_⟩
  obtain ⟨hblock, hplace⟩ := hline.inside
  rcases (hnone 5).mp hspace with houtside | ⟨short, hshort, hlength⟩ |
    ⟨other, same, hsame, ⟨location, hkind⟩ | hpadding | hend⟩
  · exact absurd hblock (Nat.not_lt.mpr houtside)
  · exact absurd (hplace short hshort) (Nat.not_lt.mpr hlength)
  all_goals obtain ⟨rfl, rfl⟩ := hline.unique hsame
  · exact absurd hkind (hlocated location)
  · exact hpadding
  · have hcolumn := exists_belongsAt_iff.mp ⟨_, hbelongs⟩
    omega

end Session

end AsmListing
