import AsmListing.Proofs.Borders
import AsmListing.Proofs.LineBreaks
import Mathlib.Algebra.BigOperators.Group.Finset.Basic

/-!
# Aligned positions

The padding of short mnemonics is worked out twice.  While the tokenizer reads, it
carries what the last mnemonic owes, and settles it at the next token; the renderer
looks at two neighbouring tokens of a line and writes spaces between them.  Both
count the same padding.

* One call of the cursor: what it owes afterwards is the padding after the token it
  has read (`Cursor.owed_eq_padding`).
* A whole run: a token is moved by the padding of all tokens before it, except that
  blanks are not moved by the padding right before them (`Cursor.aligned_tokens`).
* A line: nothing is owed at its start, so inside of it tokens are moved by the
  padding of the line (`aligned_of_append`), which makes up the columns of the
  renderer (`Renderer.lineColumns_eq`).
-/

namespace AsmListing

open Finset

/-- The padding before the token at an index, if `owed` is the padding before the
first one. -/
def paddingBefore (dialect : Dialect) (owed : Nat) (tokens : List Token) : Nat → Nat
  | 0 => owed
  | index + 1 => paddingAfter dialect tokens index

/-! ## Padding that is owed -/

theorem paddingAfter_cons_zero (dialect : Dialect) (token : Token) (tokens : List Token) :
    paddingAfter dialect (token :: tokens) 0 = padding dialect token tokens.head? := by
  simp [paddingAfter, List.head?_eq_getElem?]

theorem paddingAfter_cons_succ (dialect : Dialect) (token : Token) (tokens : List Token)
    (index : Nat) :
    paddingAfter dialect (token :: tokens) (index + 1) = paddingAfter dialect tokens index := by
  simp [paddingAfter]

theorem paddingBefore_cons_succ (dialect : Dialect) (owed : Nat) (token : Token)
    (tokens : List Token) (index : Nat) :
    paddingBefore dialect owed (token :: tokens) (index + 1) =
      paddingBefore dialect (padding dialect token tokens.head?) tokens index := by
  cases index with
  | zero => exact paddingAfter_cons_zero dialect token tokens
  | succ index => exact paddingAfter_cons_succ dialect token tokens index

namespace Cursor

/-- A cursor before a line break owes nothing. -/
def Settled (cursor : Cursor) : Prop :=
  ∀ first ∈ cursor.rest.head?, isLineBreak first → cursor.owed = 0

theorem head?_tokens (dialect : Dialect) (cursor : Cursor) :
    (cursor.tokens dialect).head? = (cursor.next? dialect).map Prod.fst := by
  cases hnext : cursor.next? dialect with
  | none => rw [tokens_of_next?_eq_none hnext]; rfl
  | some read => rw [tokens_of_next?_eq_some hnext]; rfl

/-- What a token owes is the padding after it: the character that comes next is a
line break exactly if the token that comes next is one. -/
theorem owed_eq_padding {dialect : Dialect} {cursor following : Cursor} {token : Token}
    (hnext : cursor.next? dialect = some (token, following)) :
    following.owed = padding dialect token (following.tokens dialect).head? := by
  obtain ⟨-, -, howed⟩ := alignment_of_next? hnext
  rw [howed, head?_tokens]
  cases hfollowing : following.next? dialect with
  | none =>
      rw [next?_eq_none.mp hfollowing]
      rfl
  | some read =>
      obtain ⟨spelling, hne, hrest, -⟩ := next?_eq_some hfollowing
      obtain ⟨first, body, rfl⟩ := List.exists_cons_of_ne_nil hne
      have hkind : read.1.kind = .newLine ↔ isLineBreak first := by
        simpa [hrest] using kind_eq_newLine hfollowing
      have hbreak : (read.1.kind != .newLine) = !isLineBreak first := by
        rw [Bool.eq_iff_iff]
        simp [hkind]
      rw [hrest, List.cons_append]
      simp only [owedBy, padding, Option.map_some, hbreak]

theorem settled_of_next? {dialect : Dialect} {cursor following : Cursor} {token : Token}
    (hnext : cursor.next? dialect = some (token, following)) : following.Settled := by
  obtain ⟨-, -, howed⟩ := alignment_of_next? hnext
  intro first hfirst hbreak
  obtain ⟨rest, hrest⟩ := List.head?_eq_some_iff.mp hfirst
  simp [howed, hrest, owedBy, hbreak]

/-- How the tokens after a cursor are moved.  The induction follows the run of the
cursor: what is still owed when it starts counts as padding before its first
token. -/
theorem aligned_tokens (dialect : Dialect) (cursor : Cursor) :
    cursor.Settled → ∀ (index : Nat) (token : Token), (cursor.tokens dialect)[index]? = some token →
      token.aligned + (if token.kind = .misc then
          paddingBefore dialect cursor.owed (cursor.tokens dialect) index else 0) =
        token.position + cursor.shift + cursor.owed +
          ∑ earlier ∈ range index, paddingAfter dialect (cursor.tokens dialect) earlier := by
  fun_induction tokens dialect cursor with
  | case1 cursor hnext => simp
  | case2 cursor first following hnext ih =>
      intro hsettled index token htoken
      obtain ⟨haligned, hshift, -⟩ := alignment_of_next? hnext
      have howed := owed_eq_padding hnext
      -- a line break cancels nothing
      have hkept : first.kind = .newLine → cursor.owed = 0 := by
        intro hkind
        obtain ⟨character, hcharacter, hbreak⟩ := (kind_eq_newLine hnext).mp hkind
        exact hsettled character hcharacter hbreak
      cases index with
      | zero =>
          obtain rfl : first = token := by simpa using htoken
          rw [haligned, settledOn, sum_range_zero, paddingBefore]
          by_cases hnewLine : first.kind = .newLine
          · simp [hnewLine, hkept hnewLine]
          · by_cases hmisc : first.kind = .misc <;> simp [hnewLine, hmisc, Nat.add_assoc]
      | succ index =>
          have hrest := ih (settled_of_next? hnext) index token (by simpa using htoken)
          have hafter : settledAfter first.kind cursor.owed = cursor.owed := by
            unfold settledAfter
            split
            · next hkind => exact (hkept hkind).symm
            · rfl
          rw [hshift, hafter, howed] at hrest
          rw [paddingBefore_cons_succ, sum_range_succ', paddingAfter_cons_zero]
          simp only [paddingAfter_cons_succ]
          omega

end Cursor

/-! ## The tokens of a listing -/

theorem aligned_tokenize {dialect : Dialect} {text : Text} {index : Nat} {token : Token}
    (htoken : (tokenize dialect text)[index]? = some token) :
    token.aligned + (if token.kind = .misc then
        paddingBefore dialect 0 (tokenize dialect text) index else 0) =
      token.position +
        ∑ earlier ∈ range index, paddingAfter dialect (tokenize dialect text) earlier :=
  Cursor.aligned_tokens dialect (.start text) (fun _ _ _ => rfl) index token htoken

theorem paddingAfter_eq_zero {dialect : Dialect} (hdialect : dialect ≠ .intel)
    (tokens : List Token) (index : Nat) : paddingAfter dialect tokens index = 0 := by
  have haligns : dialect.alignsInstructions = false := by
    cases dialect <;> simp_all [Dialect.alignsInstructions]
  unfold paddingAfter padding
  split
  · rfl
  · split <;> simp [haligns]

theorem aligned_eq_position {dialect : Dialect} (hdialect : dialect ≠ .intel) {text : Text} :
    ∀ token ∈ tokenize dialect text, token.aligned = token.position := by
  intro token htoken
  obtain ⟨index, hindex⟩ := List.mem_iff_getElem?.mp htoken
  have haligned := aligned_tokenize hindex
  have hsum : ∑ earlier ∈ range index, paddingAfter dialect (tokenize dialect text) earlier = 0 :=
    sum_eq_zero fun earlier _ => paddingAfter_eq_zero hdialect _ earlier
  have hbefore : paddingBefore dialect 0 (tokenize dialect text) index = 0 := by
    cases index with
    | zero => rfl
    | succ index => exact paddingAfter_eq_zero hdialect _ index
  simpa [hsum, hbefore] using haligned

theorem pairwise_aligned_tokenize (dialect : Dialect) (text : Text) :
    (tokenize dialect text).Pairwise fun earlier later => earlier.aligned ≤ later.aligned := by
  have hchain := (tiles_tokenize dialect text).isChain
  have hstep : (tokenize dialect text).IsChain fun earlier later =>
      earlier.aligned ≤ later.aligned := by
    rw [List.isChain_iff_getElem] at hchain ⊢
    intro index hindex
    have hposition := hchain index hindex
    have hearlier := aligned_tokenize (List.getElem?_eq_getElem (Nat.lt_of_succ_lt hindex))
    have hlater := aligned_tokenize (List.getElem?_eq_getElem hindex)
    rw [sum_range_succ, paddingBefore] at hlater
    rw [Token.stop] at hposition
    split at hlater <;> omega
  exact List.isChain_iff_pairwise.mp hstep

/-! ## The tokens of a line -/

/-- A line of the listing is a part of its tokens, and starts after a line
break. -/
theorem exists_append_of_mem_listingLines {dialect : Dialect} {options : Options} {text : Text}
    {line : List Token} (hline : line ∈ listingLines dialect options text) :
    ∃ before after, tokenize dialect text = before ++ line ++ after ∧
      ∀ last ∈ before.getLast?, last.kind = .newLine := by
  obtain ⟨header, htokens, hheader⟩ := exists_header options (tokenize dialect text)
  rw [listingLines_eq] at hline
  obtain ⟨earlier, later, hlines⟩ := List.append_of_mem hline
  have hne := ne_nil_of_splitBy_eq_append hlines
  have hbody : bodyTokens options (tokenize dialect text) =
      earlier.flatten ++ line ++ later.flatten := by
    rw [← List.flatten_splitBy (fun token _ => token.kind != .newLine)
      (bodyTokens options (tokenize dialect text)), ← tokenLines, hlines]
    simp
  refine ⟨header ++ earlier.flatten, later.flatten, ?_, fun last hlast => ?_⟩
  · rw [htokens, hbody]
    simp
  · rw [List.getLast?_append] at hlast
    cases hearlier : earlier.flatten.getLast? with
    | some final =>
        -- the line before ends in a line break
        have hborder := related_eq_false_of_append hlines hearlier (List.head?_eq_some_head hne)
        obtain rfl : final = last := by simpa [hearlier] using hlast
        simpa using hborder
    | none =>
        refine hheader.resolve_left ?_ last (by simpa [hearlier] using hlast)
        simp [hbody, hne]

theorem paddingAfter_append (dialect : Dialect) (before tokens after : List Token) {index : Nat}
    (hindex : index + 1 < tokens.length) :
    paddingAfter dialect (before ++ tokens ++ after) (before.length + index) =
      paddingAfter dialect tokens index := by
  simp only [paddingAfter, Nat.add_assoc,
    getElem?_append_append before tokens after (Nat.lt_of_succ_lt hindex),
    getElem?_append_append before tokens after hindex]

theorem padding_of_newLine (dialect : Dialect) {token : Token} (hkind : token.kind = .newLine)
    (next : Option Token) : padding dialect token next = 0 := by
  cases next <;> simp [padding, hkind, TokenKind.isInstruction]

/-- Nothing is owed at the start of a line. -/
theorem paddingBefore_length (dialect : Dialect) {before : List Token} (after : List Token)
    (hbefore : ∀ last ∈ before.getLast?, last.kind = .newLine) :
    paddingBefore dialect 0 (before ++ after) before.length = 0 := by
  rcases before.eq_nil_or_concat' with rfl | ⟨earlier, last, rfl⟩
  · rfl
  · have hlast : (earlier ++ [last] ++ after)[earlier.length]? = some last := by simp
    rw [List.length_append, List.length_singleton, paddingBefore, paddingAfter, hlast]
    exact padding_of_newLine dialect (hbefore last (by simp)) _

/-- Along a line, a token is moved by the padding between it and the start of the
line. -/
theorem aligned_of_append {dialect : Dialect} {text : Text} {before group after : List Token}
    (happend : tokenize dialect text = before ++ group ++ after)
    (hbefore : ∀ last ∈ before.getLast?, last.kind = .newLine) {first token : Token} {place : Nat}
    (hfirst : group.head? = some first) (htoken : group[place]? = some token)
    (hmisc : token.kind ≠ .misc) :
    token.aligned + first.position =
      first.aligned + token.position +
        ∑ earlier ∈ range place, paddingAfter dialect group earlier := by
  have hplace := (List.getElem?_eq_some_iff.mp htoken).1
  have hstart : (tokenize dialect text)[before.length]? = some first := by
    have hpos : 0 < group.length := by omega
    have hget := getElem?_append_append before group after hpos
    rwa [← happend, Nat.add_zero, ← List.head?_eq_getElem?, hfirst] at hget
  have hthere : (tokenize dialect text)[before.length + place]? = some token := by
    rw [happend, getElem?_append_append before group after hplace, htoken]
  have howed : paddingBefore dialect 0 (tokenize dialect text) before.length = 0 := by
    rw [happend, List.append_assoc]
    exact paddingBefore_length dialect _ hbefore
  have hsum : ∑ earlier ∈ range place,
      paddingAfter dialect (tokenize dialect text) (before.length + earlier) =
        ∑ earlier ∈ range place, paddingAfter dialect group earlier := by
    refine sum_congr rfl fun earlier hearlier => ?_
    rw [mem_range] at hearlier
    rw [happend, paddingAfter_append dialect before group after (by omega)]
  have hlater := aligned_tokenize hthere
  have hearlier := aligned_tokenize hstart
  rw [howed, ite_self, Nat.add_zero] at hearlier
  rw [if_neg hmisc, Nat.add_zero, sum_range_add, hsum] at hlater
  omega

/-! ## Columns -/

/-- `text.StandsAt part column`: from byte `column` on, a text reads `part`. -/
def Text.StandsAt (text part : Text) (column : Nat) : Prop :=
  ∃ before after, text = before ++ part ++ after ∧ before.byteSize = column

namespace Renderer

variable (renderer : Renderer)

/-- Without color, the tokens of a line stand at their columns. -/
theorem standsAt_lineColumns {tokens : List Token} :
    ∀ {start place column : Nat} {token : Token}, tokens[place]? = some token →
      (renderer.lineColumns start tokens)[place]? = some column →
        ∃ before after, renderer.lineText false tokens =
          before ++ renderer.spelling token ++ after ∧ start + before.byteSize = column := by
  induction tokens with
  | nil => simp
  | cons first rest ih =>
      intro start place column token htoken hcolumn
      rw [lineText, paint_false]
      cases place with
      | zero =>
          obtain rfl : first = token := by simpa using htoken
          obtain rfl : start = column := by simpa [lineColumns] using hcolumn
          exact ⟨[], _, by rw [List.nil_append, List.append_assoc], rfl⟩
      | succ place =>
          obtain ⟨before, after, htext, hstart⟩ := ih (by simpa using htoken)
            (by simpa [lineColumns] using hcolumn)
          refine ⟨_, after, by rw [htext, ← List.append_assoc, ← List.append_assoc], ?_⟩
          rw [Text.byteSize_append, Text.byteSize_append, byteSize_replicate_space]
          omega

theorem lineColumns_congr {marked tokens : List Token}
    (hmarked : List.Forall₂ Token.Relabels marked tokens) (start : Nat) :
    renderer.lineColumns start marked = renderer.lineColumns start tokens := by
  induction hmarked generalizing start with
  | nil => rfl
  | @cons first token rest following hfirst hrest ih =>
      have hspelling : renderer.spelling first = renderer.spelling token := by
        simp only [spelling, hfirst.newLine_iff, hfirst.text_eq]
      rw [lineColumns, lineColumns, padding_eq_gapBefore, padding_eq_gapBefore,
        gapBefore_congr _ hfirst hrest, hspelling, ih]

/-- The columns of a line are the distances of its tokens from its start, with the
padding between them. -/
theorem lineColumns_eq {tokens : List Token}
    (hchain : tokens.IsChain fun token following => following.position = token.stop)
    (hinside : ∀ token ∈ tokens.dropLast, token.kind ≠ .newLine)
    (htexts : ∀ token ∈ tokens, (token.text renderer.text).byteSize = token.length) :
    ∀ {start place : Nat} {first token : Token}, tokens.head? = some first →
      tokens[place]? = some token →
        ∃ column, (renderer.lineColumns start tokens)[place]? = some column ∧
          column + first.position = start + token.position +
            ∑ earlier ∈ range place, paddingAfter renderer.dialect tokens earlier := by
  induction tokens with
  | nil => simp
  | cons head rest ih =>
      intro start place first token hfirst htoken
      obtain rfl : head = first := by simpa using hfirst
      cases place with
      | zero =>
          obtain rfl : head = token := by simpa using htoken
          exact ⟨start, by simp [lineColumns], by simp⟩
      | succ place =>
          rw [List.getElem?_cons_succ] at htoken
          have hne : rest ≠ [] := by
            rintro rfl
            simp at htoken
          obtain ⟨second, others, rfl⟩ := List.exists_cons_of_ne_nil hne
          obtain ⟨hposition, hrest⟩ := List.isChain_cons_cons.mp hchain
          rw [List.dropLast_cons_of_ne_nil hne] at hinside
          have hwidth : (renderer.spelling head).byteSize = head.length := by
            rw [spelling, if_neg (hinside head List.mem_cons_self)]
            exact htexts head List.mem_cons_self
          obtain ⟨column, hcolumn, hsum⟩ := ih hrest
            (fun other hother => hinside other (List.mem_cons_of_mem _ hother))
            (fun other hother => htexts other (List.mem_cons_of_mem _ hother)) rfl htoken
          refine ⟨column, by rw [lineColumns, List.getElem?_cons_succ]; exact hcolumn, ?_⟩
          rw [hwidth, hposition, Token.stop] at hsum
          rw [sum_range_succ', paddingAfter_cons_zero]
          simp only [paddingAfter_cons_succ]
          omega

end Renderer

/-! ## The lines of an analysis -/

theorem Token.Relabels.aligned_eq {marked token : Token} (hmarked : marked.Relabels token) :
    marked.aligned = token.aligned := by
  rcases hmarked with rfl | ⟨-, rfl⟩ <;> rfl

theorem Token.Relabels.ne_misc {marked token : Token} (hmarked : marked.Relabels token)
    (hmisc : marked.kind ≠ .misc) : token.kind ≠ .misc := by
  rcases hmarked with rfl | ⟨hnames, -⟩
  · exact hmisc
  · intro hkind
    simp [hkind, TokenKind.namesTarget] at hnames

/-- In a stored line, the distance of a token from the first one, as the tokenizer
aligned them, is the column of the token. -/
theorem Renderer.aligned_eq_column (renderer : Renderer) {options : Options} {line : StoredLine}
    (hline : line.source ∈ listingLines renderer.dialect options renderer.text)
    {first token : Token} {place : Nat} (hfirst : line.tokens.head? = some first)
    (htoken : line.tokens[place]? = some token) (hmisc : token.kind ≠ .misc) :
    ∃ column, (renderer.lineColumns 0 line.tokens)[place]? = some column ∧
      token.aligned = first.aligned + column := by
  have hmarked := line.forall₂_relabels_tokens
  -- targets that have become labels are where they were
  rw [List.head?_eq_getElem?] at hfirst
  obtain ⟨head, hhead, hheadMarked⟩ := exists_getElem?_of_forall₂ hmarked hfirst
  obtain ⟨read, hread, hreadMarked⟩ := exists_getElem?_of_forall₂ hmarked htoken
  rw [← List.head?_eq_getElem?] at hhead
  obtain ⟨before, after, happend, hbefore⟩ := exists_append_of_mem_listingLines hline
  have hchain : line.source.IsChain fun token following => following.position = token.stop := by
    have hall := (tiles_tokenize renderer.dialect renderer.text).isChain
    rw [happend] at hall
    exact hall.left_of_append.right_of_append
  have hinside : ∀ token ∈ line.source.dropLast, token.kind ≠ .newLine := by
    rw [listingLines_eq] at hline
    exact newLine_notMem_dropLast hline
  have htexts : ∀ token ∈ line.source, (token.text renderer.text).byteSize = token.length :=
    fun token htoken =>
      byteSize_text_of_mem_tokenize (mem_tokenize_of_mem_listingLines hline token htoken)
  obtain ⟨column, hcolumn, hsum⟩ := renderer.lineColumns_eq hchain hinside htexts hhead hread
  have haligned := aligned_of_append happend hbefore hhead hread (hreadMarked.ne_misc hmisc)
  refine ⟨column, by rw [renderer.lineColumns_congr hmarked]; exact hcolumn, ?_⟩
  rw [hheadMarked.aligned_eq, hreadMarked.aligned_eq]
  omega

/-- The record of a line leads to the line that was read. -/
theorem LaidOut.exists_stored {context : Context} {read : SourceTable × List StoredLine}
    {analysis : Analysis} (hlaid : LaidOut context read analysis) {index : Nat} {record : Line}
    (hrecord : analysis.lines[index]? = some record) :
    ∃ before stored after, read.2 = before ++ stored :: after ∧ before.length = index ∧
      record = ⟨stored.kind, (before.flatMap StoredLine.tokens).length, stored.tokens.length⟩ := by
  obtain ⟨stored, hstored, -⟩ := hlaid.kind_eq hrecord
  obtain ⟨before, after, hlines, rfl⟩ := exists_append_of_getElem? hstored
  rw [hlaid.lines_eq, hlines, getElem?_lineRecords] at hrecord
  exact ⟨before, stored, after, hlines, rfl, (Option.some.inj hrecord).symm⟩

theorem Renderer.showLine_of_ne_located (renderer : Renderer) (colored : Bool) {line : StoredLine}
    (hlocated : ∀ location, line.kind ≠ .located location) :
    renderer.showLine colored line =
      (renderer.lineText colored line.tokens, renderer.lineColumns 0 line.tokens) := by
  unfold showLine
  split
  · next location hkind => exact absurd hkind (hlocated location)
  · rfl

/-- In a line that is rendered, the tokens other than blanks stand where they were
aligned. -/
theorem LaidOut.exists_columns {context : Context} {read : SourceTable × List StoredLine}
    {analysis : Analysis} (hlaid : LaidOut context read analysis) {index : Nat} {record : Line}
    (hrecord : analysis.lines[index]? = some record)
    (hlocated : ∀ location, record.kind ≠ .located location)
    (hsource : ∀ line ∈ read.2, line.source ≠ [] ∧
      line.source ∈ listingLines context.dialect context.options context.text)
    (options : Options) :
    ∃ tokens first, record.tokens? analysis.tokens = some tokens ∧ tokens.head? = some first ∧
      ∀ colored, ∃ shown columns,
        (analysis.renderer context.text options).renderLine colored index record =
          .ok (shown, columns) ∧
        ∀ (place : Nat) (token : Token), tokens[place]? = some token → token.kind ≠ .misc →
          ∃ column, columns[place]? = some column ∧ token.aligned = first.aligned + column ∧
            (colored = false → shown.StandsAt
              ((analysis.renderer context.text options).spelling token) column) := by
  obtain ⟨before, stored, after, hlines, rfl, rfl⟩ := hlaid.exists_stored hrecord
  obtain ⟨hne, hline⟩ := hsource stored (by simp [hlines])
  rw [← hlaid.dialect_eq] at hline
  have hfirst := List.head?_eq_some_head (StoredLine.tokens_ne_nil hne)
  refine ⟨stored.tokens, _, ?_, hfirst, fun colored => ?_⟩
  · rw [hlaid.tokens_eq, hlines, tokens?_lineRecord]
  · have hrender := (hlaid.shows context.text options).renderLine_eq colored hlines
    rw [Renderer.showLine_of_ne_located _ _ hlocated] at hrender
    refine ⟨_, _, hrender, fun place token htoken hmisc => ?_⟩
    obtain ⟨column, hcolumn, haligned⟩ :=
      (analysis.renderer context.text options).aligned_eq_column hline hfirst htoken hmisc
    refine ⟨column, hcolumn, haligned, ?_⟩
    rintro rfl
    obtain ⟨front, back, hshown, hstart⟩ :=
      (analysis.renderer context.text options).standsAt_lineColumns htoken hcolumn
    exact ⟨front, back, hshown, by rw [← hstart, Nat.zero_add]⟩

theorem source_mem_listingLines {files : Files} {dialect : Dialect} {options : Options}
    {text : Text} {read : SourceTable × List StoredLine}
    (hread : readLines ⟨files, dialect, options, text⟩ .empty
      (listingLines dialect options text) = .ok read) :
    ∀ line ∈ read.2, line.source ∈ listingLines dialect options text := by
  intro line hline
  have hkept : line.source ∈ keptLines dialect options text := by
    rw [← map_source_eq_keptLines hread]
    exact List.mem_map_of_mem hline
  rw [listingLines_eq]
  exact List.mem_of_mem_filter hkept

/-- Aligned positions are positions with the padding of the tokens before them.
Only blanks are not moved by the padding right before them.  So nothing moves
where nothing is padded, and tokens stay in order.  In a line that is rendered,
the distance of a token other than blanks from the first one is the column at
which the renderer places it. -/
theorem aligned_positions_count_padding (dialect : Dialect) (text : Text) :
    (∀ (index : Nat) (token : Token), (tokenize dialect text)[index]? = some token →
      token.aligned + (if 0 < index ∧ token.kind = .misc then
          paddingAfter dialect (tokenize dialect text) (index - 1) else 0) =
        token.position +
          ∑ earlier ∈ range index, paddingAfter dialect (tokenize dialect text) earlier) ∧
    (dialect ≠ .intel → ∀ token ∈ tokenize dialect text, token.aligned = token.position) ∧
    ((tokenize dialect text).Pairwise fun earlier later => earlier.aligned ≤ later.aligned) ∧
    ∀ (files : Files) (options : Options) (analysis : Analysis),
      analyze files dialect options text = .ok analysis →
      ∀ (index : Nat) (line : Line), analysis.lines[index]? = some line →
        (∀ location, line.kind ≠ .located location) →
        ∃ tokens first, line.tokens? analysis.tokens = some tokens ∧ tokens.head? = some first ∧
          ∀ colored, ∃ shown columns,
            (analysis.renderer text options).renderLine colored index line =
              .ok (shown, columns) ∧
            ∀ (place : Nat) (token : Token), tokens[place]? = some token → token.kind ≠ .misc →
              ∃ column, columns[place]? = some column ∧
                token.aligned = first.aligned + column ∧
                (colored = false → shown.StandsAt
                  ((analysis.renderer text options).spelling token) column) := by
  refine ⟨fun index token htoken => ?_, fun hdialect => aligned_eq_position hdialect,
    pairwise_aligned_tokenize dialect text, ?_⟩
  · rw [← aligned_tokenize htoken]
    cases index with
    | zero => simp [paddingBefore]
    | succ index => simp [paddingBefore]
  · intro files options analysis hanalysis index record hrecord hlocated
    obtain ⟨read, hread, hlaid⟩ := exists_laidOut hanalysis
    refine hlaid.exists_columns hrecord hlocated (fun line hline => ⟨?_, ?_⟩) options
    · exact (source_of_readLines hread line hline).1
    · exact source_mem_listingLines hread line hline

set_option maxRecDepth 10000 in
/-- The mnemonic is filled up to ten bytes.  The blank after it keeps its place, and
the target, at byte 4 of the listing, is moved to column 12. -/
theorem aligned_positions_count_padding_sample :
    ∃ analysis shown columns, analyze .none .intel {} " je .L".toList = .ok analysis ∧
      analysis.tokens.map (·.aligned) = [0, 1, 3, 12] ∧
      (analysis.renderer " je .L".toList {}).renderLine true 0 ⟨.codeBranch, 0, 4⟩ =
        .ok (shown, columns) ∧
      columns[3]? = some 12 := by
  have heval : (analyze .none .intel {} " je .L".toList).toOption.map
      (fun analysis => (analysis.lines, analysis.tokens)) =
      some ([⟨.codeBranch, 0, 4⟩], [⟨.misc, 0, 0, 1⟩, ⟨.branch, 1, 1, 2⟩, ⟨.misc, 3, 3, 1⟩,
        ⟨.label, 4, 12, 2⟩]) := by
    decide +kernel
  obtain ⟨analysis, hanalysis, heval⟩ := Option.map_eq_some_iff.mp heval
  rw [Fallible.toOption_eq_some] at hanalysis
  obtain ⟨hlines, htokens⟩ := Prod.mk.inj heval
  obtain ⟨-, -, -, hcolumns⟩ := aligned_positions_count_padding .intel " je .L".toList
  obtain ⟨tokens, first, hslice, hfirst, hrendered⟩ :=
    hcolumns .none {} analysis hanalysis 0 ⟨.codeBranch, 0, 4⟩ (by rw [hlines]; rfl) (by simp)
  rw [htokens] at hslice
  cases hslice
  cases hfirst
  obtain ⟨shown, columns, hrender, hplaces⟩ := hrendered true
  obtain ⟨column, hcolumn, haligned, -⟩ := hplaces 3 ⟨.label, 4, 12, 2⟩ rfl (by simp)
  obtain rfl : column = 12 := by simpa using haligned.symm
  exact ⟨analysis, shown, columns, hanalysis, by rw [htokens]; rfl, hrender, hcolumn⟩

end AsmListing
