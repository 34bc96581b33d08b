import AsmListing.Proofs.Reachable
import AsmListing.Proofs.Spans

/-!
# From a byte to its block

A session finds the block of a byte by bisection among the spans from some block on.
Here this is compared with the renderings themselves.  `ownedBytes` puts texts end to
end and remembers of every byte which text it comes from; no offset is computed.

* `belongsAt_cons_iff` takes the texts one by one, so an owner can be found by the
  lengths of the texts before it (`belongsAt_zipIdx_iff`).
* The spans of an analyzed listing are in order and none is empty, so bisection finds
  the one span that contains an offset (`Session.findBlock?_eq_some_iff`), unless the
  search starts after it.
* A span contains the offsets whose bytes belong to its block
  (`LaidOut.exists_span_contains_iff`).
-/

namespace AsmListing

/-- The bytes of texts put end to end, each with the owner of its text. -/
def ownedBytes {α : Type} (parts : List (Text × α)) : List (UInt8 × α) :=
  parts.flatMap fun part => part.1.bytes.map (·, part.2)

/-- There is a byte at an offset of texts put end to end, and it belongs to `owner`. -/
def BelongsAt {α : Type} (parts : List (Text × α)) (offset : Nat) (owner : α) : Prop :=
  ∃ byte, (ownedBytes parts)[offset]? = some (byte, owner)

/-! ## Bytes and their owners -/

theorem map_fst_ownedBytes {α : Type} (parts : List (Text × α)) :
    (ownedBytes parts).map Prod.fst = Text.bytes (parts.flatMap Prod.fst) := by
  induction parts with
  | nil => rfl
  | cons part rest ih =>
      rw [ownedBytes, List.flatMap_cons, List.map_append, ← ownedBytes, ih, List.flatMap_cons,
        Text.bytes_append, List.map_map]
      congr 1
      exact List.map_id _

theorem length_ownedBytes {α : Type} (parts : List (Text × α)) :
    (ownedBytes parts).length = Text.byteSize (parts.flatMap Prod.fst) := by
  rw [← List.length_map Prod.fst, map_fst_ownedBytes, Text.length_bytes]

theorem flatMap_fst_zipIdx (texts : List Text) : texts.zipIdx.flatMap Prod.fst = texts.flatten := by
  rw [List.flatMap_def, List.zipIdx_map_fst]

theorem BelongsAt.unique {α : Type} {parts : List (Text × α)} {offset : Nat} {owner other : α}
    (hbelongs : BelongsAt parts offset owner) (hother : BelongsAt parts offset other) :
    owner = other := by
  obtain ⟨byte, hbyte⟩ := hbelongs
  obtain ⟨_, hsame⟩ := hother
  rw [hbyte] at hsame
  cases hsame
  rfl

theorem exists_belongsAt_iff {α : Type} {parts : List (Text × α)} {offset : Nat} :
    (∃ owner, BelongsAt parts offset owner) ↔ offset < (ownedBytes parts).length := by
  constructor
  · rintro ⟨owner, byte, hbyte⟩
    exact (List.getElem?_eq_some_iff.mp hbyte).1
  · intro hoffset
    exact ⟨_, _, List.getElem?_eq_getElem hoffset⟩

/-- A byte belongs to the first text, or to one of those after it. -/
theorem belongsAt_cons_iff {α : Type} {text : Text} {first owner : α} {rest : List (Text × α)}
    {offset : Nat} :
    BelongsAt ((text, first) :: rest) offset owner ↔
      offset < text.byteSize ∧ owner = first ∨
        text.byteSize ≤ offset ∧ BelongsAt rest (offset - text.byteSize) owner := by
  have hsplit : ownedBytes ((text, first) :: rest) =
      text.bytes.map (·, first) ++ ownedBytes rest := rfl
  have hlength : (text.bytes.map (·, first)).length = text.byteSize := by
    rw [List.length_map, Text.length_bytes]
  unfold BelongsAt
  rw [hsplit]
  rcases Nat.lt_or_ge offset text.byteSize with hlt | hge
  · have hbyte : offset < text.bytes.length := by rwa [Text.length_bytes]
    rw [List.getElem?_append_left (by rwa [hlength]), List.getElem?_map,
      List.getElem?_eq_getElem hbyte]
    constructor
    · rintro ⟨byte, hfound⟩
      cases hfound
      exact .inl ⟨hlt, rfl⟩
    · rintro (⟨-, rfl⟩ | ⟨hle, -⟩)
      · exact ⟨_, rfl⟩
      · omega
  · rw [List.getElem?_append_right (by rwa [hlength]), hlength]
    constructor
    · intro hrest
      exact .inr ⟨hge, hrest⟩
    · rintro (⟨hlt, -⟩ | ⟨-, hrest⟩)
      · omega
      · exact hrest

/-- A byte belongs to a text of a list if it comes after those before that text and
within its length. -/
theorem belongsAt_zipIdx_iff {texts : List Text} {start offset owner : Nat} :
    BelongsAt (texts.zipIdx start) offset owner ↔
      ∃ index text, owner = start + index ∧ texts[index]? = some text ∧
        Text.byteSize (texts.take index).flatten ≤ offset ∧
        offset < Text.byteSize (texts.take index).flatten + text.byteSize := by
  induction texts generalizing start offset with
  | nil => simp [BelongsAt, ownedBytes]
  | cons first rest ih =>
      rw [List.zipIdx_cons, belongsAt_cons_iff, ih]
      constructor
      · rintro (⟨hlt, rfl⟩ | ⟨hge, index, text, rfl, htext, hlow, hhigh⟩)
        · exact ⟨0, first, rfl, rfl, Nat.zero_le _, by simpa using hlt⟩
        · refine ⟨index + 1, text, by omega, htext, ?_, ?_⟩ <;>
            rw [List.take_succ_cons, List.flatten_cons, Text.byteSize_append] <;> omega
      · rintro ⟨index, text, rfl, htext, hlow, hhigh⟩
        cases index with
        | zero =>
            obtain rfl : first = text := by simpa using htext
            exact .inl ⟨by simpa using hhigh, rfl⟩
        | succ index =>
            rw [List.take_succ_cons, List.flatten_cons, Text.byteSize_append] at hlow hhigh
            exact .inr ⟨by omega, index, text, by omega, htext, by omega, by omega⟩

theorem exists_belongsAt_zipIdx_iff {texts : List Text} {offset : Nat} :
    (∃ index, BelongsAt texts.zipIdx offset index) ↔ offset < Text.byteSize texts.flatten := by
  rw [exists_belongsAt_iff, length_ownedBytes, flatMap_fst_zipIdx]

theorem BelongsAt.lt_of_zipIdx {texts : List Text} {offset index : Nat}
    (hbelongs : BelongsAt texts.zipIdx offset index) : index < texts.length := by
  obtain ⟨place, text, rfl, htext, -⟩ := belongsAt_zipIdx_iff.mp hbelongs
  rw [Nat.zero_add]
  exact (List.getElem?_eq_some_iff.mp htext).1

/-! ## Spans in order -/

theorem le_start_of_mem_spanRecords {dialect : Dialect} {start : Nat}
    {blocks : List (List StoredLine)} :
    ∀ span ∈ spanRecords dialect start blocks, start ≤ span.start := by
  induction blocks generalizing start with
  | nil => simp [spanRecords]
  | cons lines rest ih =>
      intro span hspan
      rcases List.mem_cons.mp hspan with rfl | hspan
      · exact le_rfl
      · exact (Nat.le_add_right _ _).trans (ih span hspan)

theorem pairwise_spanRecords (dialect : Dialect) (start : Nat) (blocks : List (List StoredLine)) :
    (spanRecords dialect start blocks).Pairwise fun earlier later =>
      earlier.stop ≤ later.start := by
  induction blocks generalizing start with
  | nil => exact .nil
  | cons lines rest ih => exact .cons le_start_of_mem_spanRecords (ih _)

theorem BlockSpan.contains_iff (span : BlockSpan) (offset : Nat) :
    span.contains offset = true ↔ span.start ≤ offset ∧ offset < span.stop := by
  simp [contains]

namespace Session

variable {session : Session}
  (hordered : session.spans.Pairwise fun earlier later => earlier.stop ≤ later.start)
  (hpos : ∀ span ∈ session.spans, span.start < span.stop)

include hordered hpos

/-- Of spans that are in order, those that end at an offset or before it come first. -/
theorem pairwise_stop_le (offset first : Nat) :
    (session.spans.drop first).Pairwise fun earlier later =>
      decide (later.stop ≤ offset) = true → decide (earlier.stop ≤ offset) = true := by
  refine (hordered.sublist (List.drop_sublist _ _)).imp_of_mem fun _ hlater hle hstop => ?_
  have hspan := hpos _ (List.mem_of_mem_drop hlater)
  simp only [decide_eq_true_eq] at hstop ⊢
  omega

/-- Among spans in order, the search finds the one that contains an offset, unless it
starts after it. -/
theorem findBlock?_eq_some_iff {offset first index : Nat} :
    session.findBlock? offset first = some index ↔
      first ≤ index ∧ ∃ span, session.spans[index]? = some span ∧ span.contains offset = true := by
  have hborder : ∀ place, place < bisect (·.stop ≤ offset) (session.spans.drop first) ↔
      ∃ span, session.spans[first + place]? = some span ∧ span.stop ≤ offset := by
    intro place
    rw [lt_bisect_iff (pairwise_stop_le hordered hpos offset first), passesAt,
      List.getElem?_drop, Option.any_eq_true]
    simp
  unfold findBlock?
  constructor
  · intro hfound
    split at hfound
    · cases hfound
    · simp only [List.getElem?_drop] at hfound
      split at hfound
      · next span hspan =>
          split at hfound
          · next hcontains =>
              cases hfound
              exact ⟨Nat.le_add_right _ _, span, hspan, hcontains⟩
          · cases hfound
      · cases hfound
  · rintro ⟨hle, span, hspan, hcontains⟩
    obtain ⟨place, rfl⟩ := Nat.exists_eq_add_of_le hle
    obtain ⟨hlow, hhigh⟩ := (span.contains_iff offset).mp hcontains
    have hindex := (List.getElem?_eq_some_iff.mp hspan).1
    -- the border lies right before the span
    have hpassed : bisect (·.stop ≤ offset) (session.spans.drop first) = place := by
      apply le_antisymm
      · by_contra hlt
        obtain ⟨other, hother, hstop⟩ := (hborder place).mp (by omega)
        obtain rfl : span = other := Option.some.inj (hspan.symm.trans hother)
        omega
      · by_contra hlt
        have hbefore : first + (place - 1) < session.spans.length := by omega
        have hnot := (hborder (place - 1)).not.mp (by omega)
        refine hnot ⟨_, List.getElem?_eq_getElem hbefore, ?_⟩
        have hstop := List.pairwise_iff_getElem.mp hordered (first + (place - 1)) (first + place)
          hbefore hindex (by omega)
        rw [List.getElem?_eq_getElem hindex, Option.some.injEq] at hspan
        rw [hspan] at hstop
        omega
    rw [if_neg (by omega)]
    simp only [hpassed, List.getElem?_drop, hspan, hcontains, if_true]

end Session

/-! ## Offsets of an analyzed listing -/

namespace LaidOut

variable {context : Context} {read : SourceTable × List StoredLine} {analysis : Analysis}
  (hlaid : LaidOut context read analysis)
  (hmem : ∀ line ∈ read.2, ∀ token ∈ line.source, token ∈ tokenize context.dialect context.text)
  {texts : List Text}
  (htexts : texts = (read.2.splitBy joins).map (·.flatMap (·.shown context.dialect context.text)))

include hlaid hmem htexts

theorem getElem?_spans {index : Nat} {text : Text} (htext : texts[index]? = some text) :
    analysis.spans[index]? = some ⟨Text.byteSize (texts.take index).flatten,
      Text.byteSize (texts.take index).flatten + text.byteSize⟩ := by
  rw [htexts, List.getElem?_map] at htext
  obtain ⟨block, hblock, rfl⟩ := Option.map_eq_some_iff.mp htext
  rw [hlaid.spans_eq, htexts, ← List.map_take, flatten_map_flatMap]
  exact getElem?_spanRecords_shown
    (fun line hline => hmem line (by rwa [List.flatten_splitBy] at hline)) hblock

/-- The bytes in the span of a block are those that belong to it. -/
theorem exists_span_contains_iff (offset index : Nat) :
    (∃ span, analysis.spans[index]? = some span ∧ span.contains offset = true) ↔
      BelongsAt texts.zipIdx offset index := by
  have hlength : analysis.spans.length = texts.length := by
    rw [hlaid.spans_eq, length_spanRecords, htexts, List.length_map]
  simp only [BlockSpan.contains_iff]
  rw [belongsAt_zipIdx_iff]
  constructor
  · rintro ⟨span, hspan, hlow, hhigh⟩
    have hindex : index < texts.length := by
      rw [← hlength]
      exact (List.getElem?_eq_some_iff.mp hspan).1
    have htext := List.getElem?_eq_getElem hindex
    rw [hlaid.getElem?_spans hmem htexts htext] at hspan
    cases hspan
    exact ⟨index, _, (Nat.zero_add index).symm, htext, hlow, hhigh⟩
  · rintro ⟨place, text, hplace, htext, hlow, hhigh⟩
    rw [Nat.zero_add] at hplace
    subst hplace
    exact ⟨_, hlaid.getElem?_spans hmem htexts htext, hlow, hhigh⟩

end LaidOut

/-- The search for an offset gives the block that the byte at this offset belongs to,
unless that block comes before the first one to be searched. -/
theorem Session.Faithful.exists_texts_findBlock? {session : Session}
    (hfaithful : session.Faithful) {analysis : Analysis}
    (hanalysis : session.analysis? = some analysis) :
    ∃ texts : List Text, (session.renderer analysis).plainTexts = .ok texts ∧
      texts.length = session.blocks.length ∧
      ∀ offset first index, session.findBlock? offset first = some index ↔
        first ≤ index ∧ BelongsAt texts.zipIdx offset index := by
  obtain ⟨files, dialect, hanalyze⟩ := hfaithful.analyzed analysis hanalysis
  obtain ⟨read, hread, hlaid⟩ := exists_laidOut hanalyze
  have hsource := source_of_readLines hread
  have hspans : session.spans = analysis.spans := by
    rw [spans, hanalysis]
    rfl
  have hordered : session.spans.Pairwise fun earlier later => earlier.stop ≤ later.start := by
    rw [hspans, hlaid.spans_eq]
    exact pairwise_spanRecords _ _ _
  have hpos : ∀ span ∈ session.spans, span.start < span.stop := by
    rw [hspans, hlaid.spans_eq]
    exact start_lt_stop_of_mem_spanRecords (shownLength_pos_of_mem_splitBy hsource)
  refine ⟨_, hlaid.plainTexts_eq session.options, ?_, fun offset first index => ?_⟩
  · rw [List.length_map, blocks, hanalysis, ← length_of_map_bare hlaid.blocks_eq]
    rfl
  · rw [findBlock?_eq_some_iff hordered hpos, hspans,
      hlaid.exists_span_contains_iff (fun line hline => (hsource line hline).2) rfl]

/-- Without color, the block of a byte is found by its offset.  If a listing is loaded,
its blocks have texts, and the search for an offset gives the block that the byte at
this offset of all texts belongs to, unless that block comes before the first one to be
searched.  So it fails past the end, for a byte of an earlier block, and if there is no
block to be searched; and among all blocks every byte has exactly one. -/
theorem offsets_find_their_blocks {session : Session} (hreach : session.Reachable)
    {analysis : Analysis} (hanalysis : session.analysis? = some analysis) :
    ∃ texts : List Text, (session.renderer analysis).plainTexts = .ok texts ∧
      (ownedBytes texts.zipIdx).map Prod.fst = Text.bytes texts.flatten ∧
      ∀ offset first,
        (∀ index, session.findBlock? offset first = some index ↔
          first ≤ index ∧ BelongsAt texts.zipIdx offset index) ∧
        (session.findBlock? offset first = none ↔
          Text.byteSize texts.flatten ≤ offset ∨
          (∃ earlier < first, BelongsAt texts.zipIdx offset earlier) ∨
          session.blocks.length ≤ first) ∧
        (offset < Text.byteSize texts.flatten →
          ∃! index, session.findBlock? offset 0 = some index) := by
  obtain ⟨texts, htexts, hcount, hfind⟩ := hreach.faithful.exists_texts_findBlock? hanalysis
  refine ⟨texts, htexts, ?_, fun offset first => ⟨hfind offset first, ⟨?_, ?_⟩, ?_⟩⟩
  · rw [map_fst_ownedBytes, flatMap_fst_zipIdx]
  · intro hnone
    by_cases hoffset : offset < Text.byteSize texts.flatten
    · -- the byte is there, so its block comes too early
      obtain ⟨index, hbelongs⟩ := exists_belongsAt_zipIdx_iff.mpr hoffset
      refine .inr (.inl ⟨index, ?_, hbelongs⟩)
      by_contra hle
      rw [(hfind offset first index).mpr ⟨Nat.le_of_not_lt hle, hbelongs⟩] at hnone
      cases hnone
    · exact .inl (Nat.le_of_not_lt hoffset)
  · intro hreason
    rw [Option.eq_none_iff_forall_ne_some]
    intro index hsome
    obtain ⟨hle, hbelongs⟩ := (hfind offset first index).mp hsome
    have hindex := hbelongs.lt_of_zipIdx
    have hoffset := exists_belongsAt_zipIdx_iff.mp ⟨index, hbelongs⟩
    rcases hreason with hend | ⟨earlier, hearlier, hother⟩ | hfirst
    · omega
    · have hsame := hbelongs.unique hother
      omega
    · omega
  · intro hoffset
    obtain ⟨index, hbelongs⟩ := exists_belongsAt_zipIdx_iff.mpr hoffset
    have hfound := (hfind offset 0 index).mpr ⟨Nat.zero_le _, hbelongs⟩
    exact ⟨index, hfound, fun other hother => Option.some.inj (hother.symm.trans hfound)⟩

set_option maxRecDepth 10000 in
/-- The first block has a letter of two bytes and a mnemonic that is filled up.  Its
last byte is the line feed at offset 17. -/
theorem offsets_find_their_blocks_sample :
    ∃ (session : Session) (analysis : Analysis) (texts : List Text), session.Reachable ∧
      session.analysis? = some analysis ∧ (session.renderer analysis).plainTexts = .ok texts ∧
      session.findBlock? 17 0 = some 0 ∧ BelongsAt texts.zipIdx 17 0 ∧
      session.findBlock? 18 0 = some 1 ∧ BelongsAt texts.zipIdx 18 1 ∧
      session.findBlock? 17 1 = none ∧ ∃ earlier < 1, BelongsAt texts.zipIdx 17 earlier := by
  let session :=
    (Session.fresh.change .none (.load (.direct "é:\n je f\nf: ret".toList .intel {}))).2
  have hreach : session.Reachable := .change .none _ .fresh
  have heval : session.analysis?.isSome ∧ session.findBlock? 17 0 = some 0 ∧
      session.findBlock? 18 0 = some 1 ∧ session.findBlock? 17 1 = none := by
    decide +kernel
  obtain ⟨hsome, hlast, hnext, hnone⟩ := heval
  obtain ⟨analysis, hanalysis⟩ := Option.isSome_iff_exists.mp hsome
  obtain ⟨texts, htexts, -, hfind⟩ := offsets_find_their_blocks hreach hanalysis
  have hbelongs := (((hfind 17 0).1 0).mp hlast).2
  exact ⟨session, analysis, texts, hreach, hanalysis, htexts, hlast, hbelongs, hnext,
    (((hfind 18 0).1 1).mp hnext).2, hnone, 0, Nat.one_pos, hbelongs⟩

end AsmListing
