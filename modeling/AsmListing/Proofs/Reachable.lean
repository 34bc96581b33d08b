import AsmListing.Proofs.Failures
import AsmListing.Proofs.History

/-!
# Sessions that can be reached

A session is reached from a new one by requests: changes of its listing, each of
which finds files of its own, and questions.  Two things are true of all of them
(`Session.Faithful`), and a request keeps them true:

* the listing of a session is the analysis of its input with its options;
* what a session keeps is what it would render anew.

The second one is `Session.Sound`, which the questions about blocks, columns and the
whole text keep although each of them fills places of its own.  Together with the
first one, by which every block of the listing can be rendered, it says that nobody
can tell a session that keeps renderings from one that does not.
-/

namespace AsmListing

namespace Session

/-- The sessions that requests lead to, whatever files there are at each of them. -/
inductive Reachable : Session → Prop
  | fresh : Reachable fresh
  | change {session : Session} (files : Files) (change : Change) :
      Reachable session → Reachable (session.change files change).2
  | ask {session : Session} {α : Type} (query : Query α) :
      Reachable session → Reachable (session.ask query).2

/-- A session whose listing is the analysis of its input, and which keeps what it
would render anew. -/
structure Faithful (session : Session) : Prop where
  analyzed : ∀ analysis, session.analysis? = some analysis →
    ∃ files dialect, analyze files dialect session.options session.input = .ok analysis
  sound : session.Sound

/-! ## Requests keep sessions faithful -/

theorem faithful_of_loaded_eq_none {session : Session} (hnone : session.loaded = none) :
    session.Faithful where
  analyzed analysis hanalysis := by
    rw [analysis?, hnone] at hanalysis
    cases hanalysis
  sound := sound_of_loaded_eq_none hnone

/-- Nothing but the input, the options, the analysis and the renderings matters. -/
theorem Faithful.of_alike {first second : Session} (hfaithful : second.Faithful)
    (halike : Alike first second) : first.Faithful where
  analyzed := by
    rw [halike.analysis_eq, halike.options_eq, halike.input_eq]
    exact hfaithful.analyzed
  sound := halike.sound_left

theorem faithful_load (session : Session) (files : Files) (text : Text) (dialect : Dialect)
    (options : Options) : (session.load files text dialect options).2.Faithful where
  analyzed analysis hanalysis := by
    cases hresult : analyze files dialect options text with
    | error error =>
        rw [load, hresult] at hanalysis
        cases hanalysis
    | ok found =>
        rw [load_of_analyze hresult] at hanalysis ⊢
        obtain rfl : found = analysis := by simpa [analysis?] using hanalysis
        exact ⟨files, dialect, hresult⟩
  sound := sound_load session files text dialect options

theorem Reflects.faithful {files : Files} {last : Option (Change × Except ListingError Unit)}
    {session : Session} (hreflects : Reflects files last session) : session.Faithful := by
  cases hreflects with
  | loaded _ _ halike => exact (faithful_load fresh files _ _ _).of_alike halike
  | empty _ _ hnone => exact faithful_of_loaded_eq_none hnone

theorem Faithful.ask {session : Session} (hfaithful : session.Faithful) {α : Type}
    (query : Query α) : (session.ask query).2.Faithful :=
  hfaithful.of_alike (hfaithful.sound.alike.answers_ask query).alike

/-- All sessions that can be reached are faithful. -/
theorem Reachable.faithful {session : Session} (hreach : session.Reachable) :
    session.Faithful := by
  induction hreach with
  | fresh => exact faithful_of_loaded_eq_none rfl
  | change files change _ _ => exact (Reflects.change files _ change).faithful
  | ask query _ ih => exact ih.ask query

/-! ## Rendering a listing that is there -/

namespace Faithful

variable {session : Session} (hfaithful : session.Faithful)

include hfaithful

/-- The blocks of a session can be rendered, and nothing else can. -/
theorem renderAnew_cases (index : Nat) (colored : Bool) :
    (index < session.blocks.length ∧
      ∃ rendering, session.renderAnew index colored = .ok rendering) ∨
    session.blocks.length ≤ index ∧
      session.renderAnew index colored =
        .error (.blockOutOfRange index session.blocks.length) := by
  rw [renderAnew_eq, blocks]
  cases hanalysis : session.analysis? with
  | none => exact .inr ⟨Nat.zero_le index, rfl⟩
  | some analysis =>
      obtain ⟨files, dialect, hanalyze⟩ := hfaithful.analyzed analysis hanalysis
      simp only [Option.map_some, Option.getD_some]
      split
      · next hindex => exact .inl ⟨hindex, exists_renderBlock hanalyze hindex colored⟩
      · next hindex => exact .inr ⟨Nat.le_of_not_lt hindex, rfl⟩

/-- The text of a block is there exactly if the block is. -/
theorem blockText_eq_error_iff (index : Nat) (error : ListingError) :
    (session.blockText index).1 = .error error ↔
      session.blocks.length ≤ index ∧ error = .blockOutOfRange index session.blocks.length := by
  rw [hfaithful.sound.blockText_eq]
  obtain ⟨hindex, rendering, hrender⟩ | ⟨hindex, hrender⟩ :=
    hfaithful.renderAnew_cases index session.options.syntaxColoring
  · rw [hrender]
    constructor
    · intro herror
      cases herror
    · rintro ⟨hle, -⟩
      omega
  · rw [hrender]
    constructor
    · intro herror
      cases herror
      exact ⟨hindex, rfl⟩
    · rintro ⟨-, rfl⟩
      rfl

theorem exists_blockText {index : Nat} (hindex : index < session.blocks.length) :
    ∃ text, (session.blockText index).1 = .ok text := by
  cases htext : (session.blockText index).1 with
  | ok text => exact ⟨text, rfl⟩
  | error error =>
      obtain ⟨hle, -⟩ := (hfaithful.blockText_eq_error_iff index error).mp htext
      omega

/-- The text of a whole listing is that of its blocks, one after the other. -/
theorem exists_fullText (hloaded : session.loaded.isSome) :
    ∃ texts : List Text,
      (List.range session.blocks.length).mapM (fun index => (session.blockText index).1) =
        .ok texts ∧
      session.fullText.1 = .ok texts.flatten := by
  choose text htext using fun (index : Fin session.blocks.length) =>
    hfaithful.exists_blockText index.isLt
  have hlength : (List.ofFn text).length = session.blocks.length := List.length_ofFn
  refine ⟨List.ofFn text, ?_, ?_⟩
  · refine Fallible.mapM_eq_ok (List.forall₂_iff_get.mpr ⟨?_, fun index hindex _ => ?_⟩)
    · rw [List.length_range, hlength]
    · rw [List.length_range] at hindex
      simpa using htext ⟨index, hindex⟩
  · obtain ⟨loaded, hsome⟩ := Option.isSome_iff_exists.mp hloaded
    have hrun := hfaithful.sound.blockTexts_eq (List.ofFn text) 0 fun index block hblock => by
      obtain ⟨hindex, rfl⟩ := List.getElem?_eq_some_iff.mp hblock
      rw [hlength] at hindex
      rw [Nat.zero_add, ← hfaithful.sound.blockText_eq, List.getElem_ofFn]
      exact htext ⟨index, hindex⟩
    rw [hlength] at hrun
    rw [fullText, hsome]
    exact hrun

end Faithful

/-- Renderings that are kept make no difference.  In every session that can be
reached, the text of a block is the one that it gets when it is rendered anew, and
there is one exactly for the blocks of the listing.  If a listing is loaded, its whole
text is that of its blocks, and there is one place for the rendering of each. -/
theorem kept_renderings_equal_new_ones {session : Session} (hreach : session.Reachable) :
    (∀ index, (session.blockText index).1 =
      (session.renderAnew index session.options.syntaxColoring).map (·.text)) ∧
    (∀ index error, (session.blockText index).1 = .error error ↔
      session.blocks.length ≤ index ∧ error = .blockOutOfRange index session.blocks.length) ∧
    (session.loaded.isSome → ∃ texts : List Text,
      (List.range session.blocks.length).mapM (fun index => (session.blockText index).1) =
        .ok texts ∧
      session.fullText.1 = .ok texts.flatten) ∧
    ∀ loaded, session.loaded = some loaded →
      loaded.renderings.length = session.blocks.length := by
  have hfaithful := hreach.faithful
  refine ⟨hfaithful.sound.blockText_eq, hfaithful.blockText_eq_error_iff,
    hfaithful.exists_fullText, fun loaded hloaded => ?_⟩
  rw [(hfaithful.sound loaded hloaded).1, blocks, analysis?, hloaded]
  rfl

/-- A question about a column has left one of two renderings behind, in color. -/
theorem kept_renderings_equal_new_ones_sample :
    ∃ session : Session, session.Reachable ∧
      session.loaded.map (·.renderings.map Option.isSome) = some [false, true] ∧
      session.blocks.length = 2 ∧
      (session.blockText 2).1 = .error (.blockOutOfRange 2 2) ∧
      (session.blockText 1).1 = (session.renderAnew 1 true).map (·.text) ∧
      ∃ texts : List Text, session.fullText.1 = .ok texts.flatten := by
  let loaded := (fresh.change .none (.load (.direct " br f\nf:\n".toList .wasm {}))).2
  let session := (loaded.ask (.tokenAt 1 0 0)).2
  have hreach : session.Reachable := (Reachable.fresh.change .none _).ask _
  have heval : session.loaded.map (·.renderings.map Option.isSome) = some [false, true] ∧
      session.blocks.length = 2 ∧ session.loaded.isSome ∧
      session.options.syntaxColoring = true := by
    decide +kernel
  obtain ⟨hkept, hlength, hloaded, hcolor⟩ := heval
  obtain ⟨htext, herror, hfull, -⟩ := kept_renderings_equal_new_ones hreach
  obtain ⟨texts, -, htexts⟩ := hfull hloaded
  refine ⟨session, hreach, hkept, hlength, ?_, ?_, texts, htexts⟩
  · rw [herror, hlength]
    exact ⟨le_rfl, rfl⟩
  · rw [htext, hcolor]

end Session

end AsmListing
