import AsmListing.Proofs.Fallible
import AsmListing.Session

/-!
# A session does not remember

What a session answers depends on the last request that changed its listing, and
on nothing before it.  Two things stand in the way.  A session keeps renderings,
so an answer may have been computed long before it is given, and a request that
fails half way must not leave anything behind.

For the renderings, `Session.Sound` says that what is kept is what would be
rendered anew.  Sound sessions with the same listing are `Session.Alike`, whatever
each of them keeps.  They give the same answers, and an answer leaves them alike
(`Session.Alike.answers_ask`).

For the changes, `Session.Reflects` says what a session looks like after its last
change: like a new one into which the listing has just been loaded, or without a
listing.  Every request keeps it (`Session.Reflects.change` and
`Session.Reflects.ask`), whatever the session was before, so it holds after every
run (`Session.Reflects.run`).
-/

namespace AsmListing

/-! ## Requests -/

/-- The questions that a session answers, by the type of the answer. -/
inductive Query : Type → Type 1
  | isLoaded : Query Bool
  | input : Query Text
  | options : Query Options
  | dialect : Query (Option Dialect)
  | tokens : Query (List Token)
  | lines : Query (List Line)
  | blocks : Query (List Block)
  | spans : Query (List BlockSpan)
  | span (index : Nat) : Query (Option BlockSpan)
  | token (index : Nat) : Query (Option Token)
  | tokenSlice (index : Nat) : Query (Option Slice)
  | tokenText (index : Nat) : Query (Option Text)
  | sourceName (number : Nat) : Query (Option Text)
  | graph : Query BlockGraph
  /-- The text of a block in the color mode of the options, which is kept. -/
  | blockText (index : Nat) : Query (Except ListingError Text)
  /-- The text of a block in a color mode, which is not kept. -/
  | blockTextAnew (index : Nat) (colored : Bool) : Query (Except ListingError Text)
  | fullText : Query (Except ListingError Text)
  | findBlock (offset first : Nat) : Query (Option Nat)
  | tokenAt (block line column : Nat) : Query (Option (Nat × Nat))
  | registers (line : Nat) : Query (Option (List Text))
  | countRegister (line : Nat) (register : Text) : Query Nat
  | registerEqual (left right : Text) : Query Bool
  | dedupRegisters (registers : List Text) : Query (List Text)
  | registerToken (line : Nat) (register : Text) (start : Nat) : Query (Option Nat)
  | simdKind (mnemonic : Text) : Query (Except ListingError SimdKind)
  | describe (mnemonic : Text) : Query (Option String)

/-- Whether a question is about the options. -/
def Query.isOptions {α : Type} : Query α → Bool
  | .options => true
  | _ => false

/-- A listing to be loaded, by where its text and its dialect come from. -/
inductive Loading
  | direct (text : Text) (dialect : Dialect) (options : Options)
  | named (text name : Text) (options : Options)
  | file (path : Text) (dialect : Dialect) (options : Options)
  deriving DecidableEq, Repr

/-- The text, the dialect and the options of a listing to be loaded, if its name
or its path leads to something. -/
def Loading.listing? (files : Files) : Loading → Option (Text × Dialect × Options)
  | .direct text dialect options => some (text, dialect, options)
  | .named text name options => (Dialect.ofName? name).map (text, ·, options)
  | .file path dialect options => (files.read path).toOption.map (·, dialect, options)

/-- The requests that change the listing of a session. -/
inductive Change
  | load (loading : Loading)
  | reset
  deriving DecidableEq, Repr

/-- All requests to a session. -/
inductive Request : Type 1
  | change (change : Change)
  | ask {α : Type} (query : Query α)

namespace Session

/-- Answers a question.  The session that comes with the answer may keep more
renderings. -/
def ask {α : Type} (session : Session) : Query α → α × Session
  | .isLoaded => (session.loaded.isSome, session)
  | .input => (session.input, session)
  | .options => (session.options, session)
  | .dialect => (session.dialect?, session)
  | .tokens => (session.tokens, session)
  | .lines => (session.lines, session)
  | .blocks => (session.blocks, session)
  | .spans => (session.spans, session)
  | .span index => (session.spans[index]?, session)
  | .token index => (session.tokens[index]?, session)
  | .tokenSlice index => (session.tokenSlice? index, session)
  | .tokenText index => (session.tokenText? index, session)
  | .sourceName number => (session.sourceName? number, session)
  | .graph => (session.graph, session)
  | .blockText index => session.blockText index
  | .blockTextAnew index colored => ((session.renderAnew index colored).map (·.text), session)
  | .fullText => session.fullText
  | .findBlock offset first => (session.findBlock? offset first, session)
  | .tokenAt block line column => session.tokenAt? block line column
  | .registers line => (session.registers? line, session)
  | .countRegister line register => (session.countRegister line register, session)
  | .registerEqual left right => (session.registerEqual left right, session)
  | .dedupRegisters registers => (session.dedupRegisters registers, session)
  | .registerToken line register start => (session.registerToken? line register start, session)
  | .simdKind mnemonic => (session.simdKind mnemonic, session)
  | .describe mnemonic => (session.describe? mnemonic, session)

/-- Changes the listing of a session. -/
def change (files : Files) (session : Session) : Change → Except ListingError Unit × Session
  | .load (.direct text dialect options) => session.load files text dialect options
  | .load (.named text name options) => session.loadNamed files text name options
  | .load (.file path dialect options) => session.loadFile files path dialect options
  | .reset => (.ok (), session.reset)

/-- The session after one request. -/
def step (files : Files) (session : Session) : Request → Session
  | .change change => (session.change files change).2
  | .ask query => (session.ask query).2

/-- The session after requests one after the other. -/
def run (files : Files) (session : Session) (requests : List Request) : Session :=
  requests.foldl (step files) session

/-- The changes among requests, each with what came of it. -/
def changes (files : Files) :
    Session → List Request → List (Change × Except ListingError Unit)
  | _, [] => []
  | session, .change change :: rest =>
    (change, (session.change files change).1) ::
      changes files (session.change files change).2 rest
  | session, .ask query :: rest => changes files (session.ask query).2 rest

/-! ## Renderings that are kept -/

/-- What a session keeps is what it would render anew. -/
def Sound (session : Session) : Prop :=
  ∀ loaded, session.loaded = some loaded →
    loaded.renderings.length = loaded.analysis.blocks.length ∧
    ∀ index rendering, loaded.renderings[index]? = some (some rendering) →
      (session.renderer loaded.analysis).renderBlock index session.options.syntaxColoring =
        .ok rendering

/-- Sessions with the same listing, each of which may keep renderings of its
own. -/
structure Alike (first second : Session) : Prop where
  input_eq : first.input = second.input
  options_eq : first.options = second.options
  analysis_eq : first.analysis? = second.analysis?
  sound_left : first.Sound
  sound_right : second.Sound

/-- An answer as another session would give it, with a session that is like it. -/
structure Answers {α : Type} (given : α × Session) (answer : α) (other : Session) : Prop where
  answer_eq : given.1 = answer
  alike : Alike given.2 other

theorem Answers.map {α β : Type} {given : α × Session} {answer : α} {other : Session}
    (hanswers : Answers given answer other) (change : α → β) :
    Answers (change given.1, given.2) (change answer) other :=
  ⟨congrArg change hanswers.answer_eq, hanswers.alike⟩

section Renderings

variable {session : Session} {index : Nat}

theorem sound_of_loaded_eq_none (hnone : session.loaded = none) : session.Sound := by
  intro loaded hloaded
  rw [hnone] at hloaded
  cases hloaded

theorem forBlock_eq_ok {loaded : Loaded} (hfor : session.forBlock index = .ok loaded) :
    session.loaded = some loaded ∧ index < loaded.analysis.blocks.length := by
  unfold forBlock at hfor
  split at hfor
  · cases hfor
  · next found hfound =>
      split at hfor
      · next hindex =>
          cases hfor
          exact ⟨hfound, hindex⟩
      · cases hfor

/-- What a sound session keeps makes no difference to a rendering. -/
theorem Sound.rendering_eq (hsound : session.Sound) (index : Nat) :
    session.rendering index = session.renderAnew index session.options.syntaxColoring := by
  unfold rendering renderAnew
  cases hfor : session.forBlock index with
  | error error => rfl
  | ok loaded =>
      obtain ⟨hloaded, hindex⟩ := forBlock_eq_ok hfor
      obtain ⟨hlength, hkept⟩ := hsound loaded hloaded
      rw [← hlength] at hindex
      have hfound := List.getElem?_eq_getElem hindex
      simp only [Fallible.ok_bind, getRecord, hfound]
      cases hentry : loaded.renderings[index] with
      | none => rfl
      | some rendering =>
          rw [hentry] at hfound
          exact (hkept index rendering hfound).symm

/-- Keeping what has been rendered keeps a session sound. -/
theorem Sound.keep (hsound : session.Sound) {rendering : Rendering}
    (hrendering : session.rendering index = .ok rendering) :
    (session.keep index rendering).Sound := by
  intro loaded hloaded
  obtain ⟨former, hformer, rfl⟩ := Option.map_eq_some_iff.mp hloaded
  obtain ⟨hlength, hkept⟩ := hsound former hformer
  refine ⟨by simpa using hlength, fun other kept hother => ?_⟩
  rw [List.getElem?_set] at hother
  split at hother
  · next hsame =>
      -- the block that has just been rendered
      obtain rfl : rendering = kept := by
        split at hother
        · simpa using hother
        · cases hother
      rw [hsound.rendering_eq] at hrendering
      obtain ⟨found, hfor, hrender⟩ := Fallible.bind_eq_ok.mp hrendering
      obtain ⟨hfound, -⟩ := forBlock_eq_ok hfor
      obtain rfl : former = found := Option.some.inj (hformer.symm.trans hfound)
      rw [← hsame]
      exact hrender
  · exact hkept other kept hother

theorem analysis?_keep (session : Session) (index : Nat) (rendering : Rendering) :
    (session.keep index rendering).analysis? = session.analysis? := by
  simp [analysis?, keep, Function.comp_def]

theorem renderAnew_eq (session : Session) (index : Nat) (colored : Bool) :
    session.renderAnew index colored =
      match session.analysis? with
      | none => .error (.blockOutOfRange index 0)
      | some analysis =>
        if index < analysis.blocks.length then
          (analysis.renderer session.input session.options).renderBlock index colored
        else
          .error (.blockOutOfRange index analysis.blocks.length) := by
  unfold renderAnew forBlock analysis?
  cases session.loaded with
  | none => rfl
  | some loaded =>
      simp only [Option.map_some]
      split <;> rfl

end Renderings

/-! ## Questions -/

theorem Sound.alike {session : Session} (hsound : session.Sound) : Alike session session :=
  ⟨rfl, rfl, rfl, hsound, hsound⟩

namespace Alike

variable {first second third : Session}

theorem symm (halike : Alike first second) : Alike second first :=
  ⟨halike.input_eq.symm, halike.options_eq.symm, halike.analysis_eq.symm, halike.sound_right,
    halike.sound_left⟩

theorem trans (halike : Alike first second) (hother : Alike second third) : Alike first third :=
  ⟨halike.input_eq.trans hother.input_eq, halike.options_eq.trans hother.options_eq,
    halike.analysis_eq.trans hother.analysis_eq, halike.sound_left, hother.sound_right⟩

theorem renderAnew_eq (halike : Alike first second) (index : Nat) (colored : Bool) :
    first.renderAnew index colored = second.renderAnew index colored := by
  rw [Session.renderAnew_eq, Session.renderAnew_eq, halike.analysis_eq, halike.input_eq,
    halike.options_eq]

theorem answers_render (halike : Alike first second) (index : Nat) :
    Answers (first.render index) (second.render index).1 second := by
  have hrendering : first.rendering index = second.rendering index := by
    rw [halike.sound_left.rendering_eq, halike.sound_right.rendering_eq, halike.options_eq,
      halike.renderAnew_eq]
  unfold render
  rw [← hrendering]
  cases hfirst : first.rendering index with
  | error error => exact ⟨rfl, halike⟩
  | ok rendering =>
      refine ⟨rfl, ?_⟩
      have hkept : Alike (first.keep index rendering) first :=
        ⟨rfl, rfl, analysis?_keep first index rendering, halike.sound_left.keep hfirst,
          halike.sound_left⟩
      exact hkept.trans halike

theorem answers_blockText (halike : Alike first second) (index : Nat) :
    Answers (first.blockText index) (second.blockText index).1 second :=
  (halike.answers_render index).map (·.map (·.text))

/-- The texts of blocks agree although either session keeps them as it goes.  The
induction is on the number of blocks, for any two sessions that are alike. -/
theorem answers_blockTexts (count : Nat) :
    ∀ {first second : Session} (index : Nat), Alike first second →
      Answers (first.blockTexts index count) (second.blockTexts index count).1 second := by
  induction count with
  | zero =>
      intro first second index halike
      exact ⟨rfl, halike⟩
  | succ count ih =>
      intro first second index halike
      obtain ⟨hanswer, hfirst⟩ := halike.answers_blockText index
      obtain ⟨-, hsecond⟩ := halike.sound_right.alike.answers_blockText index
      unfold blockTexts
      rcases hone : first.blockText index with ⟨answer, kept⟩
      rcases htwo : second.blockText index with ⟨other, keptToo⟩
      rw [hone] at hanswer hfirst
      rw [htwo] at hanswer hsecond
      obtain rfl : answer = other := hanswer
      cases answer with
      | error error => exact ⟨rfl, hfirst⟩
      | ok text =>
          obtain ⟨hrest, hlast⟩ := ih (index + 1) (hfirst.trans hsecond.symm)
          exact Answers.map ⟨hrest, hlast.trans hsecond⟩ (·.map (text ++ ·))

theorem blocks_eq (halike : Alike first second) : first.blocks = second.blocks := by
  rw [blocks, blocks, halike.analysis_eq]

theorem spans_eq (halike : Alike first second) : first.spans = second.spans := by
  rw [spans, spans, halike.analysis_eq]

theorem isSome_loaded_eq (halike : Alike first second) :
    first.loaded.isSome = second.loaded.isSome := by
  have hisSome := congrArg Option.isSome halike.analysis_eq
  simpa [analysis?] using hisSome

theorem answers_fullText (halike : Alike first second) :
    Answers first.fullText second.fullText.1 second := by
  have hloaded := halike.isSome_loaded_eq
  unfold fullText
  cases hfirst : first.loaded <;> cases hsecond : second.loaded
  case none.none => exact ⟨congrArg Except.ok halike.input_eq, halike⟩
  case some.some =>
    rw [halike.blocks_eq]
    exact answers_blockTexts _ 0 halike
  all_goals simp [hfirst, hsecond] at hloaded

theorem answers_tokenAt? (halike : Alike first second) (block line column : Nat) :
    Answers (first.tokenAt? block line column) (second.tokenAt? block line column).1 second := by
  have hline : first.tokenLine? block line = second.tokenLine? block line := by
    simp only [tokenLine?, blocks, lines, halike.analysis_eq]
  have htokens : first.tokens = second.tokens := by
    rw [tokens, tokens, halike.analysis_eq]
  obtain ⟨hanswer, hkept⟩ := halike.answers_render block
  unfold tokenAt?
  rw [hline, htokens]
  cases second.tokenLine? block line with
  | none => exact ⟨rfl, halike⟩
  | some found =>
      rcases hone : first.render block with ⟨answer, kept⟩
      rcases htwo : second.render block with ⟨other, keptToo⟩
      rw [hone] at hanswer hkept
      rw [htwo] at hanswer
      obtain rfl : answer = other := hanswer
      cases answer with
      | error error => exact ⟨rfl, hkept⟩
      | ok rendering => exact ⟨rfl, hkept⟩

/-- A question gets the same answer from sessions that are alike, and leaves them
alike. -/
theorem answers_ask {α : Type} (halike : Alike first second) (query : Query α) :
    Answers (first.ask query) (second.ask query).1 second := by
  have hinput := halike.input_eq
  have hoptions := halike.options_eq
  have hanalysis := halike.analysis_eq
  cases query with
  | blockText index => exact halike.answers_blockText index
  | blockTextAnew index colored =>
      exact ⟨congrArg (·.map (·.text)) (halike.renderAnew_eq index colored), halike⟩
  | fullText => exact halike.answers_fullText
  | tokenAt block line column => exact halike.answers_tokenAt? block line column
  | isLoaded => exact ⟨halike.isSome_loaded_eq, halike⟩
  | findBlock offset first =>
      refine ⟨?_, halike⟩
      simp only [ask, findBlock?]
      rw [halike.spans_eq]
  | _ =>
      -- all others are about the input, the options and the analysis
      refine ⟨?_, halike⟩
      simp only [ask, dialect?, tokens, lines, blocks, spans, tokenSlice?, tokenText?, sourceName?,
        graph, registers?, countRegister, registerEqual, dedupRegisters, registerToken?, simdKind,
        describe?, hinput, hoptions, hanalysis]

end Alike

theorem fst_render (session : Session) (index : Nat) :
    (session.render index).1 = session.rendering index := by
  unfold render
  cases session.rendering index <;> rfl

/-- The text of a block is the one that it would have if nothing were kept. -/
theorem Sound.blockText_eq {session : Session} (hsound : session.Sound) (index : Nat) :
    (session.blockText index).1 =
      (session.renderAnew index session.options.syntaxColoring).map (·.text) := by
  rw [blockText, fst_render, hsound.rendering_eq]

/-- A session that renders blocks one after the other shows the texts that each of
them has by itself.  The induction is on the blocks; renderings that are kept on the
way change nothing. -/
theorem Sound.blockTexts_eq {session : Session} (hsound : session.Sound) (texts : List Text) :
    ∀ index, (∀ offset text, texts[offset]? = some text →
        (session.renderAnew (index + offset) session.options.syntaxColoring).map (·.text) =
          .ok text) →
      (session.blockTexts index texts.length).1 = .ok texts.flatten := by
  induction texts with
  | nil =>
      intro index _
      rfl
  | cons text rest ih =>
      intro index htexts
      have hfirst : (session.blockText index).1 = .ok text := by
        rw [hsound.blockText_eq]
        exact htexts 0 text rfl
      obtain ⟨-, halike⟩ := hsound.alike.answers_blockText index
      have hrest : ((session.blockText index).2.blockTexts (index + 1) rest.length).1 =
          .ok rest.flatten := by
        rw [(Alike.answers_blockTexts rest.length (index + 1) halike).answer_eq]
        refine ih (index + 1) fun offset later hlater => ?_
        have hplace := htexts (offset + 1) later hlater
        rwa [← Nat.add_assoc, Nat.add_right_comm] at hplace
      rw [List.length_cons, blockTexts]
      rcases hanswer : session.blockText index with ⟨answer, kept⟩
      rw [hanswer] at hfirst hrest
      obtain rfl : answer = .ok text := hfirst
      simp only [hrest, Fallible.map_ok, List.flatten_cons]

/-! ## Changes -/

/-- A load does not look at what was there before. -/
theorem load_eq (session : Session) (files : Files) (text : Text) (dialect : Dialect)
    (options : Options) :
    session.load files text dialect options = fresh.load files text dialect options := rfl

theorem load_of_analyze {files : Files} {dialect : Dialect} {options : Options} {text : Text}
    {analysis : Analysis} (hanalysis : analyze files dialect options text = .ok analysis)
    (session : Session) :
    session.load files text dialect options =
      (.ok (), ⟨text, options, some ⟨analysis, List.replicate analysis.blocks.length none⟩⟩) := by
  rw [load, hanalysis]

theorem sound_load (session : Session) (files : Files) (text : Text) (dialect : Dialect)
    (options : Options) : (session.load files text dialect options).2.Sound := by
  unfold load
  cases analyze files dialect options text with
  | error error => exact sound_of_loaded_eq_none rfl
  | ok analysis =>
      intro loaded hloaded
      cases hloaded
      refine ⟨List.length_replicate, fun index rendering hkept => ?_⟩
      simp [List.getElem?_replicate] at hkept

theorem load_of_error {session : Session} {files : Files} {text : Text} {dialect : Dialect}
    {options : Options} {error : ListingError}
    (herror : (session.load files text dialect options).1 = .error error) :
    (session.load files text dialect options).2.input = [] ∧
      (session.load files text dialect options).2.loaded = none := by
  unfold load at herror ⊢
  cases hanalyze : analyze files dialect options text with
  | error error => exact ⟨rfl, rfl⟩
  | ok analysis => simp [hanalyze] at herror

/-- `Reflects files last session`: the session is what its last change has left
behind, if there was one. -/
inductive Reflects (files : Files) :
    Option (Change × Except ListingError Unit) → Session → Prop
  /-- A listing was loaded, and the session is like a new one into which it has
  been loaded. -/
  | loaded {loading : Loading} {text : Text} {dialect : Dialect} {options : Options}
      {session : Session} :
      loading.listing? files = some (text, dialect, options) →
      (fresh.load files text dialect options).1 = .ok () →
      Alike session (fresh.load files text dialect options).2 →
      Reflects files (some (.load loading, .ok ())) session
  /-- No listing was loaded, and the session has none. -/
  | empty {last : Option (Change × Except ListingError Unit)} {session : Session} :
      (∀ loading, last ≠ some (.load loading, .ok ())) →
      session.input = [] → session.loaded = none → Reflects files last session

theorem reflects_load {files : Files} {loading : Loading} {text : Text} {dialect : Dialect}
    {options : Options} (hlisting : loading.listing? files = some (text, dialect, options))
    (session : Session) :
    Reflects files (some (.load loading, (session.load files text dialect options).1))
      (session.load files text dialect options).2 := by
  rw [load_eq]
  cases houtcome : (fresh.load files text dialect options).1 with
  | error error =>
      obtain ⟨hinput, hloaded⟩ := load_of_error houtcome
      exact .empty (by simp) hinput hloaded
  | ok => exact .loaded hlisting houtcome (sound_load fresh files text dialect options).alike

namespace Reflects

variable {files : Files} {last : Option (Change × Except ListingError Unit)} {session : Session}

/-- After a change it does not matter what a session was before. -/
theorem change (files : Files) (session : Session) (change : Change) :
    Reflects files (some (change, (session.change files change).1))
      (session.change files change).2 := by
  match change with
  | .reset => exact .empty (by simp) rfl rfl
  | .load (.direct text dialect options) => exact reflects_load rfl session
  | .load (.named text name options) =>
      simp only [Session.change, loadNamed, Dialect.ofName]
      cases hname : Dialect.ofName? name with
      | none => exact .empty (by simp) rfl rfl
      | some dialect => exact reflects_load (by simp [Loading.listing?, hname]) session
  | .load (.file path dialect options) =>
      simp only [Session.change, loadFile]
      cases hread : files.read path with
      | error cause => exact .empty (by simp) rfl rfl
      | ok text =>
          exact reflects_load (by simp [Loading.listing?, hread, Except.toOption]) session

theorem ask {α : Type} (hreflects : Reflects files last session) (query : Query α) :
    Reflects files last (session.ask query).2 := by
  cases hreflects with
  | loaded hlisting houtcome halike =>
      exact .loaded hlisting houtcome (halike.answers_ask query).alike
  | empty hlast hinput hloaded =>
      have halike := ((sound_of_loaded_eq_none hloaded).alike.answers_ask query).alike
      have hnone : (session.ask query).2.loaded = none := by
        simpa [hloaded] using halike.isSome_loaded_eq
      exact .empty hlast (halike.input_eq.trans hinput) hnone

/-- A run leaves behind what its last change has left, or what was there before
if it has none. -/
theorem run (requests : List Request) :
    ∀ {last : Option (Change × Except ListingError Unit)} {session : Session},
      Reflects files last session →
        Reflects files ((session.changes files requests).getLast?.or last)
          (session.run files requests) := by
  induction requests with
  | nil =>
      intro last session hreflects
      exact hreflects
  | cons request rest ih =>
      intro last session hreflects
      cases request with
      | change request =>
          have hrest := ih (change files session request)
          rw [changes, List.getLast?_cons, Option.some_or]
          rwa [Option.or_some] at hrest
      | ask query => exact ih (hreflects.ask query)

end Reflects

/-! ## Runs -/

theorem ask_of_loaded_eq_none {α : Type} {session : Session} (hinput : session.input = [])
    (hloaded : session.loaded = none) {query : Query α} (hquery : query.isOptions = false) :
    (session.ask query).1 = (fresh.ask query).1 := by
  obtain ⟨input, options, loaded⟩ := session
  obtain rfl : input = [] := hinput
  obtain rfl : loaded = none := hloaded
  cases query with
  | options => cases hquery
  | _ => rfl

/-- After any run, the answers depend on the last change alone.  If it loaded a
listing, they are those of a new session into which only this listing has been
loaded.  If it was a reset or failed, or if there was none, they are those of a new
session; only the options may differ. -/
theorem ask_run_eq_of_last_change (files : Files) (requests : List Request) :
    match (fresh.changes files requests).getLast? with
    | some (.load loading, .ok ()) =>
      ∃ text dialect options, loading.listing? files = some (text, dialect, options) ∧
        (fresh.load files text dialect options).1 = .ok () ∧
        ∀ {α : Type} (query : Query α),
          ((fresh.run files requests).ask query).1 =
            ((fresh.load files text dialect options).2.ask query).1
    | _ =>
      ∀ {α : Type} (query : Query α), query.isOptions = false →
        ((fresh.run files requests).ask query).1 = (fresh.ask query).1 := by
  have hfresh : Reflects files none fresh := .empty (by simp) rfl rfl
  have hreflects := Reflects.run requests hfresh
  rw [Option.or_none] at hreflects
  generalize (fresh.changes files requests).getLast? = last at hreflects ⊢
  cases hreflects with
  | loaded hlisting houtcome halike =>
      exact ⟨_, _, _, hlisting, houtcome, fun query => (halike.answers_ask query).answer_eq⟩
  | empty hlast hinput hloaded =>
      split
      · next loading => exact absurd rfl (hlast loading)
      · intro α query hquery
        exact ask_of_loaded_eq_none hinput hloaded hquery

/-- A listing is loaded and one of its blocks is rendered and kept; then a load
fails half way, and the answers are those of a new session. -/
theorem ask_run_eq_of_last_change_sample :
    fresh.changes .none
        [.change (.load (.direct " br f\nf:\n".toList .wasm {})), .ask (.blockText 0),
          .change (.load (.direct "f:\n.loc 1 2x".toList .wasm {}))] =
      [(.load (.direct " br f\nf:\n".toList .wasm {}), .ok ()),
        (.load (.direct "f:\n.loc 1 2x".toList .wasm {}),
          .error (.malformedNumber .loc "2x".toList 10 .invalidDigit))] ∧
    Query.fullText.isOptions = false ∧
    ((fresh.run .none
        [.change (.load (.direct " br f\nf:\n".toList .wasm {})), .ask (.blockText 0),
          .change (.load (.direct "f:\n.loc 1 2x".toList .wasm {}))]).ask .fullText).1 =
      .ok [] := by
  have hchanges : fresh.changes .none
        [.change (.load (.direct " br f\nf:\n".toList .wasm {})), .ask (.blockText 0),
          .change (.load (.direct "f:\n.loc 1 2x".toList .wasm {}))] =
      [(.load (.direct " br f\nf:\n".toList .wasm {}), .ok ()),
        (.load (.direct "f:\n.loc 1 2x".toList .wasm {}),
          .error (.malformedNumber .loc "2x".toList 10 .invalidDigit))] := by
    decide +kernel
  have hanswers := ask_run_eq_of_last_change .none
    [.change (.load (.direct " br f\nf:\n".toList .wasm {})), .ask (.blockText 0),
      .change (.load (.direct "f:\n.loc 1 2x".toList .wasm {}))]
  rw [hchanges] at hanswers
  exact ⟨hchanges, rfl, hanswers .fullText rfl⟩

end Session

end AsmListing
