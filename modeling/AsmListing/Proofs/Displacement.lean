import AsmListing.Proofs.Operands
import AsmListing.Render

/-!
# Listings behind other text

The analysis of a listing uses the positions of its tokens for one thing: to find
their spellings.  So a listing that stands behind other text is analyzed as it is
alone, with its tokens at other places.  This file says so for everything that is
done after the text before the listing has been read.

* Tokens: a cursor behind other text reads the same tokens, each of them moved
  (`Cursor.tokens_moved`), and they have the same spellings (`Token.text_moved`).
* Directives are read from the spellings of their tokens (`Respells.readLocation_map`,
  `Respells.register_map`), wherever these stand.
* Lines: one more line moves what is assembled (`Assembly.addLine_moved`), so a whole
  run does (`Assembly.addLines_moved`), up to an error that tells where it is.
* Labels and renderings read spellings only (`LabelTable.resolve_moved`,
  `Renderer.renderBlock_moved`).
-/

namespace AsmListing

/-- A token behind `distance` bytes of other text, which has moved what follows it to
the right by `shift` more. -/
def Token.moved (distance shift : Nat) (token : Token) : Token :=
  { token with
    position := token.position + distance
    aligned := token.aligned + distance + shift }

/-- A cursor behind other text. -/
def Cursor.moved (distance shift : Nat) (cursor : Cursor) : Cursor :=
  { cursor with
    position := cursor.position + distance
    shift := cursor.shift + shift }

/-- An error in a listing behind other text. -/
def ListingError.moved (distance : Nat) : ListingError → ListingError
  | .malformedNumber directive text position cause =>
    .malformedNumber directive text (position + distance) cause
  | error => error

/-- The use of a label in a listing behind other text. -/
def LabelUse.moved (distance : Nat) (use : LabelUse) : LabelUse :=
  { use with target := ⟨use.target.position + distance, use.target.length⟩ }

/-- The labels of a listing behind other text. -/
def LabelTable.moved (distance : Nat) (table : LabelTable) : LabelTable :=
  { table with uses := table.uses.map (LabelUse.moved distance) }

/-- What is assembled of a listing behind other text. -/
def Assembly.moved (distance shift : Nat) (assembly : Assembly) : Assembly :=
  { assembly with
    tokens := assembly.tokens.map (Token.moved distance shift)
    labels := assembly.labels.moved distance }

/-- The context of a listing behind other text. -/
def Context.behind (context : Context) (front : Text) : Context :=
  { context with text := front ++ context.text }

/-! ## Tokens -/

namespace Text

theorem dropBytes?_append_add (front text : Text) (count : Nat) :
    dropBytes? (front ++ text) (front.byteSize + count) = dropBytes? text count := by
  induction front with
  | nil => simp
  | cons character front ih =>
      rw [List.cons_append, byteSize_cons, Nat.add_assoc, dropBytes?_cons_add, ih]

/-- A byte range behind other text shows what it showed. -/
theorem view_append_add (front text : Text) (position length : Nat) :
    view (front ++ text) (position + front.byteSize) length = view text position length := by
  rw [view, view, Nat.add_comm, dropBytes?_append_add]

end Text

@[simp] theorem Token.text_moved (front text : Text) (shift : Nat) (token : Token) :
    (token.moved front.byteSize shift).text (front ++ text) = token.text text :=
  Text.view_append_add front text token.position token.length

@[simp] theorem Token.kind_moved (distance shift : Nat) (token : Token) :
    (token.moved distance shift).kind = token.kind := rfl

namespace Cursor

theorem next?_moved (dialect : Dialect) (distance shift : Nat) (cursor : Cursor) :
    (cursor.moved distance shift).next? dialect =
      (cursor.next? dialect).map fun read =>
        (read.1.moved distance shift, read.2.moved distance shift) := by
  obtain ⟨rest, position, before, owed⟩ := cursor
  cases rest with
  | nil => rfl
  | cons first text =>
      simp only [next?, moved, Option.map_some, Token.moved, Option.some.injEq, Prod.mk.injEq,
        Token.mk.injEq, Cursor.mk.injEq, true_and, and_true]
      omega

/-- Behind other text a cursor reads the same tokens, moved. -/
theorem tokens_moved (dialect : Dialect) (distance shift : Nat) (cursor : Cursor) :
    (cursor.moved distance shift).tokens dialect =
      (cursor.tokens dialect).map (Token.moved distance shift) := by
  fun_induction tokens dialect cursor with
  | case1 cursor hnext =>
      apply tokens_of_next?_eq_none
      rw [next?_moved, hnext]
      rfl
  | case2 cursor token following hnext ih =>
      have hmoved : (cursor.moved distance shift).next? dialect =
          some (token.moved distance shift, following.moved distance shift) := by
        rw [next?_moved, hnext]
        rfl
      rw [tokens_of_next?_eq_some hmoved, ih, List.map_cons]

/-- A cursor that owes nothing reads as it would at the start of a listing. -/
theorem tokens_eq_map_moved (dialect : Dialect) (text : Text) (position shift : Nat) :
    (Cursor.mk text position shift 0).tokens dialect =
      (tokenize dialect text).map (Token.moved position shift) := by
  rw [tokenize, ← tokens_moved, moved, start, Nat.zero_add, Nat.zero_add]

end Cursor

/-! ## Lines of tokens -/

section Lines

variable (distance shift : Nat) (tokens : List Token)

theorem cutLines_moved :
    cutLines (tokens.map (Token.moved distance shift)) =
      (cutLines tokens).map (·.map (Token.moved distance shift)) := by
  induction tokens with
  | nil => rfl
  | cons token rest ih =>
      rw [List.map_cons, cutLines, cutLines, ih, Token.kind_moved]
      split
      · rfl
      · cases cutLines rest <;> rfl

theorem Line.tokens?_moved (line : Line) :
    line.tokens? (tokens.map (Token.moved distance shift)) =
      (line.tokens? tokens).map (·.map (Token.moved distance shift)) := by
  unfold tokens?
  rw [List.length_map]
  split
  · rw [Option.map_some, List.map_take, List.map_drop]
  · rfl

@[simp] theorem lineKind_moved :
    lineKind (tokens.map (Token.moved distance shift)) = lineKind tokens := by
  simp [lineKind, Function.comp_def]

theorem markOperand_moved :
    markOperand (tokens.map (Token.moved distance shift)) =
      ((markOperand tokens).1.map (Token.moved distance shift),
        (markOperand tokens).2.map (Token.moved distance shift)) := by
  induction tokens with
  | nil => rfl
  | cons token rest ih =>
      rw [List.map_cons, markOperand, markOperand, ih, Token.kind_moved]
      split
      · rfl
      · split <;> rfl

@[simp] theorem markTarget_moved :
    markTarget (tokens.map (Token.moved distance shift)) =
      ((markTarget tokens).1.map (Token.moved distance shift),
        (markTarget tokens).2.map (Token.moved distance shift)) := by
  induction tokens with
  | nil => rfl
  | cons token rest ih =>
      rw [List.map_cons, markTarget, markTarget, ih, Token.kind_moved, markOperand_moved]
      split <;> rfl

@[simp] theorem padding_moved (dialect : Dialect) (token : Token) (next : Option Token) :
    padding dialect (token.moved distance shift) (next.map (Token.moved distance shift)) =
      padding dialect token next := by
  cases next <;> rfl

@[simp] theorem lineLength_moved (dialect : Dialect) :
    lineLength dialect (tokens.map (Token.moved distance shift)) = lineLength dialect tokens := by
  induction tokens with
  | nil => rfl
  | cons token rest ih =>
      rw [List.map_cons, lineLength, lineLength, ih, List.head?_map, padding_moved]
      rfl

end Lines

/-! ## Directives -/

/-- `Respells text other distance change tokens`: in another text, `distance` bytes
further on, the changed tokens are spelled as the tokens were. -/
structure Respells (text other : Text) (distance : Nat) (change : Token → Token)
    (tokens : List Token) : Prop where
  kind_eq : ∀ token ∈ tokens, (change token).kind = token.kind
  text_eq : ∀ token ∈ tokens, (change token).text other = token.text text
  position_eq : ∀ token ∈ tokens, (change token).position = token.position + distance

namespace Respells

variable {text other : Text} {distance : Nat} {change : Token → Token} {tokens : List Token}
  (hrespells : Respells text other distance change tokens)

include hrespells

theorem subset {part : List Token} (hpart : part ⊆ tokens) :
    Respells text other distance change part :=
  ⟨fun token htoken => hrespells.kind_eq token (hpart htoken),
    fun token htoken => hrespells.text_eq token (hpart htoken),
    fun token htoken => hrespells.position_eq token (hpart htoken)⟩

theorem operands_map : operands (tokens.map change) = (operands tokens).map change := by
  unfold operands
  rw [List.filter_map]
  congr 1
  refine List.filter_congr fun token htoken => ?_
  rw [Function.comp_apply, hrespells.kind_eq token htoken]

theorem operands_respells : Respells text other distance change (operands tokens) :=
  hrespells.subset List.filter_sublist.subset

theorem readOperand_map (directive : NumericDirective) {token : Token} (htoken : token ∈ tokens) :
    readOperand other directive (change token) =
      (readOperand text directive token).mapError (ListingError.moved distance) := by
  simp only [readOperand, hrespells.text_eq token htoken, hrespells.position_eq token htoken]
  cases Text.readNumeral numberLimit (token.text text) <;> rfl

theorem readSlot_map {operand : Option Token} (hoperand : ∀ token ∈ operand, token ∈ tokens) :
    readSlot other (operand.map change) =
      (readSlot text operand).mapError (ListingError.moved distance) := by
  cases operand with
  | none => rfl
  | some token =>
      have htoken := hoperand token rfl
      simp only [Option.map_some, readSlot, hrespells.kind_eq token htoken,
        hrespells.readOperand_map .loc htoken]
      split <;> rfl

theorem locationOperands_map :
    locationOperands other (tokens.map change) = (locationOperands text tokens).map change := by
  have htext := hrespells.operands_respells.text_eq
  simp only [locationOperands, hrespells.operands_map]
  cases hoperands : operands tokens with
  | nil => rfl
  | cons directive rest =>
      rw [hoperands] at htext
      simp only [List.map_cons, htext directive List.mem_cons_self]
      split
      · rw [List.map_drop]
      · rfl

/-- A location is read from the spellings of its tokens. -/
theorem readLocation_map :
    readLocation other (tokens.map change) =
      (readLocation text tokens).mapError (ListingError.moved distance) := by
  have hslot : ∀ index : Nat, readSlot other ((locationOperands text tokens)[index]?.map change) =
      (readSlot text (locationOperands text tokens)[index]?).mapError
        (ListingError.moved distance) := by
    intro index
    apply hrespells.readSlot_map
    intro token htoken
    exact mem_of_mem_locationOperands (List.mem_of_getElem? htoken)
  simp only [readLocation, hrespells.locationOperands_map, List.getElem?_map, hslot,
    Fallible.mapError_bind]
  rfl

theorem map_paths :
    ((tokens.map change).takeWhile (·.kind == .string)).map
        (fun token => unquotePath (token.text other)) =
      (tokens.takeWhile (·.kind == .string)).map fun token => unquotePath (token.text text) := by
  induction tokens with
  | nil => rfl
  | cons token rest ih =>
      have hrest := ih (hrespells.subset (List.subset_cons_self _ _))
      simp only [List.map_cons, List.takeWhile_cons, hrespells.kind_eq token List.mem_cons_self]
      split
      · simp only [List.map_cons, hrest, hrespells.text_eq token List.mem_cons_self]
      · rfl

theorem sourceName?_map (directive : NumericDirective) :
    sourceName? other directive (tokens.map change) = sourceName? text directive tokens := by
  simp only [sourceName?, hrespells.map_paths]

/-- So is the file that a line registers. -/
theorem readFileLine_map :
    readFileLine other (tokens.map change) =
      (readFileLine text tokens).mapError (ListingError.moved distance) := by
  have hoperands := hrespells.operands_respells
  have hdirective : fileDirectiveOf other ((operands tokens).head?.map change) =
      fileDirectiveOf text (operands tokens).head? := by
    cases hhead : (operands tokens).head? with
    | none => rfl
    | some token =>
        simp only [Option.map_some, fileDirectiveOf,
          hoperands.text_eq token (List.mem_of_mem_head? hhead)]
  simp only [readFileLine, hrespells.operands_map, List.head?_map, hdirective, ← List.map_drop]
  cases hrest : (operands tokens).drop 1 with
  | nil => rfl
  | cons token rest =>
      have hlater : Respells text other distance change (token :: rest) := by
        rw [← hrest]
        exact hoperands.subset (List.drop_subset _ _)
      have hnames := hlater.sourceName?_map
      have hothers := (hlater.subset (List.subset_cons_self _ _)).sourceName?_map
      simp only [List.map_cons] at hnames ⊢
      simp only [hlater.kind_eq token List.mem_cons_self,
        hlater.readOperand_map _ List.mem_cons_self, hnames, hothers]
      split
      · rw [Fallible.mapError_bind]
        rfl
      · rfl

theorem register_map (table : SourceTable) (files : Files) (load : Bool) :
    table.register files load other (tokens.map change) =
      (table.register files load text tokens).mapError (ListingError.moved distance) := by
  simp only [SourceTable.register, hrespells.readFileLine_map]
  cases readFileLine text tokens with
  | error error => rfl
  | ok read =>
      match read with
      | (_, none) => rfl
      | (_, some _) => rfl

end Respells

/-- Tokens that have not moved tell of an error where it was. -/
theorem mapError_moved_zero {α : Type} (outcome : Except ListingError α) :
    outcome.mapError (ListingError.moved 0) = outcome := by
  cases outcome with
  | error error => cases error <;> rfl
  | ok value => rfl

theorem respells_moved (front text : Text) (shift : Nat) (tokens : List Token) :
    Respells text (front ++ text) front.byteSize (Token.moved front.byteSize shift) tokens :=
  ⟨fun _ _ => rfl, fun token _ => Token.text_moved front text shift token, fun _ _ => rfl⟩

/-! ## What is assembled -/

namespace LabelTable

theorem declare_moved (distance : Nat) (table : LabelTable) (name : Text) (place : LineRef) :
    (table.moved distance).declare name place = (table.declare name place).moved distance := by
  have hcurrent : (table.moved distance).current = table.current := rfl
  unfold declare
  rw [hcurrent]
  split
  · cases table.current <;> rfl
  · rfl

theorem use_moved (distance : Nat) (table : LabelTable) (source : LineRef)
    (position length : Nat) :
    (table.moved distance).use source ⟨position + distance, length⟩ =
      (table.use source ⟨position, length⟩).moved distance := by
  simp [use, moved, ownerBlock, LabelUse.moved]

end LabelTable

namespace Assembly

variable (front : Text) (distance shift : Nat) (assembly : Assembly) (context : Context)

theorem closeBlock_moved :
    (assembly.moved distance shift).closeBlock = assembly.closeBlock.moved distance shift := by
  unfold closeBlock
  rw [apply_ite (moved distance shift)]
  rfl

theorem beginLine_moved (first : Token) :
    (assembly.moved distance shift).beginLine (first.moved distance shift) =
      (assembly.beginLine first).moved distance shift := by
  have hbranch : (assembly.moved distance shift).afterBranch = assembly.afterBranch := rfl
  unfold beginLine
  rw [closeBlock_moved, Token.kind_moved, hbranch]
  split <;> rfl

theorem store_moved (text : Text) (kind : LineKind) (tokens : List Token) (length : Nat) :
    (assembly.moved front.byteSize shift).store (front ++ text) kind
        (tokens.map (Token.moved front.byteSize shift)) length =
      (assembly.store text kind tokens length).moved front.byteSize shift := by
  simp [store, moved, List.filter_map, Function.comp_def]

theorem storeLocation_moved (location : SourceLocation) (tokens : List Token) :
    (assembly.moved front.byteSize shift).storeLocation (context.behind front) location
        (tokens.map (Token.moved front.byteSize shift)) =
      (assembly.storeLocation context location tokens).moved front.byteSize shift := by
  have hcaption : (assembly.moved front.byteSize shift).sources.caption
      (context.behind front).dialect.commentStart location =
      assembly.sources.caption context.dialect.commentStart location := rfl
  unfold storeLocation
  simp only [hcaption]
  split
  · exact store_moved ..
  · exact store_moved front shift { assembly with captions := assembly.captions.insert _ _ } ..

/-- A line that is stored along with labels. -/
theorem store_labels_moved (labels : LabelTable) (text : Text) (kind : LineKind)
    (tokens : List Token) (length : Nat) :
    ({ assembly.moved front.byteSize shift with
        labels := labels.moved front.byteSize }).store (front ++ text) kind
        (tokens.map (Token.moved front.byteSize shift)) length =
      ({ assembly with labels := labels }.store text kind tokens length).moved
        front.byteSize shift :=
  store_moved front shift { assembly with labels := labels } text kind tokens length

theorem storeLabel_moved (tokens : List Token) :
    (assembly.moved front.byteSize shift).storeLabel (context.behind front)
        (tokens.map (Token.moved front.byteSize shift)) =
      (assembly.storeLabel context tokens).moved front.byteSize shift := by
  have hlength := lineLength_moved front.byteSize shift tokens context.dialect
  unfold storeLabel
  cases tokens with
  | nil => exact store_moved front shift assembly context.text .labelDeclaration [] _
  | cons label rest =>
      have hname : (label.moved front.byteSize shift).text (context.behind front).text =
          label.text context.text := Token.text_moved ..
      have hlabels : (assembly.moved front.byteSize shift).labels.declare
          (label.text context.text) (assembly.moved front.byteSize shift).nextRef =
          (assembly.labels.declare (label.text context.text) assembly.nextRef).moved
            front.byteSize := LabelTable.declare_moved ..
      have hdialect : (context.behind front).dialect = context.dialect := rfl
      rw [hdialect, hlength]
      simp only [List.map_cons, hname, hlabels]
      exact store_labels_moved front shift assembly _ context.text .labelDeclaration
        (label :: rest) _

theorem storeBranch_moved (kind : LineKind) (tokens : List Token) :
    (assembly.moved front.byteSize shift).storeBranch (context.behind front) kind
        (tokens.map (Token.moved front.byteSize shift)) =
      (assembly.storeBranch context kind tokens).moved front.byteSize shift := by
  unfold storeBranch
  simp only [markTarget_moved, lineLength_moved]
  cases (markTarget tokens).2 with
  | none => exact store_moved ..
  | some target =>
      have hlabels : (assembly.moved front.byteSize shift).labels.use
          (assembly.moved front.byteSize shift).nextRef
          ⟨target.position + front.byteSize, target.length⟩ =
          (assembly.labels.use assembly.nextRef ⟨target.position, target.length⟩).moved
            front.byteSize := LabelTable.use_moved ..
      simp only [Option.map_some, Token.moved, hlabels]
      exact store_labels_moved ..

theorem finishLine_moved (tokens : List Token) :
    (assembly.moved front.byteSize shift).finishLine (context.behind front)
        (tokens.map (Token.moved front.byteSize shift)) =
      ((assembly.finishLine context tokens).map (moved front.byteSize shift)).mapError
        (ListingError.moved front.byteSize) := by
  have hlength := lineLength_moved front.byteSize shift tokens context.dialect
  unfold finishLine
  rw [lineKind_moved]
  cases lineKind tokens with
  | sourceFile =>
      have hregister := (respells_moved front context.text shift tokens).register_map
        assembly.sources context.files context.options.loadSourceFiles
      simp only [moved, Context.behind, hregister]
      cases SourceTable.register assembly.sources context.files context.options.loadSourceFiles
        context.text tokens <;> rfl
  | sourceLocation =>
      have hlocation := (respells_moved front context.text shift tokens).readLocation_map
      simp only [Context.behind, hlocation]
      cases readLocation context.text tokens with
      | error error => rfl
      | ok location => exact congrArg Except.ok (storeLocation_moved ..)
  | labelDeclaration => exact congrArg Except.ok (storeLabel_moved ..)
  | codeBranch => exact congrArg Except.ok (storeBranch_moved ..)
  | codeJump => exact congrArg Except.ok (storeBranch_moved ..)
  | _ =>
      simp only [Context.behind, hlength]
      exact congrArg Except.ok (store_moved ..)

/-- One more line moves what is assembled. -/
theorem addLine_moved (tokens : List Token) :
    addLine (context.behind front) (assembly.moved front.byteSize shift)
        (tokens.map (Token.moved front.byteSize shift)) =
      ((addLine context assembly tokens).map (moved front.byteSize shift)).mapError
        (ListingError.moved front.byteSize) := by
  cases tokens with
  | nil => rfl
  | cons first rest =>
      have hfinish := finishLine_moved front shift (assembly.beginLine first) context
        (first :: rest)
      rw [← beginLine_moved] at hfinish
      exact hfinish

/-- So does a whole run. -/
theorem addLines_moved (groups : List (List Token)) :
    addLines (context.behind front) (assembly.moved front.byteSize shift)
        (groups.map (·.map (Token.moved front.byteSize shift))) =
      ((addLines context assembly groups).map (moved front.byteSize shift)).mapError
        (ListingError.moved front.byteSize) := by
  induction groups generalizing assembly with
  | nil => rfl
  | cons tokens rest ih =>
      rw [addLines, List.map_cons, List.foldlM_cons, addLine_moved, addLines, List.foldlM_cons]
      cases addLine context assembly tokens with
      | error error => rfl
      | ok following => exact ih following

end Assembly

/-! ## Labels and renderings -/

/-- What stops the resolution of labels tells of no place in the text. -/
theorem mapError_addUse (distance : Nat) (lines : List Line) (blocks : List Block)
    (source target : LineRef) :
    (addUse lines blocks source target).mapError (ListingError.moved distance) =
      addUse lines blocks source target := by
  have hrecord : ∀ {α : Type} (records : Records) (items : List α) (index : Nat),
      (getRecord records items index).mapError (ListingError.moved distance) =
        getRecord records items index := by
    intro α records items index
    unfold getRecord
    cases items[index]? <;> rfl
  unfold addUse
  simp only [Fallible.mapError_bind, hrecord, apply_ite (Except.mapError _)]
  rfl

namespace LabelTable

theorem resolveUses_moved (table : LabelTable) (front text : Text) (lines : List Line)
    (uses : List LabelUse) (blocks : List Block) (resolved : Nat) :
    (table.moved front.byteSize).resolveUses (front ++ text) lines
        (uses.map (LabelUse.moved front.byteSize)) blocks resolved =
      table.resolveUses text lines uses blocks resolved := by
  induction uses generalizing blocks resolved with
  | nil => rfl
  | cons use rest ih =>
      have hname : (front ++ text).view (use.target.position + front.byteSize)
          use.target.length = text.view use.target.position use.target.length :=
        Text.view_append_add ..
      have hlookup : ∀ name, (table.moved front.byteSize).lookup? name use.ownerBlock =
          table.lookup? name use.ownerBlock := fun _ => rfl
      rw [List.map_cons, resolveUses, resolveUses]
      simp only [LabelUse.moved, hname, hlookup, ih]

theorem mapError_resolveUses (distance : Nat) (table : LabelTable) (text : Text)
    (lines : List Line) (uses : List LabelUse) (blocks : List Block) (resolved : Nat) :
    (table.resolveUses text lines uses blocks resolved).outcome.mapError
        (ListingError.moved distance) =
      (table.resolveUses text lines uses blocks resolved).outcome := by
  induction uses generalizing blocks resolved with
  | nil => rfl
  | cons use rest ih =>
      rw [resolveUses]
      cases table.lookup? (text.view use.target.position use.target.length) use.ownerBlock with
      | none => exact ih blocks resolved
      | some target =>
          have hadd := mapError_addUse distance lines blocks use.source target
          simp only
          cases hresult : addUse lines blocks use.source target with
          | error error =>
              rw [hresult] at hadd
              exact congrArg Except.error (Except.error.inj hadd)
          | ok linked => exact ih linked (resolved + 1)

theorem mapError_resolve (distance : Nat) (table : LabelTable) (text : Text) (lines : List Line)
    (blocks : List Block) :
    (table.resolve text lines blocks).outcome.mapError (ListingError.moved distance) =
      (table.resolve text lines blocks).outcome :=
  mapError_resolveUses distance table text lines table.uses blocks 0

theorem resolve_moved (table : LabelTable) (front text : Text) (lines : List Line)
    (blocks : List Block) :
    (table.moved front.byteSize).resolve (front ++ text) lines blocks =
      table.resolve text lines blocks :=
  resolveUses_moved table front text lines table.uses blocks 0

end LabelTable

namespace Renderer

/-- The renderer of a listing behind other text. -/
def moved (front : Text) (shift : Nat) (renderer : Renderer) : Renderer :=
  { renderer with
    text := front ++ renderer.text
    tokens := renderer.tokens.map (Token.moved front.byteSize shift) }

variable (front : Text) (shift : Nat) (renderer : Renderer)

theorem spelling_moved (token : Token) :
    (renderer.moved front shift).spelling (token.moved front.byteSize shift) =
      renderer.spelling token := by
  simp only [spelling, moved, Token.kind_moved, Token.text_moved]

theorem lineText_moved (colored : Bool) (tokens : List Token) :
    (renderer.moved front shift).lineText colored
        (tokens.map (Token.moved front.byteSize shift)) =
      renderer.lineText colored tokens := by
  induction tokens with
  | nil => rfl
  | cons token rest ih =>
      rw [List.map_cons, lineText, lineText, ih, List.head?_map, spelling_moved]
      simp only [moved, padding_moved, Token.kind_moved]
      rfl

theorem lineColumns_moved (column : Nat) (tokens : List Token) :
    (renderer.moved front shift).lineColumns column
        (tokens.map (Token.moved front.byteSize shift)) =
      renderer.lineColumns column tokens := by
  induction tokens generalizing column with
  | nil => rfl
  | cons token rest ih =>
      rw [List.map_cons, lineColumns, lineColumns, ih, List.head?_map, spelling_moved]
      simp only [moved, padding_moved]

theorem renderLine_moved (colored : Bool) (lineIndex : Nat) (line : Line) :
    (renderer.moved front shift).renderLine colored lineIndex line =
      renderer.renderLine colored lineIndex line := by
  have htokens : line.tokens? (renderer.moved front shift).tokens =
      (line.tokens? renderer.tokens).map (·.map (Token.moved front.byteSize shift)) :=
    Line.tokens?_moved ..
  have hcount : (renderer.moved front shift).tokens.length = renderer.tokens.length :=
    List.length_map _
  unfold renderLine
  rw [htokens, hcount]
  cases line.tokens? renderer.tokens with
  | none => rfl
  | some tokens =>
      simp only [Option.map_some, lineText_moved, lineColumns_moved]
      rfl

theorem renderLines_moved (colored : Bool) (lineIndex count : Nat) :
    (renderer.moved front shift).renderLines colored lineIndex count =
      renderer.renderLines colored lineIndex count := by
  induction count generalizing lineIndex with
  | zero => rfl
  | succ count ih =>
      simp only [renderLines, renderLine_moved, ih]
      rfl

/-- Blocks look the same, wherever the listing stands. -/
theorem renderBlock_moved (index : Nat) (colored : Bool) :
    (renderer.moved front shift).renderBlock index colored =
      renderer.renderBlock index colored := by
  simp only [renderBlock, renderLines_moved]
  rfl

end Renderer

end AsmListing
