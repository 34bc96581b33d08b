import AsmListing.Proofs.Outline.Records

/-!
# What a label means

Labels are looked up through a chain of tables: a use remembers the block in
which its scope was opened, that block leads back to the name of the scope, and
the scope and the name of a local label lead to its declaration.  None of these
steps is needed to say what a label means.  `scopeOf` reads the scope of a line
off the declarations before it, and `resolve?` finds the declaration that a name
refers to among all lines.

`LabelTable.Knows` relates the tables to the lines that were noted in them.  One
more line keeps it (`Knows.noteLabel`), so it holds of all lines
(`knows_labelRecords`), and it gives `lookup?_labelRecords`: the chain of tables
and `resolve?` find the same line.

The chain would break if two scopes were opened in one block.  `Labeled` excludes
it: a declaration starts its block, so every line before it lies in an earlier
one.
-/

namespace AsmListing

/-- A part of a listing to which local labels belong. -/
inductive Scope
  /-- Before every global label. -/
  | synthetic
  /-- After the declaration of a global label. -/
  | named (label : Text)
  deriving DecidableEq, Repr

namespace PlacedLine

/-- The label that a line declares. -/
def declared? (text : Text) (line : PlacedLine) : Option Text :=
  if line.kind = .labelDeclaration then line.tokens.head?.map (·.text text) else none

/-- The operand that names the target of a branch or a jump: after the mnemonic,
the first token that is no blank, register or number, if it can be a name. -/
def operand? (line : PlacedLine) : Option Token :=
  if line.kind = .codeBranch ∨ line.kind = .codeJump then
    let mnemonicOn := line.tokens.dropWhile fun token =>
      token.kind != .branch && token.kind != .jump
    (mnemonicOn.tail.find? (!·.kind.precedesTarget)).filter (·.kind.namesTarget)
  else
    none

end PlacedLine

theorem PlacedLine.declared?_of_operand? {line : PlacedLine} {target : Token}
    (hoperand : line.operand? = some target) (text : Text) : line.declared? text = none := by
  unfold operand? at hoperand
  split at hoperand
  · next hkind => rcases hkind with hkind | hkind <;> simp [declared?, hkind]
  · cases hoperand

/-- The scope after lines: that of the global label declared last, or else, if
any label is declared, the one that the first local label has opened. -/
def scopeAfter (text : Text) (lines : List PlacedLine) : Option Scope :=
  let names := lines.filterMap (·.declared? text)
  match (names.filter (!isLocalLabel ·)).getLast? with
  | some label => some (.named label)
  | none => if names.isEmpty then none else some .synthetic

/-- The scope of a line, by the lines before it.  A local label without a scope
opens one. -/
def scopeOf (text : Text) (earlier : List PlacedLine) (line : PlacedLine) : Option Scope :=
  if (line.declared? text).any isLocalLabel then
    some ((scopeAfter text earlier).getD .synthetic)
  else
    scopeAfter text earlier

/-- Each item with the items before it, after those given. -/
def withEarlier {α : Type} : List α → List α → List (List α × α)
  | _, [] => []
  | earlier, item :: rest => (earlier, item) :: withEarlier (earlier ++ [item]) rest

/-- The line that declares a name, as seen from a scope: the first declaration of
a global label, and the last one of a local label in that scope. -/
def resolve? (text : Text) (lines : List PlacedLine) (scope : Option Scope) (name : Text) :
    Option LineRef :=
  if isLocalLabel name then
    let declarations := (withEarlier [] lines).filter fun (earlier, line) =>
      line.declared? text = some name ∧ scope.isSome ∧ scopeOf text earlier line = scope
    declarations.getLast?.map fun declaration => declaration.2.place
  else
    (lines.find? fun line => line.declared? text = some name).map (·.place)

/-! ## Lines one after the other -/

theorem withEarlier_append {α : Type} (earlier first second : List α) :
    withEarlier earlier (first ++ second) =
      withEarlier earlier first ++ withEarlier (earlier ++ first) second := by
  induction first generalizing earlier with
  | nil => simp [withEarlier]
  | cons item rest ih => simp [withEarlier, ih]

theorem exists_append_of_mem_withEarlier {α : Type} {before earlier items : List α} {item : α}
    (hmem : (earlier, item) ∈ withEarlier before items) :
    ∃ later, before ++ items = earlier ++ item :: later := by
  induction items generalizing before with
  | nil => simp [withEarlier] at hmem
  | cons first rest ih =>
      rcases List.mem_cons.mp hmem with hfirst | hrest
      · cases hfirst
        exact ⟨rest, rfl⟩
      · obtain ⟨later, hlater⟩ := ih hrest
        exact ⟨later, by rw [← hlater, List.append_assoc, List.singleton_append]⟩

theorem scopeAfter_concat_of_none {text : Text} {lines : List PlacedLine} {line : PlacedLine}
    (hnone : line.declared? text = none) :
    scopeAfter text (lines ++ [line]) = scopeAfter text lines := by
  simp [scopeAfter, List.filterMap_append, hnone]

/-- A global label opens its scope; a local one stays in the scope or, if there is
none, opens the one without a name. -/
theorem scopeAfter_concat_of_some {text : Text} {lines : List PlacedLine} {line : PlacedLine}
    {name : Text} (hname : line.declared? text = some name) :
    scopeAfter text (lines ++ [line]) =
      some (if isLocalLabel name then (scopeAfter text lines).getD .synthetic
        else .named name) := by
  unfold scopeAfter
  simp only [List.filterMap_append, List.filterMap_cons, hname, List.filterMap_nil]
  generalize lines.filterMap (·.declared? text) = names
  cases hlocal : isLocalLabel name with
  | false => simp [List.filter_append, hlocal]
  | true =>
      have hglobal : (names ++ [name]).filter (!isLocalLabel ·) =
          names.filter (!isLocalLabel ·) := by
        simp [List.filter_append, hlocal]
      rw [hglobal, if_pos rfl]
      cases (names.filter (!isLocalLabel ·)).getLast? with
      | some label => rfl
      | none => cases names <;> rfl

/-! ## What a line does to the tables -/

/-- The name under which the tables keep a scope. -/
def Scope.key : Scope → Text
  | .synthetic => []
  | .named label => label

theorem markOperand_snd (tokens : List Token) :
    (markOperand tokens).2 =
      (tokens.find? (!·.kind.precedesTarget)).filter (·.kind.namesTarget) := by
  induction tokens with
  | nil => rfl
  | cons token rest ih =>
      rw [markOperand]
      by_cases hprecedes : token.kind.precedesTarget = true
      · simp [hprecedes, ih]
      · by_cases hnames : token.kind.namesTarget = true <;> simp [hprecedes, hnames, Option.filter]

theorem markTarget_snd (tokens : List Token) :
    (markTarget tokens).2 =
      (markOperand (tokens.dropWhile fun token =>
        token.kind != .branch && token.kind != .jump).tail).2 := by
  induction tokens with
  | nil => rfl
  | cons token rest ih =>
      rw [markTarget]
      by_cases hmnemonic : token.kind = .branch ∨ token.kind = .jump
      · rw [if_pos hmnemonic, List.dropWhile_cons_of_neg (by simpa [← or_iff_not_imp_left])]
        rfl
      · rw [if_neg hmnemonic, List.dropWhile_cons_of_pos (by simpa using hmnemonic), ih]

/-- A line is noted by the label it declares or the operand it has. -/
theorem noteLabel_eq (text : Text) (table : LabelTable) (line : PlacedLine) :
    noteLabel text table line =
      match line.declared? text with
      | some name => table.declare name line.place
      | none =>
        match line.operand? with
        | none => table
        | some target => table.use line.place ⟨target.position, target.length⟩ := by
  unfold noteLabel PlacedLine.declared? PlacedLine.operand?
  cases line.kind with
  | labelDeclaration => cases line.tokens <;> rfl
  | codeBranch =>
      rw [markTarget_snd, markOperand_snd]
      rfl
  | codeJump =>
      rw [markTarget_snd, markOperand_snd]
      rfl
  | _ => simp

theorem lookup_cons_of_ne {α β : Type} [BEq α] [LawfulBEq α] {key other : α} (hne : key ≠ other)
    (value : β) (rest : List (α × β)) :
    List.lookup key ((other, value) :: rest) = rest.lookup key := by
  simp [List.lookup_cons, beq_false_of_ne hne]

namespace LabelTable

/-- The scope that the declaration of a label opens. -/
def opened? (table : LabelTable) (name : Text) : Option Text :=
  if isLocalLabel name then
    if table.current.isNone then some [] else none
  else
    some name

theorem current_declare (table : LabelTable) (name : Text) (place : LineRef) :
    (table.declare name place).current =
      some (if isLocalLabel name then table.current.getD [] else name) := by
  unfold declare
  split
  · cases hcurrent : table.current <;> simp [declareLocal, openScope, hcurrent]
  · simp [openScope]

theorem locals_declare (table : LabelTable) (name : Text) (place : LineRef) :
    (table.declare name place).locals =
      if isLocalLabel name then ((table.current.getD [], name), place) :: table.locals
      else table.locals := by
  unfold declare
  split
  · cases hcurrent : table.current <;> simp [declareLocal, openScope]
  · simp [openScope]

theorem owners_declare (table : LabelTable) (name : Text) (place : LineRef) :
    (table.declare name place).owners =
      (table.opened? name).toList.map (place.block, ·) ++ table.owners := by
  unfold declare opened?
  split
  · cases hcurrent : table.current <;> simp [declareLocal, openScope]
  · simp [openScope]

theorem lookup_owners_declare_of_ne (table : LabelTable) (name : Text) {place : LineRef}
    {block : Nat} (hne : block ≠ place.block) :
    (table.declare name place).owners.lookup block = table.owners.lookup block := by
  rw [owners_declare]
  cases table.opened? name with
  | none => rfl
  | some key => exact lookup_cons_of_ne hne key table.owners

theorem lookup_owners_declare_of_opened {table : LabelTable} {name key : Text} (place : LineRef)
    (hopened : table.opened? name = some key) :
    (table.declare name place).owners.lookup place.block = some key := by
  simp [owners_declare, hopened]

theorem uses_declare (table : LabelTable) (name : Text) (place : LineRef) :
    (table.declare name place).uses = table.uses := by
  unfold declare
  split
  · cases hcurrent : table.current <;> simp [declareLocal, openScope]
  · simp [openScope]

theorem lookup_globals_openScope (table : LabelTable) (name key : Text) (place : LineRef) :
    (table.openScope name place).globals.lookup key =
      (table.globals.lookup key).or (if name = key then some place else none) := by
  unfold openScope
  by_cases hkey : name = key
  · subst hkey
    cases hfound : table.globals.lookup name <;> simp [hfound, List.lookup_append]
  · split
    · simp
    · simp [List.lookup_append, lookup_cons_of_ne (Ne.symm hkey)]

theorem lookup_globals_declare (table : LabelTable) (name key : Text) (place : LineRef) :
    (table.declare name place).globals.lookup key =
      (table.globals.lookup key).or
        (if table.opened? name = some key then some place else none) := by
  unfold declare opened?
  split
  · cases hcurrent : table.current with
    | some scope => simp [declareLocal]
    | none => simp [declareLocal, lookup_globals_openScope]
  · simp [lookup_globals_openScope]

theorem opened?_eq_iff (table : LabelTable) {name key : Text} (hne : key ≠ [])
    (hglobal : isLocalLabel key = false) : table.opened? name = some key ↔ name = key := by
  unfold opened?
  split
  · next hlocal =>
      have hother : name ≠ key := by
        rintro rfl
        simp [hglobal] at hlocal
      split <;> simp [hother, hne.symm]
  · simp

end LabelTable

/-! ## What the tables know -/

/-- Lines whose declarations have names and start their blocks. -/
structure Labeled (text : Text) (lines : List PlacedLine) : Prop where
  named : ∀ line ∈ lines, ∀ name, line.declared? text = some name → name ≠ []
  apart : lines.Pairwise fun earlier later =>
    later.kind = .labelDeclaration → earlier.place.block < later.place.block

theorem Labeled.of_append {text : Text} {first second : List PlacedLine}
    (hlines : Labeled text (first ++ second)) : Labeled text first :=
  ⟨fun line hline => hlines.named line (List.mem_append_left _ hline),
    (List.pairwise_append.mp hlines.apart).1⟩

theorem Labeled.block_lt {text : Text} {lines : List PlacedLine} {line : PlacedLine} {name : Text}
    (hlines : Labeled text (lines ++ [line])) (hname : line.declared? text = some name) :
    ∀ earlier ∈ lines, earlier.place.block < line.place.block := by
  intro earlier hearlier
  have hkind : line.kind = .labelDeclaration := by
    by_contra hkind
    simp [PlacedLine.declared?, hkind] at hname
  exact (List.pairwise_append.mp hlines.apart).2.2 earlier hearlier line List.mem_cons_self hkind

/-- The place of the first declaration of a label. -/
def firstDeclaration? (text : Text) (lines : List PlacedLine) (name : Text) : Option LineRef :=
  (lines.find? fun line => line.declared? text = some name).map (·.place)

/-- The place of the last declaration of a label in a scope. -/
def lastDeclaration? (text : Text) (lines : List PlacedLine) (scope : Scope) (name : Text) :
    Option LineRef :=
  ((withEarlier [] lines).filter fun (earlier, line) =>
    line.declared? text = some name ∧ scopeOf text earlier line = some scope).getLast?.map
      fun declaration => declaration.2.place

theorem firstDeclaration?_concat (text : Text) (lines : List PlacedLine) (line : PlacedLine)
    (name : Text) :
    firstDeclaration? text (lines ++ [line]) name =
      (firstDeclaration? text lines name).or
        (if line.declared? text = some name then some line.place else none) := by
  unfold firstDeclaration?
  rw [List.find?_append, Option.map_or]
  by_cases hname : line.declared? text = some name <;> simp [hname]

theorem lastDeclaration?_concat (text : Text) (lines : List PlacedLine) (line : PlacedLine)
    (scope : Scope) (name : Text) :
    lastDeclaration? text (lines ++ [line]) scope name =
      if line.declared? text = some name ∧ scopeOf text lines line = some scope then
        some line.place
      else
        lastDeclaration? text lines scope name := by
  unfold lastDeclaration?
  rw [withEarlier_append, List.filter_append, List.nil_append, withEarlier, withEarlier]
  by_cases hline : line.declared? text = some name ∧ scopeOf text lines line = some scope <;>
    simp [hline]

theorem Labeled.scopeAfter_ne {text : Text} {lines : List PlacedLine}
    (hlines : Labeled text lines) : scopeAfter text lines ≠ some (.named []) := by
  intro hscope
  unfold scopeAfter at hscope
  simp only at hscope
  split at hscope
  · next label hlabel =>
      cases hscope
      have hmem := (List.mem_filter.mp (List.mem_of_getLast? hlabel)).1
      obtain ⟨line, hline, hdeclared⟩ := List.mem_filterMap.mp hmem
      exact hlines.named line hline [] hdeclared rfl
  · split at hscope <;> cases hscope

theorem Scope.key_inj {first second : Scope} (hfirst : first ≠ .named [])
    (hsecond : second ≠ .named []) : first.key = second.key ↔ first = second := by
  cases first <;> cases second <;> simp_all [key, eq_comm]

namespace LabelTable

/-- What a table knows of the lines that were noted in it. -/
structure Knows (table : LabelTable) (text : Text) (lines : List PlacedLine) : Prop where
  current_eq : table.current = (scopeAfter text lines).map Scope.key
  globals_eq : ∀ name, name ≠ [] → isLocalLabel name = false →
    table.globals.lookup name = firstDeclaration? text lines name
  locals_eq : ∀ scope name, scope ≠ .named [] → isLocalLabel name = true →
    table.locals.lookup (scope.key, name) = lastDeclaration? text lines scope name
  /-- Scopes are opened at lines. -/
  opened_at : ∀ key place, table.globals.lookup key = some place →
    ∃ line ∈ lines, line.place = place
  /-- The block where a scope was opened leads back to it. -/
  owners_eq : ∀ key place, table.globals.lookup key = some place →
    table.owners.lookup place.block = some key
  /-- The current scope was opened. -/
  current_opened : ∀ key, table.current = some key → (table.globals.lookup key).isSome

theorem knows_empty (text : Text) : empty.Knows text [] := by
  constructor <;> simp [empty, scopeAfter, firstDeclaration?, lastDeclaration?, withEarlier]

namespace Knows

variable {table : LabelTable} {text : Text} {lines : List PlacedLine} {line : PlacedLine}

theorem use (hknows : table.Knows text lines) (source : LineRef) (target : Span) :
    (table.use source target).Knows text lines :=
  ⟨hknows.current_eq, hknows.globals_eq, hknows.locals_eq, hknows.opened_at, hknows.owners_eq,
    hknows.current_opened⟩

theorem pass (hknows : table.Knows text lines) (hnone : line.declared? text = none) :
    table.Knows text (lines ++ [line]) where
  current_eq := by rw [scopeAfter_concat_of_none hnone, hknows.current_eq]
  globals_eq name hne hglobal := by
    rw [firstDeclaration?_concat, hnone, hknows.globals_eq name hne hglobal]
    simp
  locals_eq scope name hne hlocal := by
    rw [lastDeclaration?_concat, hnone, hknows.locals_eq scope name hne hlocal]
    simp
  opened_at key place hfound := by
    obtain ⟨opening, hopening, hplace⟩ := hknows.opened_at key place hfound
    exact ⟨opening, List.mem_append_left _ hopening, hplace⟩
  owners_eq := hknows.owners_eq
  current_opened := hknows.current_opened

theorem getD_current (hknows : table.Knows text lines) :
    table.current.getD [] = ((scopeAfter text lines).getD .synthetic).key := by
  rw [hknows.current_eq]
  cases scopeAfter text lines <;> rfl

theorem lookup_locals_declare (hknows : table.Knows text lines)
    (hlines : Labeled text (lines ++ [line])) {name : Text}
    (hname : line.declared? text = some name) {scope : Scope} {key : Text}
    (hscope : scope ≠ .named []) (hlocal : isLocalLabel key = true) :
    (table.declare name line.place).locals.lookup (scope.key, key) =
      lastDeclaration? text (lines ++ [line]) scope key := by
  rw [locals_declare, lastDeclaration?_concat, hname, scopeOf, hname, Option.any_some,
    ← hknows.locals_eq scope key hscope hlocal]
  by_cases hsame : name = key
  · subst hsame
    -- the names of scopes in the tables tell the scopes apart
    have hafter : (scopeAfter text lines).getD .synthetic ≠ .named [] := by
      have hne := hlines.of_append.scopeAfter_ne
      cases hcase : scopeAfter text lines <;> simp_all
    rw [if_pos hlocal, if_pos hlocal, hknows.getD_current]
    by_cases hkey : scope = (scopeAfter text lines).getD .synthetic
    · simp [← hkey]
    · have hother : (scope.key, name) ≠ (((scopeAfter text lines).getD .synthetic).key, name) := by
        simpa [Scope.key_inj hscope hafter] using hkey
      rw [lookup_cons_of_ne hother, if_neg (by simpa using Ne.symm hkey)]
  · have hother : (scope.key, key) ≠ (table.current.getD [], name) := by
      simp [Ne.symm hsame]
    simp only [Option.some.injEq, hsame, false_and, if_false]
    split
    · exact lookup_cons_of_ne hother _ _
    · rfl

theorem lookup_owners_declare (hknows : table.Knows text lines)
    (hlines : Labeled text (lines ++ [line])) {name : Text}
    (hname : line.declared? text = some name) {key : Text} {place : LineRef}
    (hfound : (table.declare name line.place).globals.lookup key = some place) :
    (table.declare name line.place).owners.lookup place.block = some key := by
  rw [lookup_globals_declare] at hfound
  rcases Option.or_eq_some_iff.mp hfound with hfound | ⟨-, hnew⟩
  · -- the scope was opened in an earlier block than that of the declaration
    obtain ⟨opening, hopening, rfl⟩ := hknows.opened_at key place hfound
    have hblock := hlines.block_lt hname opening hopening
    rw [lookup_owners_declare_of_ne table name hblock.ne]
    exact hknows.owners_eq key _ hfound
  · obtain ⟨hopened, hplace⟩ := Option.ite_none_right_eq_some.mp hnew
    cases hplace
    exact lookup_owners_declare_of_opened line.place hopened

/-- A declaration becomes known, and what was known before stays so. -/
theorem declare (hknows : table.Knows text lines) (hlines : Labeled text (lines ++ [line]))
    {name : Text} (hname : line.declared? text = some name) :
    (table.declare name line.place).Knows text (lines ++ [line]) where
  current_eq := by
    rw [current_declare, scopeAfter_concat_of_some hname, hknows.getD_current]
    cases isLocalLabel name <;> rfl
  globals_eq key hne hglobal := by
    rw [lookup_globals_declare, firstDeclaration?_concat, hname,
      hknows.globals_eq key hne hglobal]
    simp [table.opened?_eq_iff hne hglobal]
  locals_eq scope key hscope hlocal := hknows.lookup_locals_declare hlines hname hscope hlocal
  opened_at key place hfound := by
    rw [lookup_globals_declare] at hfound
    rcases Option.or_eq_some_iff.mp hfound with hfound | ⟨-, hnew⟩
    · obtain ⟨opening, hopening, hplace⟩ := hknows.opened_at key place hfound
      exact ⟨opening, List.mem_append_left _ hopening, hplace⟩
    · obtain ⟨-, hplace⟩ := Option.ite_none_right_eq_some.mp hnew
      cases hplace
      exact ⟨line, List.mem_append_right _ List.mem_cons_self, rfl⟩
  owners_eq key place hfound := hknows.lookup_owners_declare hlines hname hfound
  current_opened key hcurrent := by
    rw [current_declare, Option.some.injEq] at hcurrent
    rw [lookup_globals_declare, Option.isSome_or, Bool.or_eq_true]
    by_cases hstays : isLocalLabel name = true ∧ table.current = some key
    · exact .inl (hknows.current_opened key hstays.2)
    · -- the declaration has opened the scope, if it was not open before
      right
      have hopened : table.opened? name = some key := by
        unfold opened?
        cases hbefore : table.current <;> split <;> simp_all
      simp [hopened]

theorem noteLabel (hknows : table.Knows text lines) (hlines : Labeled text (lines ++ [line])) :
    (noteLabel text table line).Knows text (lines ++ [line]) := by
  rw [noteLabel_eq]
  cases hdeclared : line.declared? text with
  | some name => exact hknows.declare hlines hdeclared
  | none =>
      cases line.operand? with
      | none => exact hknows.pass hdeclared
      | some target => exact (hknows.pass hdeclared).use _ _

end Knows

end LabelTable

/-- All lines that were noted are known. -/
theorem knows_labelRecords {text : Text} {lines : List PlacedLine} (hlines : Labeled text lines) :
    (labelRecords text lines).Knows text lines := by
  induction lines using List.reverseRecOn with
  | nil => exact LabelTable.knows_empty text
  | append_singleton lines line ih =>
      rw [labelRecords_concat]
      exact (ih hlines.of_append).noteLabel hlines

/-! ## Looking up a label -/

theorem lookup_globals_noteLabel {text : Text} {table : LabelTable} {key : Text} {place : LineRef}
    (hfound : table.globals.lookup key = some place) (line : PlacedLine) :
    (noteLabel text table line).globals.lookup key = some place := by
  rw [noteLabel_eq]
  cases line.declared? text with
  | some name =>
      rw [LabelTable.lookup_globals_declare, hfound]
      rfl
  | none => cases line.operand? <;> exact hfound

theorem lookup_globals_labelRecords_append {text : Text} {first : List PlacedLine} {key : Text}
    {place : LineRef} (hfound : (labelRecords text first).globals.lookup key = some place)
    (second : List PlacedLine) :
    (labelRecords text (first ++ second)).globals.lookup key = some place := by
  induction second using List.reverseRecOn with
  | nil => rwa [List.append_nil]
  | append_singleton rest line ih =>
      rw [← List.append_assoc, labelRecords_concat]
      exact lookup_globals_noteLabel ih line

/-- The uses of labels are those of the operands, each with the scope that it
finds. -/
theorem uses_labelRecords (text : Text) (lines : List PlacedLine) :
    (labelRecords text lines).uses =
      (withEarlier [] lines).filterMap fun (earlier, line) => line.operand?.map fun target =>
        ⟨(labelRecords text earlier).ownerBlock, line.place, ⟨target.position, target.length⟩⟩ := by
  induction lines using List.reverseRecOn with
  | nil => rfl
  | append_singleton lines line ih =>
      rw [labelRecords_concat, withEarlier_append, List.filterMap_append, ← ih, noteLabel_eq]
      cases hoperand : line.operand? with
      | none =>
          cases line.declared? text <;> simp [withEarlier, hoperand, LabelTable.uses_declare]
      | some target =>
          simp [withEarlier, hoperand, line.declared?_of_operand? hoperand, LabelTable.use]

/-- The chain of tables finds the line that a name refers to. -/
theorem lookup?_labelRecords {text : Text} {earlier later : List PlacedLine} {line : PlacedLine}
    (hlines : Labeled text (earlier ++ line :: later)) {target : Token}
    (hoperand : line.operand? = some target) {name : Text} (hname : name ≠ []) :
    (labelRecords text (earlier ++ line :: later)).lookup? name
        (labelRecords text earlier).ownerBlock =
      resolve? text (earlier ++ line :: later) (scopeOf text earlier line) name := by
  have hearlier := knows_labelRecords hlines.of_append
  have hall := knows_labelRecords hlines
  have hscope : scopeOf text earlier line = scopeAfter text earlier := by
    simp [scopeOf, line.declared?_of_operand? hoperand text]
  rw [hscope]
  unfold LabelTable.lookup? resolve?
  split
  · next hlocal =>
      cases hafter : scopeAfter text earlier with
      | none =>
          -- before every scope, neither side finds a local label
          simp [LabelTable.ownerBlock, hearlier.current_eq, hafter]
      | some scope =>
          have hcurrent : (labelRecords text earlier).current = some scope.key := by
            rw [hearlier.current_eq, hafter]
            rfl
          obtain ⟨place, hplace⟩ :=
            Option.isSome_iff_exists.mp (hearlier.current_opened _ hcurrent)
          have howner : (labelRecords text earlier).ownerBlock = some place.block := by
            simp [LabelTable.ownerBlock, hcurrent, hplace]
          -- the block still leads back to the scope when all lines are known
          have hback := hall.owners_eq _ _
            (lookup_globals_labelRecords_append hplace (line :: later))
          have hnamed : scope ≠ .named [] := by
            rintro rfl
            exact hlines.of_append.scopeAfter_ne hafter
          rw [howner, Option.bind_some, hback, Option.bind_some,
            hall.locals_eq scope name hnamed hlocal]
          simp [lastDeclaration?]
  · next hglobal =>
      exact hall.globals_eq name hname (by simpa using hglobal)

end AsmListing
