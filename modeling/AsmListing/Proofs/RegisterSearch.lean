import AsmListing.Proofs.Columns

/-!
# Looking for registers

A session knows the registers of a line in two ways.  When the line was stored, the names
of its registers were listed; and a search goes through the tokens of the line as they are
now, after the target of a branch has become a label.  Both find the same registers: those
that are listed are the texts of the register tokens of the line, and a search that goes on
behind each of its answers (`Session.registerTokens`) finds as many tokens as are counted.

* One search finds the first token from its start on, wherever the start lies
  (`Session.registerToken?_eq`).
* Going on behind an answer leaves the other tokens to be found (`findIdxs_of_findIdx?`), so
  a whole run finds all of them in order (`Session.registerTokens_eq`).
-/

namespace AsmListing

/-- Going on behind the first match finds the other ones. -/
theorem findIdxs_of_findIdx? {α : Type} {test : α → Bool} {items : List α} {place : Nat}
    (hfound : items.findIdx? test = some place) (start : Nat) :
    items.findIdxs test start =
      (start + place) :: (items.drop (place + 1)).findIdxs test (start + place + 1) := by
  obtain ⟨hplace, htest, hbefore⟩ := List.findIdx?_eq_some_iff_getElem.mp hfound
  have hnone : (items.take place).findIdxs test start = [] := by
    rw [List.findIdxs_eq_nil_iff]
    intro item hitem
    obtain ⟨index, hindex, rfl⟩ := List.mem_take_iff_getElem.mp hitem
    simpa using hbefore index (by omega)
  have hparts : items = items.take place ++ items[place] :: items.drop (place + 1) := by
    rw [List.getElem_cons_drop, List.take_append_drop]
  have hlength : (items.take place).length = place := List.length_take_of_le hplace.le
  conv => lhs; rw [hparts]
  rw [List.findIdxs_append, hnone, List.nil_append, List.findIdxs_cons, if_pos htest, hlength]

/-- The matches among the tokens of a line, by their indices in the listing. -/
theorem Line.mem_findIdxs_iff {line : Line} {all tokens : List Token}
    (htokens : line.tokens? all = some tokens) (test : Token → Bool) (place : Nat) :
    place ∈ tokens.findIdxs test line.tokenIndex ↔
      line.tokenIndex ≤ place ∧ place < line.tokenEnd ∧
        ∃ token, all[place]? = some token ∧ test token := by
  have hlength := line.length_of_tokens? htokens
  rw [List.mem_findIdxs_iff_getElem_sub_pos, tokenEnd]
  apply and_congr_right
  intro hle
  obtain ⟨offset, rfl⟩ := Nat.exists_eq_add_of_le hle
  rw [Nat.add_sub_cancel_left, Nat.add_lt_add_iff_left, ← hlength]
  constructor
  · rintro ⟨hoffset, htest⟩
    have hfound := line.getElem?_of_tokens? htokens (hlength ▸ hoffset)
    rw [List.getElem?_eq_getElem hoffset] at hfound
    exact ⟨hoffset, _, hfound.symm, htest⟩
  · rintro ⟨hoffset, token, htoken, htest⟩
    rw [← line.getElem?_of_tokens? htokens (hlength ▸ hoffset)] at htoken
    obtain ⟨_, rfl⟩ := List.getElem?_eq_some_iff.mp htoken
    exact ⟨hoffset, htest⟩

/-- Whether a token is the given register. -/
def Analysis.isRegister (analysis : Analysis) (text register : Text) (token : Token) : Bool :=
  token.kind == .register && analysis.dialect.registerEqual register (token.text text)

namespace Session

variable {session : Session} {analysis : Analysis}

/-! ## One search -/

/-- The tokens of a line that a search goes through. -/
theorem registerToken?_eq (hanalysis : session.analysis? = some analysis) {index : Nat}
    {line : Line} (hline : analysis.lines[index]? = some line) (register : Text) (start : Nat) :
    session.registerToken? index register start =
      (((analysis.tokens.take line.tokenEnd).drop (max line.tokenIndex start)).findIdx?
        (analysis.isRegister session.input register)).map (max line.tokenIndex start + ·) := by
  simp only [registerToken?, hanalysis, Option.bind_some, hline]
  rfl

/-- What a search finds is a token from its start on. -/
theorem between_of_registerToken? {index start found : Nat} {register : Text}
    (hfound : session.registerToken? index register start = some found) :
    start ≤ found ∧ found < session.tokens.length := by
  obtain ⟨analysis, hanalysis, hfound⟩ := Option.bind_eq_some_iff.mp hfound
  obtain ⟨line, -, hfound⟩ := Option.bind_eq_some_iff.mp hfound
  obtain ⟨place, hplace, rfl⟩ := Option.map_eq_some_iff.mp hfound
  obtain ⟨hlt, -⟩ := List.findIdx?_eq_some_iff_getElem.mp hplace
  rw [List.length_drop, List.length_take] at hlt
  have htokens : session.tokens = analysis.tokens := by
    rw [tokens, hanalysis]
    rfl
  rw [htokens]
  omega

/-! ## One search after the other -/

/-- Searches a line for the tokens that are the given register, each time from just behind
the last answer on, until there is none. -/
def registerTokens (session : Session) (index : Nat) (register : Text) (start : Nat) :
    List Nat :=
  match _hfound : session.registerToken? index register start with
  | none => []
  | some found => found :: session.registerTokens index register (found + 1)
termination_by session.tokens.length - start
decreasing_by
  have hbetween := between_of_registerToken? _hfound
  omega

/-- The searches find all tokens of the line from the start on that are the register.  The
induction follows the searches. -/
theorem registerTokens_eq (hanalysis : session.analysis? = some analysis) {index : Nat}
    {line : Line} (hline : analysis.lines[index]? = some line) (register : Text) (start : Nat) :
    session.registerTokens index register start =
      ((analysis.tokens.take line.tokenEnd).drop (max line.tokenIndex start)).findIdxs
        (analysis.isRegister session.input register) (max line.tokenIndex start) := by
  fun_induction registerTokens session index register start with
  | case1 start hnone =>
      rw [registerToken?_eq hanalysis hline, Option.map_eq_none_iff,
        List.findIdx?_eq_none_iff] at hnone
      exact (List.findIdxs_eq_nil_iff.mpr hnone).symm
  | case2 start found hfound ih =>
      rw [registerToken?_eq hanalysis hline] at hfound
      obtain ⟨place, hplace, rfl⟩ := Option.map_eq_some_iff.mp hfound
      have hbehind : max line.tokenIndex (max line.tokenIndex start + place + 1) =
          max line.tokenIndex start + place + 1 := by
        omega
      rw [findIdxs_of_findIdx? hplace, ih, hbehind, List.drop_drop, Nat.add_assoc]

/-- From the start of a listing on, they find the tokens of the whole line. -/
theorem registerTokens_zero (hanalysis : session.analysis? = some analysis) {index : Nat}
    {line : Line} (hline : analysis.lines[index]? = some line) {tokens : List Token}
    (htokens : line.tokens? analysis.tokens = some tokens) (register : Text) :
    session.registerTokens index register 0 =
      tokens.findIdxs (analysis.isRegister session.input register) line.tokenIndex := by
  obtain ⟨-, rfl⟩ := Line.eq_of_tokens? htokens
  rw [registerTokens_eq hanalysis hline, Nat.max_zero, Line.tokenEnd, List.drop_take,
    Nat.add_sub_cancel_left]

end Session

/-! ## The names that are listed -/

namespace LaidOut

variable {context : Context} {read : SourceTable × List StoredLine} {analysis : Analysis}
  (hlaid : LaidOut context read analysis)

include hlaid

/-- The registers that are listed for a line are the texts of its register tokens. -/
theorem exists_registers {index : Nat} {line : Line}
    (hline : analysis.lines[index]? = some line) :
    ∃ tokens, line.tokens? analysis.tokens = some tokens ∧
      analysis.registers.get? index =
        if tokens.filter (·.kind == .register) = [] then none
        else some ((tokens.filter (·.kind == .register)).map (·.text context.text)) := by
  obtain ⟨before, stored, after, hlines, rfl, rfl⟩ := hlaid.exists_stored hline
  have hstored : read.2[before.length]? = some stored := by
    rw [hlines]
    simp
  refine ⟨stored.tokens, ?_, ?_⟩
  · rw [hlaid.tokens_eq, hlines, tokens?_lineRecord]
  · rw [hlaid.registers_eq, get?_registerRecords, hstored, Option.map_some, StoredLine.registers]
    cases stored.tokens.filter (·.kind == .register) <;> rfl

theorem registers_eq_none {index : Nat} (hindex : analysis.lines.length ≤ index) :
    analysis.registers.get? index = none := by
  rw [hlaid.lines_eq, length_lineRecords] at hindex
  rw [hlaid.registers_eq, get?_registerRecords, List.getElem?_eq_none hindex]
  rfl

end LaidOut

/-- Counting among the names that are listed is counting among the tokens. -/
theorem countMatches_eq_countP {analysis : Analysis} {text : Text} {index : Nat}
    {tokens : List Token}
    (hlisted : analysis.registers.get? index =
      if tokens.filter (·.kind == .register) = [] then none
      else some ((tokens.filter (·.kind == .register)).map (·.text text))) (register : Text) :
    RegisterIndex.countMatches analysis.registers analysis.dialect index register =
      tokens.countP (analysis.isRegister text register) := by
  have hnames : (analysis.registers.get? index).getD [] =
      (tokens.filter (·.kind == .register)).map (·.text text) := by
    rw [hlisted]
    split
    · next hnone => rw [hnone]; rfl
    · rfl
  rw [RegisterIndex.countMatches, hnames, List.countP_map, List.countP_filter]
  apply List.countP_congr
  intro token _
  simp only [Function.comp_apply, Analysis.isRegister, Bool.and_comm]

namespace Session

variable {session : Session} {analysis : Analysis}

/-- All questions about the registers of a line agree.  The names that are listed are the
texts of its register tokens, in order, and there are none exactly if it has none.  The
searches for a register, from the start of the listing on and then behind each answer, find
exactly the register tokens of the line that are this register, in order, and as many as are
counted.  Past the last line there is nothing to be found. -/
theorem register_queries_agree (hreach : session.Reachable)
    (hanalysis : session.analysis? = some analysis) (index : Nat) :
    (∀ line, analysis.lines[index]? = some line →
      (∃ tokens, line.tokens? analysis.tokens = some tokens ∧
        session.registers? index =
          if tokens.filter (·.kind == .register) = [] then none
          else some ((tokens.filter (·.kind == .register)).map (·.text session.input))) ∧
      ∀ register,
        (session.registerTokens index register 0).Pairwise (· < ·) ∧
        (∀ place, place ∈ session.registerTokens index register 0 ↔
          line.tokenIndex ≤ place ∧ place < line.tokenEnd ∧
            ∃ token, analysis.tokens[place]? = some token ∧ token.kind = .register ∧
              session.registerEqual register (token.text session.input)) ∧
        (session.registerTokens index register 0).length =
          session.countRegister index register) ∧
    (analysis.lines.length ≤ index → session.registers? index = none ∧
      ∀ register, session.countRegister index register = 0 ∧
        ∀ start, session.registerToken? index register start = none) := by
  obtain ⟨files, dialect, hanalyze⟩ := hreach.faithful.analyzed analysis hanalysis
  obtain ⟨read, -, hlaid⟩ := exists_laidOut hanalyze
  have hregisters : session.registers? index = analysis.registers.get? index := by
    rw [registers?, hanalysis]
    rfl
  have hcount : ∀ register, session.countRegister index register =
      RegisterIndex.countMatches analysis.registers analysis.dialect index register := by
    intro register
    simp only [countRegister, hanalysis]
  constructor
  · intro line hline
    obtain ⟨tokens, htokens, hlisted⟩ := hlaid.exists_registers hline
    refine ⟨⟨tokens, htokens, hregisters.trans hlisted⟩, ?_⟩
    intro register
    rw [registerTokens_zero hanalysis hline htokens]
    refine ⟨List.pairwise_findIdxs, ?_, ?_⟩
    · intro place
      rw [line.mem_findIdxs_iff htokens]
      simp only [Analysis.isRegister, Bool.and_eq_true, beq_iff_eq, registerEqual, dialect?,
        hanalysis, Option.map_some]
    · rw [List.length_findIdxs, hcount, countMatches_eq_countP hlisted]
  · intro hindex
    have hnone := hlaid.registers_eq_none hindex
    refine ⟨hregisters.trans hnone, ?_⟩
    intro register
    constructor
    · rw [hcount, RegisterIndex.countMatches, hnone]
      rfl
    · intro start
      rw [registerToken?, hanalysis, Option.bind_some, List.getElem?_eq_none hindex]
      rfl

set_option maxRecDepth 10000 in
/-- Two names of one register stand in a line that names a source location, and another
register.  The two of them are found. -/
theorem register_queries_agree_sample :
    ∃ (session : Session) (analysis : Analysis) (line : Line), session.Reachable ∧
      session.analysis? = some analysis ∧ analysis.lines[0]? = some line ∧
      line.kind = .located ⟨0, 0, 0⟩ ∧
      session.registers? 0 = some ["al".toList, "bl".toList, "ah".toList] ∧
      (session.registerTokens 0 "eax".toList 0).length = 2 ∧
      (session.registerTokens 0 "eax".toList 0).Pairwise (· < ·) ∧
      session.registerToken? 1 "eax".toList 0 = none := by
  let session := (fresh.change .none (.load (.direct ".loc al bl ah".toList .intel {}))).2
  have hreach : session.Reachable := Reachable.fresh.change .none _
  have heval : session.analysis?.map (·.lines) = some [⟨.located ⟨0, 0, 0⟩, 0, 7⟩] ∧
      session.registers? 0 = some ["al".toList, "bl".toList, "ah".toList] ∧
      session.countRegister 0 "eax".toList = 2 := by
    decide +kernel
  obtain ⟨hlines, hnames, hcount⟩ := heval
  obtain ⟨analysis, hanalysis, hlines⟩ := Option.map_eq_some_iff.mp hlines
  have hline : analysis.lines[0]? = some ⟨.located ⟨0, 0, 0⟩, 0, 7⟩ := by
    rw [hlines]
    rfl
  obtain ⟨hinside, -⟩ := register_queries_agree hreach hanalysis 0
  obtain ⟨-, hfound⟩ := hinside _ hline
  obtain ⟨hordered, -, hlength⟩ := hfound "eax".toList
  obtain ⟨-, hpast⟩ := register_queries_agree hreach hanalysis 1
  obtain ⟨-, hnone⟩ := hpast (by rw [hlines]; rfl)
  exact ⟨session, analysis, _, hreach, hanalysis, hline, rfl, hnames, hlength.trans hcount,
    hordered, (hnone _).2 0⟩

end Session

end AsmListing
