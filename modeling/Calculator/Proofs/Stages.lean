import Calculator.Proofs.Stray

/-! # The stages of an evaluation

An evaluation goes through stages: the mode is chosen, the length is checked, the tokens are read,
they are reordered, and the program is run. Each stage has errors of its own (`Error.stage?`), so
the error tells where an evaluation went wrong, and whatever stands in front of that stage went
right (`report_eq_error_iff`, `Fails.stage_eq`).

Two errors are told by it in full: the expression is too long exactly if it has too many characters
(`report_eq_tooLong_iff`), and a character that is not recognized stands in the text at the position
that is named (`unrecognized_of_report`).
-/

namespace Calculator

namespace Expression

variable {modeName : Option String} {strict : Bool} {limit : Int} {text : String} {e : Error}
    {stage : Stage}

/-- An evaluation goes wrong at a stage, and everything in front of it goes right. -/
inductive Fails (modeName : Option String) (strict : Bool) (limit : Int)
    (text : String) : Stage → Error → Prop
  | choosing {e : Error}
    (hmode : AngleMode.read modeName = .error e) : Fails modeName strict limit text .choosing e
  | checking {mode : AngleMode} (hmode : AngleMode.read modeName = .ok mode)
      (hlength : limit < text.length) :
      Fails modeName strict limit text .checking (.tooLong limit)
  | reading {mode : AngleMode} {e : Error} (hmode : AngleMode.read modeName = .ok mode)
      (hlength : text.length ≤ limit) (hread : Token.read strict text = .error e) :
      Fails modeName strict limit text .reading e
  | ordering {mode : AngleMode} {tokens : List Token} {e : Error}
      (hmode : AngleMode.read modeName = .ok mode)
      (hlength : text.length ≤ limit) (hread : Token.read strict text = .ok tokens)
      (horder : Postfix.ofTokens strict tokens = .error e) :
        Fails modeName strict limit text .ordering e
  | running {mode : AngleMode} {program : List Token} {e : Error}
      (hmode : AngleMode.read modeName = .ok mode)
      (hcompile : compile strict limit (some text) = .ok program)
      (hvalue : Postfix.value mode strict program = .error e) :
        Fails modeName strict limit text .running e

/-- **An error tells the stage.** -/
theorem Fails.stage_eq (h : Fails modeName strict limit text stage e) : e.stage? = some stage := by
  cases h with
  | choosing hmode => exact AngleMode.stage_of_read hmode
  | checking => rfl
  | reading _ _ hread => exact Token.stage_of_readFrom hread
  | ordering _ _ hread horder => exact Postfix.stage_of_order horder (Token.isKnown_of_read hread)
  | running _ hcompile hvalue => exact Postfix.stage_of_value hvalue (program_of_compile hcompile)

/-- **An evaluation has an error exactly if it goes wrong at one of the stages.** -/
theorem report_eq_error_iff :
    report modeName strict limit (some text) = .error e ↔ ∃ stage,
      Fails modeName strict limit text stage e := by
  constructor
  · intro h
    rcases error_of_bind h with hmode | ⟨mode, hmode, h⟩
    · exact ⟨_, .choosing hmode⟩
    rcases error_of_bind h with h | ⟨program, hcompile, h⟩
    · rcases error_of_bind h with hcheck | ⟨checked, hcheck, hrest⟩
      · obtain ⟨hlength, rfl⟩ := check_eq_error_iff.mp hcheck
        exact ⟨_, .checking hmode hlength⟩
      · obtain ⟨hlength, rfl⟩ := check_eq_ok_iff.mp hcheck
        rcases error_of_bind hrest with hread | ⟨tokens, hread, horder⟩
        · exact ⟨_, .reading hmode hlength hread⟩
        · exact ⟨_, .ordering hmode hlength hread horder⟩
    · rcases error_of_bind h with hvalue | ⟨v, -, h⟩
      · exact ⟨_, .running hmode hcompile hvalue⟩
      · contradiction
  · rintro ⟨stage, h⟩
    cases h with
    | choosing hmode => simp only [report, hmode, bind, Except.bind]
    | checking hmode hlength =>
      simp only [report, compile, check, hmode, if_pos hlength, bind, Except.bind]
    | reading hmode hlength hread =>
      simp only [report, compile, hmode, check_eq_ok_iff.mpr ⟨hlength, rfl⟩, hread, bind,
        Except.bind]
    | ordering hmode hlength hread horder =>
      simp only [report, compile, hmode, check_eq_ok_iff.mpr ⟨hlength, rfl⟩, hread, horder, bind,
        Except.bind]
    | running hmode hcompile hvalue =>
      simp only [report, hmode, hcompile, hvalue, bind, Except.bind]

theorem fails_of_report (h : report modeName strict limit (some text) = .error e)
    (hstage : e.stage? = some stage) : Fails modeName strict limit text stage e := by
  obtain ⟨stage', hfails⟩ := report_eq_error_iff.mp h
  have hsame := hfails.stage_eq
  rw [hstage] at hsame
  rwa [Option.some.inj hsame]

/-- **An expression is too long exactly if it has more characters than allowed.** -/
theorem report_eq_tooLong_iff {n : Int} :
    report modeName strict limit (some text) = .error (.tooLong n) ↔
      n = limit ∧ limit < text.length ∧ ∃ mode, AngleMode.read modeName = .ok mode := by
  constructor
  · intro h
    cases fails_of_report h rfl with
    | checking hmode hlength => exact ⟨rfl, hlength, _, hmode⟩
  · rintro ⟨rfl, hlength, mode, hmode⟩
    exact report_eq_error_iff.mpr ⟨_, .checking hmode hlength⟩

theorem unrecognized_of_report {c : Char} {p : Nat}
    (h : report modeName strict limit (some text) = .error (.unrecognizedCharacter c p)) :
    ∃ front back, text.toList = front ++ c :: back ∧ front.length = p ∧ isNumberChar c = false := by
  cases fails_of_report h rfl with
  | reading _ _ hread => exact Token.character_of_read hread

end Expression

end Calculator
