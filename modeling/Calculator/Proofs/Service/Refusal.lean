import Calculator.Proofs.Service.Agreement
import Calculator.Proofs.Stages
import Calculator.Proofs.WrittenOut

/-! # What is said of a refused evaluation

An evaluation can be refused for its mode and for its text (`Refused`), and the code in the answer
tells for which error (`refused_iff_said`). The text is the one that is evaluated, with constants
written out where a request wants that. What the answer says is about this text: whether it is too
long (`said_tooLong_iff`), and where a character stands that is not recognized
(`place_of_unrecognized`).

A client knows only the expression that was sent. The text is at least as long and at most seventeen
times as long (`EvaluateForm.writtenOut_text`), so an expression may be refused as too long that is
not (`tooLong_two_characters`). And a character has its place in the expression, but in front of the
place that is told, which may be behind the end of the expression (`unrecognized_behind_constant`).
-/

namespace Calculator.Service

/-! ### Codes and details -/

theorem accepted_eq_error_iff {α : Type} {x : Except Error α} {f : Failure} :
    accepted x = .error f ↔ ∃ e, x = .error e ∧ f = rejected e := by
  cases x <;> simp [accepted, eq_comm]

theorem code_unforeseen_ne (name : String) : Failure.unforeseen.code ≠ "sci_calc." ++ name := by
  intro h
  have hfirst := congrArg (fun s : String => s.toList.head?) h
  simp [Failure.unforeseen, Failure.unexpected, Failure.ofKind, String.toList_append] at hfirst

theorem code_rejected_iff {e : Error} {name : String} :
    (rejected e).code = "sci_calc." ++ name ↔ e.code? = some name := by
  cases hcode : e.code? with
  | none =>
    rw [rejected, hcode]
    exact iff_of_false (code_unforeseen_ne name) (by simp)
  | some code =>
    rw [rejected_of_code hcode, Option.some.injEq]
    exact String.append_right_inj "sci_calc."

namespace Reply

theorem said?_ok (data : Json) (name : String) : (ok data).said? name = none := rfl

end Reply

/-! ### What is refused -/

variable {settings : Settings} {state : State} {request : Request} {form : EvaluateForm} {e : Error}

/-- The evaluation of a form is refused: the mode that is set has no meaning, or there is an error
in the text. -/
inductive Refused (settings : Settings) (form : EvaluateForm) : Error → Prop
  | mode {e : Error} (hgiven : form.mode = none) (hread : AngleMode.read settings.mode = .error e) :
      Refused settings form e
  | text {mode : AngleMode} {limit : Int} {e : Error}
      (hmode : settings.modeFor form.mode = .ok mode) (hlimit : settings.lengthFor = .ok limit)
      (hreport : Expression.report (some mode.name) (settings.strictFor form.strict) limit
        (some form.text) = .error e) : Refused settings form e

theorem evaluate_of_refused (h : Refused settings form e) :
    evaluate settings state form = .error (rejected e) := by
  cases h with
  | mode hgiven hread =>
    simp only [evaluate, Settings.modeFor, hgiven, hread, accepted, bind, Except.bind]
  | text hmode hlimit hreport => exact evaluate_of_report hmode hlimit hreport

/-- An error that comes from no choice of a mode is in the text. -/
theorem Refused.exists_report (h : Refused settings form e) (hstage : e.stage? ≠ some .choosing) :
    ∃ mode limit, settings.modeFor form.mode = .ok mode ∧ settings.lengthFor = .ok limit ∧
      Expression.report (some mode.name) (settings.strictFor form.strict) limit (some form.text) =
        .error e := by
  cases h with
  | mode _ hread => exact absurd (AngleMode.stage_of_read hread) hstage
  | text hmode hlimit hreport => exact ⟨_, _, hmode, hlimit, hreport⟩

/-- An evaluation that fails is refused, or nothing is told of what is wrong. -/
theorem refused_or_unforeseen {f : Failure} (h : evaluate settings state form = .error f) :
    (∃ e, Refused settings form e ∧ f = rejected e) ∨ f = .unforeseen := by
  rcases error_of_bind h with hmode | ⟨mode, hmode, h⟩
  · cases hgiven : form.mode with
    | some mode =>
      rw [hgiven] at hmode
      contradiction
    | none =>
      rw [hgiven] at hmode
      obtain ⟨e, hread, rfl⟩ := accepted_eq_error_iff.mp hmode
      exact Or.inl ⟨e, .mode hgiven hread, rfl⟩
  rcases error_of_bind h with hlimit | ⟨limit, hlimit, h⟩
  · unfold Settings.lengthFor at hlimit
    split at hlimit
    · contradiction
    · exact Or.inr (Except.error.inj hlimit).symm
  rcases error_of_bind h with hreport | ⟨report, -, h⟩
  · obtain ⟨e, herror, rfl⟩ := accepted_eq_error_iff.mp hreport
    exact Or.inl ⟨e, .text hmode hlimit herror, rfl⟩
  rcases error_of_bind h with hrecord | ⟨next, -, h⟩
  · unfold State.recorded at hrecord
    split at hrecord
    · have hhistory := error_of_map hrecord
      unfold State.historyFor at hhistory
      split at hhistory
      · contradiction
      · exact Or.inr (Except.error.inj hhistory).symm
    · contradiction
  · contradiction

section Posted

variable (hasks : request.Asks .evaluate .post)
    (hform : request.Holds settings EvaluateForm.read form)

include hasks hform

theorem respond_of_refused (h : Refused settings form e) :
    (respond settings state request).2 = .fail request (rejected e) := by
  have hact : act settings state request .evaluate .post = .error (rejected e) := by
    rw [act_evaluate hform, evaluate_of_refused h]
  rw [respond_of_failed hasks hact]

/-- **The code of an answer tells for which error an evaluation was refused.** -/
theorem refused_iff_said (name : String) :
    (respond settings state request).2.said? "code" = some (.string ("sci_calc." ++ name)) ↔
      ∃ e, Refused settings form e ∧ e.code? = some name := by
  constructor
  · intro h
    cases hevaluate : evaluate settings state form with
    | ok r =>
      obtain ⟨next, data⟩ := r
      have hacted : Acted settings state request .evaluate .post next data :=
        (act_eq_ok_iff hasks.mem_methods).mp (by rw [act_evaluate hform, hevaluate])
      rw [respond_of_acted hasks hacted, Reply.said?_ok] at h
      contradiction
    | error f =>
      rw [respond_of_failed hasks (by rw [act_evaluate hform, hevaluate]),
        (Reply.said?_fail request f).1] at h
      have hcode : f.code = "sci_calc." ++ name := Json.string.inj (Option.some.inj h)
      rcases refused_or_unforeseen hevaluate with ⟨e, hrefused, rfl⟩ | rfl
      · exact ⟨e, hrefused, code_rejected_iff.mp hcode⟩
      · exact absurd hcode (code_unforeseen_ne name)
  · rintro ⟨e, hrefused, hcode⟩
    rw [respond_of_refused hasks hform hrefused, (Reply.said?_fail request _).1,
      code_rejected_iff.mpr hcode]

end Posted

/-! ### The expression and the text -/

theorem EvaluateForm.writtenOut_text (form : EvaluateForm) :
    WrittenOut form.expression.toList form.text.toList := by
  rw [text]
  split
  · exact writtenOut_substituteConstants form.expression
  · exact WrittenOut.refl _

theorem EvaluateForm.text_of_not_substitute (h : form.substitute = false) :
    form.text = form.expression := by
  rw [text, h]
  rfl

/-- **An expression is refused as too long exactly if its text is.** The text has at least as many
characters as the expression and at most seventeen times as many; without constants to be written
out it is the expression. -/
theorem said_tooLong_iff {limit : Int} (hasks : request.Asks .evaluate .post)
    (hform : request.Holds settings EvaluateForm.read form)
    (hlimit : settings.lengthFor = .ok limit) :
    ((respond settings state request).2.said? "code" =
      some (.string "sci_calc.expression_too_long") ↔
      limit < form.text.length ∧ ∃ mode, settings.modeFor form.mode = .ok mode) ∧
    form.expression.length ≤ form.text.length ∧ form.text.length ≤ 17 * form.expression.length ∧
    (form.substitute = false → form.text = form.expression) := by
  refine ⟨?_, ?_, ?_, EvaluateForm.text_of_not_substitute⟩
  · refine (refused_iff_said hasks hform "expression_too_long").trans ?_
    constructor
    · rintro ⟨e, hrefused, hcode⟩
      obtain ⟨n, rfl⟩ : ∃ n, e = .tooLong n := by
        cases e <;> simp [Error.code?] at hcode ⊢
      obtain ⟨mode, limit', hmode, hlimit', hreport⟩ :=
        hrefused.exists_report (by simp [Error.stage?])
      obtain ⟨-, hlong, -⟩ := Expression.report_eq_tooLong_iff.mp hreport
      rw [hlimit] at hlimit'
      obtain rfl := Except.ok.inj hlimit'
      exact ⟨hlong, mode, hmode⟩
    · rintro ⟨hlong, mode, hmode⟩
      exact ⟨_, .text hmode hlimit
        (Expression.report_eq_tooLong_iff.mpr ⟨rfl, hlong, mode, AngleMode.read_name mode⟩), rfl⟩
  · exact form.writtenOut_text.length_le
  · exact form.writtenOut_text.length_le_mul

/-- A product with a constant is short enough, whether the constant is written out or not. -/
theorem said_tooLong_iff_product :
    ((Settings.configured none).lengthFor = .ok 1024 ∧
      (Request.evaluating "2*pi" .degree true true).Holds (.configured none) EvaluateForm.read
        ⟨"2*pi", some .degree, some true, true, true⟩) ∧
      (answer (.configured none) [] (Request.evaluating "2*pi" .degree true true)).said? "code" ≠
        some (.string "sci_calc.expression_too_long") := by
  have htrimmed : Text.Trimmed Text.isWhiteSpace "2*pi".toList :=
    Text.trimmed_of_forall (by simp; decide)
  have hholds :
      (Request.evaluating "2*pi" .degree true true).Holds (.configured none) EvaluateForm.read
      ⟨"2*pi", some .degree, some true, true, true⟩ :=
    Request.holds_evaluating _ _ _ htrimmed (by
      rw [Request.received_evaluating]
      decide +kernel)
  have hlimit : (Settings.configured none).lengthFor = .ok 1024 := rfl
  obtain ⟨hiff, -, hlength, -⟩ := said_tooLong_iff (Request.asks_evaluating _ _ _ _) hholds hlimit
  refine ⟨⟨hlimit, hholds⟩, fun hsaid => ?_⟩
  have hlong := (hiff.mp hsaid).1
  have hexpression : "2*pi".length = 4 := rfl
  rw [hexpression] at hlength
  omega

/-- The settings of a configuration that sets nothing but the most characters of an expression. -/
def Settings.limited (limit : Int) : Settings :=
  ofConfig (.object
    [("plugins",
      .object [("scientific_calculator", .object [("max_expression_length", .int limit)])])])
    (some standardProfile)

/-- **An expression of two characters is refused as longer than ten.** Its text has seventeen. -/
theorem tooLong_two_characters :
    "pi".length = 2 ∧ (Settings.limited 10).lengthFor = .ok 10 ∧
      (Request.evaluating "pi" .degree true true).Asks .evaluate .post ∧
      (Request.evaluating "pi" .degree true true).Holds (.limited 10) EvaluateForm.read
        ⟨"pi", some .degree, some true, true, true⟩ ∧
      (answer (.limited 10) [] (Request.evaluating "pi" .degree true true)).said? "code" =
        some (.string "sci_calc.expression_too_long") ∧
      (answer (.limited 10) [] (Request.evaluating "pi" .degree true true)).said? "message" =
        some (.string "Expression is longer than 10 characters") := by
  have htrimmed : Text.Trimmed Text.isWhiteSpace "pi".toList :=
    Text.trimmed_of_forall (by simp; decide)
  have hasks := Request.asks_evaluating "pi" .degree true true
  have hholds : (Request.evaluating "pi" .degree true true).Holds (.limited 10) EvaluateForm.read
      ⟨"pi", some .degree, some true, true, true⟩ :=
    Request.holds_evaluating _ _ _ htrimmed (by
      rw [Request.received_evaluating]
      decide +kernel)
  have htext : (10 : Int) < (substituteConstants "pi").length := by decide +kernel
  have hrefused : Refused (.limited 10) ⟨"pi", some .degree, some true, true, true⟩ (.tooLong 10) :=
    .text rfl rfl
      (Expression.report_eq_tooLong_iff.mpr ⟨rfl, htext, .degree, AngleMode.read_name .degree⟩)
  have hanswer : answer (.limited 10) [] (Request.evaluating "pi" .degree true true) =
      .fail (Request.evaluating "pi" .degree true true) (rejected (.tooLong 10)) :=
    respond_of_refused hasks hholds hrefused
  obtain ⟨hcode, hmessage, -⟩ :=
    Reply.said?_fail (Request.evaluating "pi" .degree true true) (rejected (.tooLong 10))
  rw [hanswer]
  exact ⟨rfl, rfl, hasks, hholds, hcode, hmessage⟩

/-- **The place of a character that is not recognized.** The answer tells the character with its
position in the text. It stands in the expression too, in front of that position or at it: what is
in front of it in the expression is what is in front of it in the text, with constants written out.
So the position is the one in the expression exactly if no constant is written out in front of the
character. -/
theorem place_of_unrecognized (hasks : request.Asks .evaluate .post)
    (hform : request.Holds settings EvaluateForm.read form)
    (h : (respond settings state request).2.said? "code" =
      some (.string "sci_calc.unrecognized_character")) :
    ∃ (c : Char) (p i : Nat),
      (respond settings state request).2.said? "details" =
        some (.object [("character", .string (String.singleton c)), ("position", .int p)]) ∧
      form.text.toList[p]? = some c ∧ form.expression.toList[i]? = some c ∧ i ≤ p ∧
      WrittenOut (form.expression.toList.take i) (form.text.toList.take p) ∧
      (p = i ↔ form.text.toList.take p = form.expression.toList.take i) ∧
      (form.substitute = false → p = i) := by
  obtain ⟨e, hrefused, hcode⟩ := (refused_iff_said hasks hform "unrecognized_character").mp h
  obtain ⟨c, p, rfl⟩ : ∃ c p, e = .unrecognizedCharacter c p := by
    cases e <;> simp [Error.code?] at hcode ⊢
  have hdetails : (respond settings state request).2.said? "details" =
      some (.object [("character", .string (String.singleton c)), ("position", .int p)]) := by
    rw [respond_of_refused hasks hform hrefused, (Reply.said?_fail _ _).2.2.1,
      rejected_of_code hcode]
    rfl
  obtain ⟨mode, limit, -, -, hreport⟩ := hrefused.exists_report (by simp [Error.stage?])
  obtain ⟨front, back, htext, rfl, hc⟩ := Expression.unrecognized_of_report hreport
  have hat : form.text.toList[front.length]? = some c := by simp [htext]
  have htake : form.text.toList.take front.length = front := by simp [htext]
  cases hsubstitute : form.substitute with
  | false =>
    have hsame := EvaluateForm.text_of_not_substitute hsubstitute
    rw [hsame] at hat htake ⊢
    exact ⟨c, _, _, hdetails, hat, hat, Nat.le_refl _, WrittenOut.refl _, by simp, fun _ => rfl⟩
  | true =>
    obtain ⟨front', back', hexpression, hfront, -⟩ := form.writtenOut_text.exists_place htext hc
    have htake' : form.expression.toList.take front'.length = front' := by simp [hexpression]
    refine ⟨c, _, front'.length, hdetails, hat, by simp [hexpression], hfront.length_le, ?_, ?_,
      by simp⟩
    · rwa [htake, htake']
    · rw [htake, htake']
      exact ⟨fun hlength => hfront.eq_of_length_eq hlength, fun hsame => by rw [hsame]⟩

/-- A character in front of a constant, which is written out or not. -/
theorem place_of_unrecognized_in_front :
    (answer (.configured none) [] (Request.evaluating "2$pi" .degree true true)).said? "code" =
        some (.string "sci_calc.unrecognized_character") ∧
      ∃ (c : Char) (p i : Nat),
        (answer (.configured none) [] (Request.evaluating "2$pi" .degree true true)).said?
          "details" =
          some (.object [("character", .string (String.singleton c)), ("position", .int p)]) ∧
        "2$pi".toList[i]? = some c ∧ i ≤ p := by
  have htrimmed : Text.Trimmed Text.isWhiteSpace "2$pi".toList :=
    Text.trimmed_of_forall (by simp; decide)
  have hasks := Request.asks_evaluating "2$pi" .degree true true
  have hholds :
      (Request.evaluating "2$pi" .degree true true).Holds (.configured none) EvaluateForm.read
      ⟨"2$pi", some .degree, some true, true, true⟩ :=
    Request.holds_evaluating _ _ _ htrimmed (by
      rw [Request.received_evaluating]
      decide +kernel)
  have hrefused : Refused (.configured none) ⟨"2$pi", some .degree, some true, true, true⟩
      (.unrecognizedCharacter '$' 1) :=
    .text rfl rfl (by decide +kernel)
  have hsaid :
      (answer (.configured none) [] (Request.evaluating "2$pi" .degree true true)).said? "code" =
      some (.string "sci_calc.unrecognized_character") :=
    (refused_iff_said hasks hholds "unrecognized_character").mpr ⟨_, hrefused, rfl⟩
  obtain ⟨c, p, i, hdetails, -, hexpression, hle, -⟩ := place_of_unrecognized hasks hholds hsaid
  exact ⟨hsaid, c, p, i, hdetails, hexpression, hle⟩

/-- **The character behind a constant is told to stand at position 17 of an expression with three
characters.** -/
theorem unrecognized_behind_constant :
    (Request.evaluating "pi$" .degree true true).Asks .evaluate .post ∧
      (Request.evaluating "pi$" .degree true true).Holds (.configured none) EvaluateForm.read
        ⟨"pi$", some .degree, some true, true, true⟩ ∧
      (answer (.configured none) [] (Request.evaluating "pi$" .degree true true)).said? "code" =
        some (.string "sci_calc.unrecognized_character") ∧
      (answer (.configured none) [] (Request.evaluating "pi$" .degree true true)).said? "details" =
        some (.object [("character", .string "$"), ("position", .int 17)]) ∧
      "pi$".toList[17]? = none ∧ "pi$".toList[2]? = some '$' := by
  have htrimmed : Text.Trimmed Text.isWhiteSpace "pi$".toList :=
    Text.trimmed_of_forall (by simp; decide)
  have hasks := Request.asks_evaluating "pi$" .degree true true
  have hholds :
      (Request.evaluating "pi$" .degree true true).Holds (.configured none) EvaluateForm.read
      ⟨"pi$", some .degree, some true, true, true⟩ :=
    Request.holds_evaluating _ _ _ htrimmed (by
      rw [Request.received_evaluating]
      decide +kernel)
  have hrefused : Refused (.configured none) ⟨"pi$", some .degree, some true, true, true⟩
      (.unrecognizedCharacter '$' 17) :=
    .text rfl rfl (by decide +kernel)
  have hanswer : answer (.configured none) [] (Request.evaluating "pi$" .degree true true) =
      .fail (Request.evaluating "pi$" .degree true true)
        (rejected (.unrecognizedCharacter '$' 17)) :=
    respond_of_refused hasks hholds hrefused
  obtain ⟨hcode, -, hdetails, -⟩ := Reply.said?_fail (Request.evaluating "pi$" .degree true true)
    (rejected (.unrecognizedCharacter '$' 17))
  rw [hanswer, hcode, hdetails]
  exact ⟨hasks, hholds, rfl, rfl, by decide, by decide⟩

end Calculator.Service
