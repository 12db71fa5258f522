import Calculator.Proofs.CommandLine
import Calculator.Proofs.Errors
import Calculator.Proofs.Service.Posting
import Calculator.Proofs.Service.Recorded

/-! # The service and the command line agree

Two answers agree if they give the same data, or refuse with the same code and the same message
(`Agrees`). An evaluation is answered alike (`agrees_evaluate`). So is a request for tokens, unless
the expression can be read but is too long (`agrees_tokenize_iff`): the command looks at the length,
the service does not.
-/

namespace Calculator.Service

open CommandLine (Command Outcome)

/-! ### What a reply tells -/

/-- Every request has an id: one that it brings is not empty, and one that is drawn has digits. -/
theorem Request.id_ne_empty (request : Request) : request.id ≠ "" := by
  have hdrawn : String.ofList
      ((Nat.toDigits 16 request.drawnId.toNat).leftpad 32 '0') ≠ "" := by
    intro h
    have hlength := congrArg String.length h
    rw [String.length_ofList, List.length_leftpad, String.length_empty] at hlength
    omega
  unfold Request.id
  split
  · exact hdrawn
  · exact hdrawn
  · assumption

theorem failure_id (request : Request) (error : List (String × Json)) :
    failure (some request.id) error =
      .object [
        ("success", .bool false),
        ("error", .object (Json.put error "request_id" (.string request.id)))] := by
  unfold failure
  split
  next => contradiction
  next h => exact absurd (Option.some.inj h) request.id_ne_empty
  next h => rw [Option.some.inj h]

namespace Reply

/-- The value in the body of a reply. -/
def json? (reply : Reply) : Option Json :=
  match reply.content with
  | .value json => some json
  | .page _ | .nothing => none

/-- The data of a success. -/
def data? (reply : Reply) : Option Json :=
  reply.json?.bind fun json => json.field? "data"

/-- What a failure says, by name. -/
def said? (reply : Reply) (name : String) : Option Json :=
  (reply.json?.bind fun json => json.field? "error").bind fun error => error.field? name

/-- A failure tells its code, its message and its details, and the id of the request. -/
theorem said?_fail (request : Request) (f : Failure) :
    (fail request f).said? "code" = some (.string f.code) ∧
      (fail request f).said? "message" = some (.string f.message) ∧
      (fail request f).said? "details" = some (.object f.details) ∧
      (fail request f).said? "request_id" = some (.string request.id) := by
  rw [fail, failure_id]
  exact ⟨rfl, rfl, rfl, rfl⟩

end Reply

/-- The outcome of a command that is refused. -/
def refused (code message : String) : Outcome where
  exitCode := 1
  printed := (Json.object
    [("error", .object [("code", .string code), ("message", .string message)])]).write
    Json.Layout.page

/-- **A reply and the outcome of a command agree.** Either both give the same data, or both refuse
with the same code and the same message; the service puts its own name in front of the code. -/
inductive Agrees (reply : Reply) (outcome : Outcome) : Prop
  | data (d : Json) (hstatus : reply.status = 200) (hdata : reply.data? = some d)
      (houtcome : outcome = ⟨0, d.write Json.Layout.page⟩)
  | refused (code message : String) (hstatus : reply.status = 400)
      (hcode : reply.said? "code" = some (.string ("sci_calc." ++ code)))
      (hmessage : reply.said? "message" = some (.string message))
      (houtcome : outcome = refused code message)

theorem describe_of_code {e : Error} {code : String} (h : e.code? = some code) :
    (⟨1, (Json.object [("error", e.describe)]).write Json.Layout.page⟩ : Outcome) =
      refused code e.message := by
  rw [Error.describe, h]
  rfl

theorem rejected_of_code {e : Error} {code : String} (h : e.code? = some code) :
    rejected e = ⟨e.message, "sci_calc." ++ code, 400, errorDetails e⟩ := by
  rw [rejected, h]
  rfl

theorem agrees_of_hasCode {e : Error} (h : e.HasCode) (request : Request) :
    Agrees (.fail request (rejected e))
      ⟨1, (Json.object [("error", e.describe)]).write Json.Layout.page⟩ := by
  obtain ⟨code, hcode⟩ := Option.isSome_iff_exists.mp h
  rw [describe_of_code hcode, rejected_of_code hcode]
  obtain ⟨hsaid, hmessage, -⟩ :=
    Reply.said?_fail request ⟨e.message, "sci_calc." ++ code, 400, errorDetails e⟩
  exact .refused code e.message rfl hsaid hmessage rfl

theorem agrees_of_data (d : Json) : Agrees (.ok d) ⟨0, d.write Json.Layout.page⟩ := by
  have hdata : (Reply.ok d).data? = some d := rfl
  exact .data d rfl hdata rfl

/-! ### Requests and commands -/

variable {settings : Settings} {state : State} {request : Request} {arguments : List String}

theorem respond_of_failed {resource : Resource} {method : Method} {f : Failure}
    (hasks : request.Asks resource method)
    (h : act settings state request resource method = .error f) :
    respond settings state request = (state, .fail request f) := by
  have hhandle : handle settings state request = .error f := by
    rw [handle_of_asks hasks, h]
    rfl
  unfold respond
  rw [hhandle]

/-- **An evaluation is answered alike.** -/
theorem agrees_evaluate {form : EvaluateForm} {mode : AngleMode} {history : History}
    (hasks : request.Asks .evaluate .post) (hform : request.Holds settings EvaluateForm.read form)
    (hmode : settings.modeFor form.mode = .ok mode)
    (hlimit : settings.lengthFor = .ok Expression.defaultMaxLength)
    (hhistory : state.history = some history)
    (harguments : Command.ofArguments arguments =
      .ok (.eval form.expression mode (!settings.strictFor form.strict) (!form.substitute))) :
    Agrees (respond settings state request).2 (CommandLine.run arguments) := by
  have htext : (if !form.substitute then form.expression else substituteConstants form.expression) =
      form.text := by
    rw [EvaluateForm.text]
    cases form.substitute <;> rfl
  have hanswer :=
    Command.answer_eval form.expression mode (!settings.strictFor form.strict) (!form.substitute)
  rw [htext, Bool.not_not] at hanswer
  cases hreport : Expression.report (some mode.name) (settings.strictFor form.strict)
      Expression.defaultMaxLength (some form.text) with
  | error e =>
    rw [hreport] at hanswer
    have hact : act settings state request .evaluate .post = .error (rejected e) := by
      rw [act_evaluate hform, evaluate_of_report hmode hlimit hreport]
    have hcode : e.HasCode := (Expression.error_of_report (AngleMode.read_name mode) hreport).1
    rw [respond_of_failed hasks hact, CommandLine.run_of_refused harguments hanswer]
    exact agrees_of_hasCode hcode request
  | ok report =>
    rw [hreport] at hanswer
    obtain ⟨next, hnext⟩ : ∃ next,
        state.recorded form.record ⟨form.expression, report.display, report.mode.name⟩ =
        .ok next := by
      cases hrecord : form.record with
      | false => exact ⟨state, rfl⟩
      | true =>
        obtain ⟨next, hnext, -⟩ := State.recorded_of_history hhistory rfl
          ⟨form.expression, report.display, report.mode.name⟩
        exact ⟨next, hnext⟩
    rw [respond_of_acted hasks (.evaluate hform hmode hlimit hreport hnext),
      CommandLine.run_of_answer harguments hanswer]
    exact agrees_of_data _

/-! ### Tokens -/

theorem printed_refused (code message : String) :
    (refused code message).printed =
      "\x7b\n  \"error\": \x7b\n    \"code\": " ++ Json.quote false code ++
        ",\n    \"message\": " ++ Json.quote false message ++ "\n  \x7d\n\x7d\n" := by
  have houter : (([("error", Json.object [("code", .string code), ("message", .string message)])] :
      List (String × Json)).map Prod.fst).Pairwise (· < ·) := List.pairwise_singleton _ _
  have hinner : (([("code", Json.string code), ("message", .string message)] :
      List (String × Json)).map Prod.fst).Pairwise (· < ·) := by
    change ["code", "message"].Pairwise (· < ·)
    decide
  rw [refused, Json.write, Json.render, Json.sortFields_renderFields houter, Json.renderFields,
    Json.renderFields, Json.render, Json.sortFields_renderFields hinner, Json.renderFields,
    Json.renderFields, Json.renderFields,
    Json.render, Json.render]
  apply String.toList_injective
  have hname : ∀ s ∈ ["error", "code", "message"],
      (Json.quote false s).toList = '"' :: (s.toList ++ ['"']) := by
    decide +kernel
  have hlines : (Json.lineStart 0).toList = "\n".toList ∧
      (Json.lineStart 1).toList = "\n  ".toList ∧ (Json.lineStart 2).toList = "\n    ".toList := by
    decide +kernel
  simp [Json.Layout.enclose, Json.Layout.fieldText, Json.Layout.page, String.toList_append, hname,
    hlines]

/-- A reply that refuses agrees with no other outcome than to refuse alike. -/
theorem refused_of_agrees {e : Error} {code : String} {outcome : Outcome}
    (hcode : e.code? = some code) (h : Agrees (.fail request (rejected e)) outcome) :
    outcome = refused code e.message := by
  rw [rejected_of_code hcode] at h
  obtain ⟨hsaid, hmessage, -⟩ :=
    Reply.said?_fail request ⟨e.message, "sci_calc." ++ code, 400, errorDetails e⟩
  cases h with
  | data d hstatus => exact absurd hstatus (show ¬ (400 : Int) = 200 by decide)
  | refused code' message' hstatus hcode' hmessage' houtcome =>
    rw [hsaid] at hcode'
    rw [hmessage] at hmessage'
    have hcodes : "sci_calc." ++ code = "sci_calc." ++ code' :=
      Json.string.inj (Option.some.inj hcode')
    have hmessages : e.message = message' := Json.string.inj (Option.some.inj hmessage')
    rw [houtcome, hmessages, (String.append_right_inj _).mp hcodes]

theorem not_agrees_of_data (d : Json) (code message : String) :
    ¬ Agrees (.ok d) (refused code message) := by
  intro h
  cases h with
  | data d' hstatus hdata houtcome =>
    exact absurd (congrArg Outcome.exitCode houtcome) (show ¬ (1 : UInt32) = 0 by decide)
  | refused code' message' hstatus => exact absurd hstatus (show ¬ (200 : Int) = 400 by decide)

theorem not_agrees_of_unmatched {e : Error} (he : e = .unmatchedClosing ∨ e = .unmatchedOpening) :
    ¬ Agrees (.fail request (rejected e))
      (refused "expression_too_long" (Error.tooLong Expression.defaultMaxLength).message) := by
  intro h
  have hcode : e.code? = some "unbalanced_parentheses" := by rcases he with rfl | rfl <;> rfl
  have hprinted := congrArg Outcome.printed (refused_of_agrees hcode h)
  rw [printed_refused, printed_refused] at hprinted
  revert hprinted
  rcases he with rfl | rfl <;> decide +kernel

section Tokenize

variable {form : TokenizeForm} (hasks : request.Asks .tokenize .post)
  (hform : request.Holds settings TokenizeForm.read form)

include hasks hform

theorem respond_of_unread {e : Error}
    (hread : Token.read (settings.strictFor form.strict) form.expression = .error e) :
    (respond settings state request).2 = .fail request (rejected e) := by
  obtain ⟨body, hbody, hheld⟩ := hform
  have hact : act settings state request .tokenize .post = .error (rejected e) := by
    simp only [act, hbody, hheld, tokenize, hread, accepted, bind, Except.bind]
  rw [respond_of_failed hasks hact]

theorem respond_of_read {tokens : List Token}
    (hread : Token.read (settings.strictFor form.strict) form.expression = .ok tokens) :
    (∃ e, Postfix.ofTokens (settings.strictFor form.strict) tokens = .error e ∧
      (respond settings state request).2 = .fail request (rejected e)) ∨
    ∃ program, Postfix.ofTokens (settings.strictFor form.strict) tokens = .ok program ∧
      (respond settings state request).2 = .ok (Token.describeBoth tokens program) := by
  cases horder : Postfix.ofTokens (settings.strictFor form.strict) tokens with
  | error e =>
    obtain ⟨body, hbody, hheld⟩ := hform
    have hact : act settings state request .tokenize .post = .error (rejected e) := by
      simp only [act, hbody, hheld, tokenize, hread, horder, accepted, bind, Except.bind]
    exact Or.inl ⟨e, rfl, by rw [respond_of_failed hasks hact]⟩
  | ok program =>
    exact Or.inr ⟨program, rfl, by rw [respond_of_acted hasks (.tokenize hform hread horder)]⟩

variable (harguments : Command.ofArguments arguments =
  .ok (.tokens form.expression (!settings.strictFor form.strict)))

include harguments

theorem agrees_of_unread {e : Error}
    (hread : Token.read (settings.strictFor form.strict) form.expression = .error e) :
    Agrees (respond settings state request).2 (CommandLine.run arguments) := by
  have hanswer : (Command.tokens form.expression (!settings.strictFor form.strict)).answer =
      .error e := by
    rw [Command.answer_tokens, Bool.not_not, hread]
    rfl
  rw [respond_of_unread hasks hform hread, CommandLine.run_of_refused harguments hanswer]
  exact agrees_of_hasCode (Error.hasCode_of_stage (Token.stage_of_readFrom hread)) request

theorem agrees_of_short {tokens : List Token}
    (hread : Token.read (settings.strictFor form.strict) form.expression = .ok tokens)
    (hshort : ¬ Expression.defaultMaxLength < form.expression.length) :
    Agrees (respond settings state request).2 (CommandLine.run arguments) := by
  have hanswer : (Command.tokens form.expression (!settings.strictFor form.strict)).answer =
      (Postfix.ofTokens (settings.strictFor form.strict) tokens).map
        (Token.describeBoth tokens) := by
    rw [Command.answer_tokens, Bool.not_not, hread]
    exact if_neg hshort
  rcases respond_of_read hasks hform hread with ⟨e, horder, hr⟩ | ⟨program, horder, hr⟩
  · rw [horder] at hanswer
    rw [hr, CommandLine.run_of_refused harguments hanswer]
    have hcode : e.HasCode :=
      Error.hasCode_of_stage (Postfix.stage_of_order horder (Token.isKnown_of_read hread))
    exact agrees_of_hasCode hcode request
  · rw [horder] at hanswer
    rw [hr, CommandLine.run_of_answer harguments hanswer]
    exact agrees_of_data _

theorem not_agrees_of_long {tokens : List Token}
    (hread : Token.read (settings.strictFor form.strict) form.expression = .ok tokens)
    (hlong : Expression.defaultMaxLength < form.expression.length) :
    ¬ Agrees (respond settings state request).2 (CommandLine.run arguments) := by
  have hlisted : Token.read (!!settings.strictFor form.strict) form.expression = .ok tokens := by
    rw [Bool.not_not]
    exact hread
  rw [CommandLine.run_of_refused harguments (Command.answer_tokens_of_long hlisted hlong),
    describe_of_code rfl]
  rcases respond_of_read hasks hform hread with ⟨e, horder, hr⟩ | ⟨program, -, hr⟩
  · rw [hr]
    exact not_agrees_of_unmatched (Postfix.unmatched_of_order horder (Token.isKnown_of_read hread))
  · rw [hr]
    exact not_agrees_of_data _ _ _

/-- **Tokens are told alike, unless the expression can be read but is too long for the command.** -/
theorem agrees_tokenize_iff :
    Agrees (respond settings state request).2 (CommandLine.run arguments) ↔
      form.expression.length ≤ Expression.defaultMaxLength ∨
        ∃ e, Token.read (settings.strictFor form.strict) form.expression = .error e := by
  cases hread : Token.read (settings.strictFor form.strict) form.expression with
  | error e => exact iff_of_true (agrees_of_unread hasks hform harguments hread) (Or.inr ⟨e, rfl⟩)
  | ok tokens =>
    by_cases hlong : Expression.defaultMaxLength < form.expression.length
    · refine iff_of_false (not_agrees_of_long hasks hform harguments hread hlong) ?_
      rintro (hshort | ⟨e, he⟩)
      · omega
      · contradiction
    · exact iff_of_true (agrees_of_short hasks hform harguments hread hlong) (Or.inl (by omega))

end Tokenize

/-! ### The configuration -/

/-- The settings that the standard configuration makes, under any profile. -/
def Settings.configured (profile : Option String) : Settings :=
  ofConfig standardConfig profile

theorem Settings.keeps_configured (profile : Option String) : (configured profile).Keeps 20 :=
  ⟨20, rfl, by decide, by decide⟩

/-- **The service and the command line agree on every evaluation, and on tokens unless the
expression can be read but is too long**, after whatever requests. A mode and a strictness that a
request gives are used as they are given. Every expression without blanks around it can be asked for
in both ways, with every mode and however strictly, unless the body of the request is too long. -/
theorem service_agrees_with_command_line (profile : Option String) (requests : List Request) :
    (∀ (mode : AngleMode) (strict : Bool),
      (Settings.configured profile).modeFor (some mode) = .ok mode ∧
      (Settings.configured profile).strictFor (some strict) = strict) ∧
    (∀ (request : Request) (form : EvaluateForm) (mode : AngleMode) (arguments : List String),
      request.Asks .evaluate .post → request.Holds (.configured profile) EvaluateForm.read form →
      (Settings.configured profile).modeFor form.mode = .ok mode →
      Command.ofArguments arguments = .ok (.eval form.expression mode
        (!(Settings.configured profile).strictFor form.strict) (!form.substitute)) →
      Agrees (answer (.configured profile) requests request) (CommandLine.run arguments)) ∧
    (∀ (request : Request) (form : TokenizeForm) (arguments : List String),
      request.Asks .tokenize .post → request.Holds (.configured profile) TokenizeForm.read form →
      Command.ofArguments arguments = .ok (.tokens form.expression
        (!(Settings.configured profile).strictFor form.strict)) →
      (Agrees (answer (.configured profile) requests request) (CommandLine.run arguments) ↔
        form.expression.length ≤ Expression.defaultMaxLength ∨
          ∃ e, Token.read ((Settings.configured profile).strictFor form.strict) form.expression =
            .error e)) ∧
    ∀ (expression : String) (mode : AngleMode) (strict substitute : Bool),
      Text.Trimmed Text.isWhiteSpace expression.toList →
      (((Request.evaluating expression mode strict substitute).received.utf8ByteSize : Int) ≤
          (Settings.configured profile).maxBody →
        (Request.evaluating expression mode strict substitute).Asks .evaluate .post ∧
        (Request.evaluating expression mode strict substitute).Holds (.configured profile)
          EvaluateForm.read ⟨expression, some mode, some strict, substitute, true⟩ ∧
        Command.ofArguments (Command.eval expression mode (!strict) (!substitute)).arguments =
          .ok (.eval expression mode (!strict) (!substitute))) ∧
      (((Request.tokenizing expression strict).received.utf8ByteSize : Int) ≤
          (Settings.configured profile).maxBody →
        (Request.tokenizing expression strict).Asks .tokenize .post ∧
        (Request.tokenizing expression strict).Holds (.configured profile) TokenizeForm.read
          ⟨expression, some strict⟩ ∧
        Command.ofArguments (Command.tokens expression (!strict)).arguments =
          .ok (.tokens expression (!strict))) := by
  refine ⟨fun mode strict => ⟨rfl, rfl⟩, ?_, ?_, ?_⟩
  · intro request form mode arguments hasks hform hmode harguments
    obtain ⟨history, hhistory, -, -⟩ := history_after (Settings.keeps_configured profile) requests
    exact agrees_evaluate hasks hform hmode rfl hhistory harguments
  · intro request form arguments hasks hform harguments
    exact agrees_tokenize_iff hasks hform harguments
  · intro expression mode strict substitute htrimmed
    refine ⟨fun hlength =>
      ⟨Request.asks_evaluating _ _ _ _, Request.holds_evaluating _ _ _ htrimmed hlength, ?_⟩,
      fun hlength => ⟨Request.asks_tokenizing _, Request.holds_tokenizing _ htrimmed hlength, ?_⟩⟩
    · exact Command.ofArguments_arguments _
    · exact Command.ofArguments_arguments _

/-- A product with a constant and a group that is not closed, read strictly; the same group, read
leniently. -/
theorem service_agrees_with_command_line_product :
    Agrees (answer (.configured none) [] (Request.evaluating "2*pi" .radian true true))
        (CommandLine.run ["eval", "--angle-mode", "radian", "--", "2*pi"]) ∧
      Agrees (answer (.configured none) [] (Request.tokenizing "(2" true))
        (CommandLine.run ["tokens", "--", "(2"]) ∧
      Agrees (answer (.configured none) [] (Request.evaluating "(2" .degree false false))
        (CommandLine.run
          ["eval", "--angle-mode", "degree", "--lenient", "--no-constants", "--", "(2"]) ∧
      Agrees (answer (.configured none) [] (Request.tokenizing "(2" false))
        (CommandLine.run ["tokens", "--lenient", "--", "(2"]) := by
  obtain ⟨hgiven, hevaluate, htokenize, hposted⟩ := service_agrees_with_command_line none []
  have hproduct : Text.Trimmed Text.isWhiteSpace "2*pi".toList :=
    Text.trimmed_of_forall (by simp; decide)
  have hgroup : Text.Trimmed Text.isWhiteSpace "(2".toList :=
    Text.trimmed_of_forall (by simp; decide)
  have hevaluated : ∀ (expression : String) (mode : AngleMode) (strict substitute : Bool),
      Text.Trimmed Text.isWhiteSpace expression.toList →
      ((Request.evaluating expression mode strict substitute).received.utf8ByteSize : Int) ≤
        (Settings.configured none).maxBody →
      Agrees (answer (.configured none) [] (Request.evaluating expression mode strict substitute))
        (CommandLine.run (Command.eval expression mode (!strict) (!substitute)).arguments) := by
    intro expression mode strict substitute htrimmed hlength
    obtain ⟨hasks, hholds, harguments⟩ :=
      (hposted expression mode strict substitute htrimmed).1 hlength
    exact hevaluate _ _ mode _ hasks hholds (hgiven mode strict).1 harguments
  have htokenized : ∀ strict : Bool,
      Agrees (answer (.configured none) [] (Request.tokenizing "(2" strict))
        (CommandLine.run (Command.tokens "(2" (!strict)).arguments) := by
    intro strict
    obtain ⟨hasks, hholds, harguments⟩ := (hposted "(2" .radian strict true hgroup).2 (by
      rw [Request.received_tokenizing]
      cases strict <;> decide +kernel)
    have hshort : "(2".length ≤ Expression.defaultMaxLength := by decide
    exact (htokenize _ _ _ hasks hholds harguments).mpr (Or.inl hshort)
  refine ⟨hevaluated "2*pi" .radian true true hproduct ?_, htokenized true,
    hevaluated "(2" .degree false false hgroup ?_, htokenized false⟩
  all_goals
    rw [Request.received_evaluating]
    decide +kernel

/-! ### An expression that is too long for the command only -/

/-- Two ones with blanks between them. -/
def onesApart (blanks : Nat) : String :=
  String.ofList ('1' :: ' ' :: (List.replicate blanks ' ' ++ ['1']))

theorem read_onesApart (blanks : Nat) :
    Token.read true (onesApart blanks) = .ok [.number 1.0, .number 1.0] := by
  have hblanks : ∀ c ∈ ' ' :: List.replicate blanks ' ', Text.isBlank c = true := by
    intro c hc
    have hsame : c = ' ' := by
      rcases List.mem_cons.mp hc with h | h
      · exact h
      · exact List.eq_of_mem_replicate h
    rw [hsame]
    decide
  have hliteral : ∀ (expects : Bool) (rest : List Char), Lexeme.Stops rest →
      Lexeme.cutFrom expects (['1'] ++ rest) = .literal ⟨none, ['1']⟩ ::
        Lexeme.cutFrom false rest := by
    intro expects rest hrest
    have hbody : ∀ c ∈ ['1'], isNumberChar c = true := List.forall_mem_singleton.mpr (by decide)
    exact Lexeme.cutFrom_literal (l := ⟨none, ['1']⟩) (by simp) (by simp) hbody (by simp) hrest
  have hcut : Lexeme.cut (onesApart blanks).toList =
      .literal ⟨none, ['1']⟩ ::
        ((' ' :: List.replicate blanks ' ').map .blank ++ [.literal ⟨none, ['1']⟩]) := by
    have hfront := hliteral true (' ' :: (List.replicate blanks ' ' ++ ['1']))
      (Lexeme.stops_cons (by decide) (by decide) _)
    have hback := hliteral false [] Lexeme.stops_nil
    rw [List.append_nil, Lexeme.cutFrom_nil] at hback
    rw [← List.cons_append, Lexeme.cutFrom_blanks hblanks, hback] at hfront
    rw [onesApart, String.toList_ofList]
    exact hfront
  have hone : ∀ position,
      Token.ofLexeme true position (.literal ⟨none, ['1']⟩) = .ok (some (.number 1.0)) := by
    intro position
    have hvalue : (Literal.mk none ['1']).read true = .ok 1.0 := by decide +kernel
    rw [Token.ofLexeme, hvalue]
    rfl
  have hreads :=
    Token.Reads.cons hone ((Token.reads_blanks (' ' :: List.replicate blanks ' ')).append
    (Token.Reads.cons hone Token.reads_nil))
  rw [Token.read, hcut]
  exact hreads 0

theorem length_onesApart (blanks : Nat) : (onesApart blanks).length = blanks + 3 := by
  rw [onesApart, String.length_ofList]
  simp

theorem trimmed_onesApart (blanks : Nat) :
    Text.Trimmed Text.isWhiteSpace (onesApart blanks).toList := by
  have hone : Text.isWhiteSpace '1' = false := by decide
  rw [onesApart, String.toList_ofList]
  refine ⟨?_, ?_⟩
  · rintro c ⟨⟩
    exact hone
  · intro c hc
    rw [← List.cons_append, ← List.cons_append, List.getLast?_concat] at hc
    obtain rfl := Option.some.inj hc
    exact hone

theorem quote_onesApart (blanks : Nat) :
    Json.quote true (onesApart blanks) = "\"" ++ onesApart blanks ++ "\"" := by
  have hsame : ∀ c ∈ (onesApart blanks).toList, Json.quoteChar true c = [c] := by
    intro c hc
    have hcases : c = '1' ∨ c = ' ' := by
      rw [onesApart, String.toList_ofList] at hc
      simp only [List.mem_cons, List.mem_append, List.mem_replicate, List.not_mem_nil, or_false]
        at hc
      tauto
    rcases hcases with rfl | rfl <;> decide +kernel
  apply String.toList_injective
  rw [Json.toList_quote, List.flatMap_congr hsame, List.flatMap_singleton', String.toList_append,
    String.toList_append]
  rfl

theorem utf8ByteSize_onesApart (blanks : Nat) : (onesApart blanks).utf8ByteSize = blanks + 3 := by
  have hblanks : String.utf8Len (List.replicate blanks ' ') = blanks := by
    induction blanks with
    | zero => rfl
    | succ n ih => rw [List.replicate_succ, String.utf8Len_cons, ih]; rfl
  have hone : String.utf8Len ['1'] = 1 := rfl
  rw [onesApart, String.utf8ByteSize_ofList, String.utf8Len_cons, String.utf8Len_cons,
    String.utf8Len_append, hblanks, hone]
  rfl

/-- **The service tells the tokens of an expression of 1025 characters, for which the command is
refused.** -/
theorem not_agrees_onesApart :
    (onesApart 1022).length = 1025 ∧ Text.Trimmed Text.isWhiteSpace (onesApart 1022).toList ∧
      ((Request.tokenizing (onesApart 1022) true).received.utf8ByteSize : Int) ≤
        (Settings.configured none).maxBody ∧
      Command.ofArguments ["tokens", "--", onesApart 1022] = .ok (.tokens (onesApart 1022) false) ∧
      answer (.configured none) [] (Request.tokenizing (onesApart 1022) true) =
        .ok (Token.describeBoth [.number 1.0, .number 1.0] [.number 1.0, .number 1.0]) ∧
      CommandLine.run ["tokens", "--", onesApart 1022] =
        refused "expression_too_long" "Expression is longer than 1024 characters" ∧
      ¬ Agrees (answer (.configured none) [] (Request.tokenizing (onesApart 1022) true))
        (CommandLine.run ["tokens", "--", onesApart 1022]) := by
  have hlength := length_onesApart 1022
  have htrimmed := trimmed_onesApart 1022
  have hbody : ((Request.tokenizing (onesApart 1022) true).received.utf8ByteSize : Int) ≤
      (Settings.configured none).maxBody := by
    rw [Request.received_tokenizing, quote_onesApart]
    simp only [String.utf8ByteSize_append, utf8ByteSize_onesApart]
    decide +kernel
  have hread := read_onesApart 1022
  have hholds := Request.holds_tokenizing true htrimmed hbody
  have horder : Postfix.ofTokens true [.number 1.0, .number 1.0] = .ok [.number 1.0, .number 1.0] :=
    rfl
  have hanswer : answer (.configured none) [] (Request.tokenizing (onesApart 1022) true) =
      .ok (Token.describeBoth [.number 1.0, .number 1.0] [.number 1.0, .number 1.0]) := by
    rw [answer, respond_of_acted (Request.asks_tokenizing true) (.tokenize hholds hread horder)]
  have hcommand : Command.ofArguments ["tokens", "--", onesApart 1022] =
    .ok (.tokens (onesApart 1022) false) := rfl
  have hrefused : CommandLine.run ["tokens", "--", onesApart 1022] =
      refused "expression_too_long" "Expression is longer than 1024 characters" := by
    have hlong := @Command.answer_tokens_of_long _ false _ hread (by rw [hlength]; decide)
    rw [CommandLine.run_of_refused hcommand hlong, describe_of_code rfl]
    rfl
  refine ⟨hlength, htrimmed, hbody, hcommand, hanswer, hrefused, ?_⟩
  rw [hanswer, hrefused]
  exact not_agrees_of_data _ _ _

end Calculator.Service
