import Calculator.Answer
import Calculator.Proofs.Errors

/-! # Where the angle mode matters

The listing of functions marks some of them (`MathFunction.IsMarked`): just those that have two
values somewhere, one in degrees and one in radians (`isMarked_iff_exists_ne`). All other tokens act
on a stack alike in every mode (`step_eq_of_unmarked`), and so does a program without marked
functions (`run_eq_of_unmarked`). So an expression without them has the same outcome in every mode,
be it a value or an error (`evaluate_eq_of_unmarked`).
-/

namespace Calculator

/-! ### Marked functions -/

namespace MathFunction

/-- The listing of functions says of this one that it depends on the angle mode. -/
def IsMarked (f : MathFunction) : Prop :=
  ∃ entries, describeAll.field? "functions" = some (.array entries) ∧ ∃ entry ∈ entries,
    entry.field? "symbol" = some (.string f.symbol) ∧
    entry.field? "angle_dependent" = some (.bool true)

theorem isMarked_iff {f : MathFunction} : f.IsMarked ↔ f.angleDependent = true := by
  have hlisting : describeAll.field? "functions" = some (.array (listed.map describe)) := rfl
  constructor
  · rintro ⟨entries, hentries, entry, hentry, hsymbol, hmark⟩
    rw [hlisting] at hentries
    obtain rfl := Json.array.inj (Option.some.inj hentries)
    obtain ⟨g, -, rfl⟩ := List.mem_map.mp hentry
    have hsame : g.symbol = f.symbol := Json.string.inj (Option.some.inj hsymbol)
    have hfound := ofSymbol?_symbol g
    rw [hsame, ofSymbol?_symbol] at hfound
    rw [Option.some.inj hfound]
    exact Json.bool.inj (Option.some.inj hmark)
  · intro h
    have hlisted : f ∈ listed := by
      rw [mem_listed]
      rintro rfl
      contradiction
    exact ⟨_, hlisting, f.describe, List.mem_map_of_mem hlisted, rfl,
      congrArg (fun b => some (Json.bool b)) h⟩

/-- **The marked functions are those that have two values somewhere**, one for each angle mode. -/
theorem isMarked_iff_exists_ne {f : MathFunction} :
    f.IsMarked ↔ ∃ v, f.apply .degree v ≠ f.apply .radian v := by
  rw [isMarked_iff]
  constructor
  · intro h
    cases f with
    | sin => exact ⟨1.0, by decide +kernel⟩
    | cos => exact ⟨1.0, by decide +kernel⟩
    | tan => exact ⟨1.0, by decide +kernel⟩
    | asin => exact ⟨1.0, by decide +kernel⟩
    | acos => exact ⟨0.0, by decide +kernel⟩
    | atan => exact ⟨1.0, by decide +kernel⟩
    | _ => contradiction
  · rintro ⟨v, hv⟩
    by_contra hfree
    exact hv (apply_eq_of_not_angleDependent (Bool.not_eq_true _ ▸ hfree) _ _ v)

theorem apply_eq_of_not_isMarked {f : MathFunction} (h : ¬ f.IsMarked) (mode mode' : AngleMode)
    (v : Float) : f.apply mode v = f.apply mode' v := by
  rw [isMarked_iff, Bool.not_eq_true] at h
  exact apply_eq_of_not_angleDependent h mode mode' v

end MathFunction

/-- The token applies no marked function. -/
def Token.Unmarked (t : Token) : Prop :=
  ∀ f name, t = .function f name → ¬ f.IsMarked

/-! ### Programs without marked functions -/

namespace Postfix

variable {mode mode' : AngleMode} {strict : Bool}

theorem step_eq_of_unmarked {t : Token} (h : t.Unmarked) (stack : List Float) :
    step mode strict stack t = step mode' strict stack t := by
  cases t with
  | function f name =>
    have happly := MathFunction.apply_eq_of_not_isMarked (h f name rfl) mode mode'
    cases stack with
    | nil => rfl
    | cons v stack => simp only [step, applyFunction, happly]
  -- no other token asks for the mode
  | number | operator | opening | closing | «foreign» =>
    rcases stack with _ | ⟨b, _ | ⟨a, stack⟩⟩ <;> rfl

/-- **A program without marked functions runs alike in every mode.** -/
theorem run_eq_of_unmarked {program : List Token} (h : ∀ t ∈ program, t.Unmarked)
    (stack : List Float) : run mode strict stack program = run mode' strict stack program := by
  induction program generalizing stack with
  | nil => rfl
  | cons t program ih =>
    obtain ⟨ht, hprogram⟩ := List.forall_mem_cons.mp h
    rw [run_cons, run_cons, step_eq_of_unmarked ht]
    exact congrArg _ (funext fun next => ih hprogram next)

theorem value_eq_of_unmarked {program : List Token} (h : ∀ t ∈ program, t.Unmarked) :
    value mode strict program = value mode' strict program := by
  rw [value, value, run_eq_of_unmarked h]

end Postfix

/-! ### Expressions without marked functions -/

namespace Expression

variable {strict : Bool} {limit : Int} {text : String}

/-- A program applies no function that its expression does not name. -/
theorem unmarked_of_compile {program : List Token}
    (h : compile strict limit (some text) = .ok program)
    (hunmarked : ∀ tokens, Token.read strict text = .ok tokens → ∀ t ∈ tokens, t.Unmarked) :
    ∀ t ∈ program, t.Unmarked := by
  intro t ht
  obtain ⟨tokens, -, hread, horder⟩ := compile_eq_ok_iff.mp h
  have hbare : t ∈ Postfix.bare tokens := (Postfix.ofTokens_perm strict horder).mem_iff.mp ht
  exact hunmarked tokens hread t (List.mem_of_mem_filter hbare)

/-- **An expression without marked functions has the same outcome in degrees and in radians**: the
same value, or the same error. -/
theorem evaluate_eq_of_unmarked {degrees radians : Option String}
    (hdegrees : AngleMode.read degrees = .ok .degree)
    (hradians : AngleMode.read radians = .ok .radian) (strict : Bool) (limit : Int) (text : String)
    (hunmarked : ∀ tokens, Token.read strict text = .ok tokens → ∀ t ∈ tokens, t.Unmarked) :
    evaluate degrees strict limit (some text) = evaluate radians strict limit (some text) := by
  rw [evaluate_eq_compile hdegrees, evaluate_eq_compile hradians]
  cases hcompile : compile strict limit (some text) with
  | error e => simp only [Except.bind]
  | ok program => exact Postfix.value_eq_of_unmarked (unmarked_of_compile hcompile hunmarked)

/-- A factorial that is not defined is so in both modes. -/
theorem evaluate_eq_of_unmarked_factorial :
    Token.read true "ln(1)+n!(0.5)" = .ok [.function .ln "ln", .opening, .number 1.0, .closing,
        .operator .add, .function .factorial "n!", .opening, .number 0.5, .closing] ∧
      evaluate (some "DEG") true 13 (some "ln(1)+n!(0.5)") = .error (.factorialUndefined 0.5) ∧
      evaluate (some " rad") true 13 (some "ln(1)+n!(0.5)") = .error (.factorialUndefined 0.5) := by
  have hread : Token.read true "ln(1)+n!(0.5)" = .ok [.function .ln "ln", .opening, .number 1.0,
      .closing, .operator .add,
      .function .factorial "n!", .opening, .number 0.5, .closing] := by decide +kernel
  have hdegrees : AngleMode.read (some "DEG") = .ok .degree := by decide +kernel
  have hradians : AngleMode.read (some " rad") = .ok .radian := by decide +kernel
  have hvalue : evaluate (some "DEG") true 13 (some "ln(1)+n!(0.5)") =
      .error (.factorialUndefined 0.5) := by
    decide +kernel
  have hunmarked : ∀ tokens, Token.read true "ln(1)+n!(0.5)" = .ok tokens → ∀ t ∈ tokens,
      t.Unmarked := by
    intro tokens htokens t ht f name hfunction
    rw [hread] at htokens
    obtain rfl := Except.ok.inj htokens
    have hf : f = .ln ∨ f = .factorial := by
      simp only [hfunction, List.mem_cons, Token.function.injEq, reduceCtorEq, List.not_mem_nil,
        false_or, or_false] at ht
      exact ht.imp And.left And.left
    rw [MathFunction.isMarked_iff]
    rcases hf with rfl | rfl <;> decide
  refine ⟨hread, hvalue, ?_⟩
  rw [← evaluate_eq_of_unmarked hdegrees hradians true 13 _ hunmarked]
  exact hvalue

end Expression

end Calculator
