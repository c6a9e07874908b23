import Enunciado.Proofs.Analysis.Failure

namespace Enunciado

open Analysis

-- What the checks of a text, of declarations and of an expression have to say.
structure Preview where
  text : Except CheckError CheckResult
  propositions : Except CheckError CheckResult
  expression : CheckResult
deriving DecidableEq

-- Whether a check says that all is well.
def CheckResult.passed : Except CheckError CheckResult → Bool
  | .ok r => r.valid
  | .error _ => false

open CheckResult (passed)

namespace Preview

def of (settings : Settings) (text : String) (declarations : Json) (expression : String) : Preview :=
  ⟨checkText settings text, checkPropositions settings declarations, checkExpression expression⟩

def Valid (p : Preview) : Prop :=
  passed p.text ∧ passed p.propositions ∧ p.expression.valid

-- The check that decides what is shown: that of declarations that are malformed comes before that
-- of the text, and that of declarations that are not valid after it.
inductive Decides (p : Preview) : Bool → Except CheckError CheckResult → Prop
  | malformed : Decides p true p.propositions
  | text : ¬passed p.text → Decides p false p.text
  | propositions : passed p.text → ¬passed p.propositions → Decides p false p.propositions
  | expression : passed p.text → passed p.propositions → Decides p false (.ok p.expression)

-- An error of the analysis that tells what a check says.
inductive Tells : AnalysisError → Except CheckError CheckResult → Prop
  | message {e m} : e.message? = some m → e ≠ .tooManyDigits → Tells e (.ok ⟨false, m⟩)
  | tooManyDigits : Tells .tooManyDigits (.error .tooManyDigits)

end Preview

section Agreement

variable {settings : Settings} {text expression : String} {ps : List Declared}

theorem passed_refused (message? : Option String) :
    passed (CheckResult.refused message?) = false := by
  cases message? <;> rfl

theorem passed_ofValidation {r : Except ValidationError α} :
    passed (CheckResult.ofValidation r) ↔ ∃ a, r = .ok a := by
  cases r
  case ok a => exact iff_of_true rfl ⟨a, rfl⟩
  case error e => exact iff_of_false (by simp [CheckResult.ofValidation, passed_refused]) nofun

-- The analysis and the check tell the same of what is not valid.
theorem tells_ofValidation (e : ValidationError) :
    Preview.Tells (.ofValidation e) (CheckResult.refused e.message?) := by
  rw [AnalysisError.ofValidation]
  cases hm : e.message?
  case none => exact .tooManyDigits
  case some m => exact .message hm nofun

theorem tells_malformed (item : Json) :
    Preview.Tells (.ofDeclaration (.malformed item))
      (CheckResult.refused (malformedMessage? item)) := by
  rw [AnalysisError.ofDeclaration]
  cases hm : malformedMessage? item
  case none => exact .tooManyDigits
  case some m => exact .message hm nofun

theorem formulaOf_of_permissive (hs : settings.strictVariables.truthy = false)
    (declared : List String) (expression : String) :
    formulaOf settings declared expression =
      (Formula.parse expression).mapError .badSyntax := by
  unfold formulaOf
  rw [hs]
  cases Formula.parse expression <;> rfl

-- Nothing but its checks decides whether an analysis succeeds, and the first that is not passed
-- tells why it does not.
theorem analyze_cases (hs : settings.strictVariables.truthy = false)
    (hd : Proposition.ofJson declarations = .ok ps) (text expression now : String) :
    let p := Preview.of settings text declarations expression
    let outcome := analyze settings text declarations (some expression) now
    ((∃ report, outcome = .ok report) ∧ p.Valid) ∨
      ∃ e c, outcome = .error e ∧ ¬p.Valid ∧ p.Decides false c ∧ Preview.Tells e c := by
  intro p outcome
  have ht : p.text = CheckResult.ofValidation (validateText settings text) := rfl
  have hp : p.propositions = CheckResult.ofValidation (validatePropositions settings ps) := by
    simp only [p, Preview.of, checkPropositions, hd]
  have ho : outcome = (run settings ⟨text, ps, some expression⟩ now false).2 := by
    simp only [outcome, analyze, runDeclared, hd]
  have hpt := ht ▸ passed_ofValidation (r := validateText settings text)
  have hpp := hp ▸ passed_ofValidation (r := validatePropositions settings ps)
  cases hv : validateText settings text
  case error e =>
    have hn : ¬passed p.text := mt hpt.mp (by simp [hv])
    refine .inr ⟨.ofValidation e, p.text, ?_, fun h => hn h.1, .text hn, ?_⟩
    · rw [ho, run, validate, hv]
    · rw [ht, hv]
      exact tells_ofValidation e
  case ok =>
  have hpt := hpt.mpr ⟨_, hv⟩
  cases hvp : validatePropositions settings ps
  case error e =>
    have hn : ¬passed p.propositions := mt hpp.mp (by simp [hvp])
    refine .inr ⟨.ofValidation e, p.propositions, ?_, fun h => hn h.2.1, .propositions hpt hn, ?_⟩
    · rw [ho, run, validate, hv, hvp]
    · rw [hp, hvp]
      exact tells_ofValidation e
  case ok ns =>
  have hpp := hpp.mpr ⟨_, hvp⟩
  have hn : validate settings ⟨text, ps, some expression⟩ = .ok ns := by rw [validate, hv, hvp]
  have hf := formulaOf_of_permissive hs (ns.map (·.symbol)) expression
  cases hx : Formula.parse expression
  case error e =>
    have hc : p.expression = ⟨false, e.message⟩ := by
      simp only [p, Preview.of, checkExpression, hx]
    rw [hx] at hf
    refine .inr ⟨.badSyntax e, _, ?_, fun h => ?_, .expression hpt hpp, ?_⟩
    · exact ho.trans (run_eq_error_iff.mpr (.formula hn rfl hf))
    · cases hc ▸ h.2.2
    · rw [hc]
      exact .message rfl (by simp)
  case ok x =>
    have hc : p.expression = .ok := by
      simp only [p, Preview.of, checkExpression, hx]
    rw [hx] at hf
    exact .inl ⟨ho ▸ exists_report hn rfl hf now false, hpt, hpp, by rw [hc]; rfl⟩

end Agreement

theorem analyze_agrees_with_preview {settings : Settings} {declarations : Json}
    (hs : settings.strictVariables.truthy = false) (hd : declarations.hasItems)
    (text expression now : String) :
    let p := Preview.of settings text declarations expression
    let outcome := analyze settings text declarations (some expression) now
    ((∃ report, outcome = .ok report) ↔ p.Valid) ∧
    (∀ e, outcome = .error e →
      ∃ c, p.Decides (Proposition.ofJson declarations).toOption.isNone c ∧ Preview.Tells e c) ∧
    (outcome = .error .tooManyDigits → declarations.hasLong ∨ settings.toJson.hasLong) := by
  intro p outcome
  suffices h : ((∃ report, outcome = .ok report) ∧ p.Valid) ∨ ∃ e c, outcome = .error e ∧
      ¬p.Valid ∧ p.Decides (Proposition.ofJson declarations).toOption.isNone c ∧
      Preview.Tells e c by
    refine ⟨?_, fun e he => ?_, fun ht => (tooManyDigits_iff_unwritable.mp ht).hasLong⟩
    all_goals rcases h with ⟨⟨report, hr⟩, hv⟩ | ⟨e', c, he', hv, hc, ht⟩
    · exact iff_of_true ⟨report, hr⟩ hv
    · exact iff_of_false (fun ⟨_, hr⟩ => by cases hr.symm.trans he') hv
    · cases hr.symm.trans he
    · cases he.symm.trans he'
      exact ⟨c, hc, ht⟩
  cases hj : Proposition.ofJson declarations
  case ok ps => exact analyze_cases hs hj text expression now
  case error e =>
    cases e
    case noItems => exact absurd hj (Proposition.ofJson_ne_noItems hd)
    case malformed item =>
      have hp : p.propositions = CheckResult.refused (malformedMessage? item) := by
        simp only [p, Preview.of, checkPropositions, hj]
      refine .inr ⟨.ofDeclaration (.malformed item), p.propositions, ?_, fun h => ?_, .malformed,
        hp ▸ tells_malformed item⟩
      · simp only [outcome, analyze, runDeclared, hj]
      · cases (passed_refused _).symm.trans (hp ▸ h.2.1)

-- A text that is too short is reported before too few declarations and a parenthesis left open.
theorem preview_of_short_text :
    let declarations := Json.obj [("p", .str "llueve")]
    let p := Preview.of .standard "Llueve." declarations "p ∧ (q"
    ¬passed p.text ∧ ¬passed p.propositions ∧ ¬p.expression.valid ∧
    ∃ e m, analyze .standard "Llueve." declarations (some "p ∧ (q") "" = .error e ∧
      e.message? = some m ∧ p.text = .ok ⟨false, m⟩ := by
  intro declarations p
  have hs : Settings.standard.strictVariables.truthy = false := rfl
  have hd : declarations.hasItems := rfl
  obtain ⟨-, hm, -⟩ := analyze_agrees_with_preview hs hd "Llueve." "p ∧ (q" ""
  have he : analyze .standard "Llueve." declarations (some "p ∧ (q") "" =
      .error (.validation (.shortText (.int 10))) := by
    decide +kernel
  have hp : p = ⟨.ok ⟨false, "El texto debe tener al menos 10 caracteres."⟩,
      .ok ⟨false, "Debe proporcionar al menos 2 proposiciones."⟩,
      ⟨false, "Paréntesis no balanceados en la expresión."⟩⟩ := by
    decide +kernel
  have ht : ¬passed p.text := by rw [hp]; decide
  refine ⟨ht, by rw [hp]; decide, by rw [hp]; decide, ?_⟩
  obtain ⟨c, hc, htold⟩ := hm _ he
  have hj : (Proposition.ofJson declarations).toOption.isNone = false := rfl
  rw [hj] at hc
  cases hc
  case text =>
    generalize p.text = c at htold ⊢
    cases htold
    case message m hm _ => exact ⟨_, m, he, hm, rfl⟩
  case propositions h _ => exact absurd h ht
  case expression h _ => exact absurd h ht

-- Neither a check nor the analysis tells of a limit that has too many digits.
theorem not_told_long_limit :
    let limit : Json := .int (10 ^ 4300 : Nat)
    let declarations := Json.obj [("p", .str "llueve"), ("q", .str "nieva")]
    ∃ settings,
      Settings.ofJson (.obj [("min_text_length", limit), ("max_text_length", limit)]) =
        .ok settings ∧
      settings.strictVariables.truthy = false ∧
      checkText settings "Llueve y nieva." = .error .tooManyDigits ∧
      analyze settings "Llueve y nieva." declarations (some "p ∧ q") "" =
        .error .tooManyDigits := by
  refine ⟨{ Settings.standard with
    minTextLength := .int (10 ^ 4300 : Nat), maxTextLength := .int (10 ^ 4300 : Nat) }, ?_⟩
  decide +kernel

end Enunciado
