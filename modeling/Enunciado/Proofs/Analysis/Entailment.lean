import Enunciado.Proofs.Analysis.Given
import Enunciado.Proofs.Formula.Depth
import Enunciado.Proofs.Formula.Nesting
import Enunciado.Proofs.Prose.Relationship

namespace Enunciado

open Analysis

namespace Formula

open Token

section Composition

variable {m n : Nat} {e e₁ e₂ : String} {x x₁ x₂ : Formula String}

-- Two expressions in parentheses, with a connective between them.
def joined (op : Operator) (e₁ e₂ : String) : String :=
  "(" ++ e₁ ++ ") " ++ String.singleton op.glyph ++ " (" ++ e₂ ++ ")"

-- An expression in parentheses, with a negation before it.
def denied (e : String) : String :=
  "¬(" ++ e ++ ")"

theorem toList_joined (op : Operator) (e₁ e₂ : String) :
    (joined op e₁ e₂).toList =
      '(' :: e₁.toList ++ [')', ' ', op.glyph, ' ', '('] ++ e₂.toList ++ [')'] := by
  simp [joined]

theorem toList_denied (e : String) : (denied e).toList = '¬' :: ('(' :: e.toList ++ [')']) := by
  simp [denied]

-- An expression that keeps one level of nesting and one of depth below the limits.
structure Joinable (e : String) (x : Formula String) : Prop where
  parse   : parse e = .ok x
  nesting : Token.nesting e.toList ≤ maxNesting - 1
  depth   : x.depth ≤ maxDepth - 1

-- The parentheses add one level of nesting, and the connective one of depth.
theorem Joinable.parse_joined (h₁ : Joinable e₁ x₁) (h₂ : Joinable e₂ x₂) (hop : op ≠ .not) :
    Formula.parse (joined op e₁ e₂) = .ok (.binary op x₁ x₂) := by
  have hx₁ := (derives_nesting_of_parse h₁.parse).mono h₁.nesting
  have hx₂ := (derives_nesting_of_parse h₂.parse).mono h₂.nesting
  refine parse_eq_ok_iff.mpr ⟨?_, ?_⟩
  case refine_1 =>
    rw [toList_joined]
    exact Prose.derives_pair op hop hx₁ hx₂
  case refine_2 =>
    have hd := Nat.max_le.mpr ⟨h₁.depth, h₂.depth⟩
    rw [depth_eq_height, depth_eq_height] at hd
    rw [depth_eq_height]
    exact Nat.succ_le_succ hd

-- The negation adds to both, so that it takes another level of nesting.
theorem Joinable.parse_denied (h : Joinable e x) (hn : Token.nesting e.toList ≤ maxNesting - 2) :
    Formula.parse (denied e) = .ok (.unary .not x) := by
  have hx := (derives_nesting_of_parse h.parse).mono hn
  refine parse_eq_ok_iff.mpr ⟨?_, ?_⟩
  case refine_1 =>
    rw [toList_denied, lexemes_denied]
    exact (Prose.derives_parenthesized hx).denial.loosen Phrase.precedence_pos
  case refine_2 =>
    have hd := h.depth
    rw [depth_eq_height] at hd ⊢
    exact Nat.succ_le_succ hd

end Composition

end Formula

namespace Report.Tabulates

variable {symbols : List String} {x x₁ x₂ : Formula String} {r r₁ r₂ : Report String}

theorem tautology_iff (h : r.Tabulates symbols x) :
    r.verdict = .tautology ↔ ∀ a ∈ assignments symbols, x.truth a.value := by
  rw [h.verdict_eq_iff, h.column_eq]
  simp [Verdict.Holds]

theorem contradiction_iff (h : r.Tabulates symbols x) :
    r.verdict = .contradiction ↔ ∀ a ∈ assignments symbols, x.truth a.value = false := by
  rw [h.verdict_eq_iff, h.column_eq]
  simp [Verdict.Holds]

theorem mem_rows_iff (h : r.Tabulates symbols x) :
    ⟨a, b⟩ ∈ r.rows ↔ a ∈ assignments symbols ∧ x.truth a.value = b := by
  rw [h.rows]
  simp [Formula.row]

theorem equivalence (h₁ : r₁.Tabulates symbols x₁) (h₂ : r₂.Tabulates symbols x₂)
    (h : r.Tabulates symbols (.binary .iff x₁ x₂)) :
    r.verdict = .tautology ↔ r₁.column = r₂.column := by
  rw [h.tautology_iff, h₁.column_eq, h₂.column_eq, List.map_inj_left]
  simp [Formula.truth, Operator.truth?]

theorem entailment (h₁ : r₁.Tabulates symbols x₁) (h₂ : r₂.Tabulates symbols x₂)
    (h : r.Tabulates symbols (.binary .implies x₁ x₂)) :
    r.verdict = .tautology ↔ ∀ a, ⟨a, true⟩ ∈ r₁.rows → ⟨a, true⟩ ∈ r₂.rows := by
  have ht (a : Assignment) : (Formula.binary .implies x₁ x₂).truth a.value ↔
      (x₁.truth a.value → x₂.truth a.value) := by
    simp [Formula.truth, Operator.truth?, imp_iff_not_or]
  simp only [h.tautology_iff, h₁.mem_rows_iff, h₂.mem_rows_iff, ht]
  constructor
  case mp =>
    rintro h a ⟨ha, ht⟩
    exact ⟨ha, h a ha ht⟩
  case mpr =>
    intro h a ha ht
    exact (h a ⟨ha, ht⟩).2

theorem column_denied (h₁ : r₁.Tabulates symbols x) (h : r.Tabulates symbols (.unary .not x)) :
    r.column = r₁.column.map (!·) := by
  rw [h.column_eq, h₁.column_eq, List.map_map]
  rfl

theorem tautology_denied_iff (h₁ : r₁.Tabulates symbols x)
    (h : r.Tabulates symbols (.unary .not x)) :
    r.verdict = .tautology ↔ r₁.verdict = .contradiction := by
  rw [h.tautology_iff, h₁.contradiction_iff]
  simp [Formula.truth]

theorem contradiction_denied_iff (h₁ : r₁.Tabulates symbols x)
    (h : r.Tabulates symbols (.unary .not x)) :
    r.verdict = .contradiction ↔ r₁.verdict = .tautology := by
  rw [h.contradiction_iff, h₁.tautology_iff]
  simp [Formula.truth]

end Report.Tabulates

section Analyses

open Formula

variable {settings : Settings} {text e₁ e₂ : String} {declarations : Json} {ns : List Named}
variable {x₁ x₂ : Formula String}

theorem analyses_decide_entailment (h₁ : Joinable e₁ x₁) (h₂ : Joinable e₂ x₂)
    (h : Admits settings text declarations ns) (now : String) (verbose : Bool) :
    let analysis e := (runDeclared settings text declarations (some e) now verbose).2
    let symbols := ns.map (·.symbol)
    let strict := settings.strictVariables.truthy
    (∀ op, op ≠ .not → parse (joined op e₁ e₂) = .ok (.binary op x₁ x₂) ∧
      ((∃ r, analysis (joined op e₁ e₂) = .ok r) ↔
        (∃ r₁, analysis e₁ = .ok r₁) ∧ ∃ r₂, analysis e₂ = .ok r₂)) ∧
    ((strict → ∀ name ∈ x₁.names ++ x₂.names, name ∈ symbols) →
      ∃ r₁ r₂, analysis e₁ = .ok r₁ ∧ analysis e₂ = .ok r₂ ∧
        (∃ r, analysis (joined .iff e₁ e₂) = .ok r ∧
          (r.verdict = .tautology ↔ r₁.column = r₂.column)) ∧
        ∃ r, analysis (joined .implies e₁ e₂) = .ok r ∧
          (r.verdict = .tautology ↔ ∀ a, ⟨a, true⟩ ∈ r₁.rows → ⟨a, true⟩ ∈ r₂.rows)) ∧
    (Token.nesting e₁.toList ≤ maxNesting - 2 → parse (denied e₁) = .ok (.unary .not x₁) ∧
      ((∃ r, analysis (denied e₁) = .ok r) ↔ ∃ r₁, analysis e₁ = .ok r₁) ∧
      ((strict → ∀ name ∈ x₁.names, name ∈ symbols) →
        ∃ r₁ r, analysis e₁ = .ok r₁ ∧ analysis (denied e₁) = .ok r ∧
          r.column = r₁.column.map (!·) ∧
          (r.verdict = .tautology ↔ r₁.verdict = .contradiction) ∧
          (r.verdict = .contradiction ↔ r₁.verdict = .tautology))) := by
  intro analysis symbols strict
  refine ⟨fun op hop => ?_, fun hs => ?_, fun hn => ?_⟩
  case refine_1 =>
    have hx := h₁.parse_joined h₂ hop
    refine ⟨hx, ?_⟩
    rw [h.accepts_iff hx, h.accepts_iff h₁.parse, h.accepts_iff h₂.parse, ← imp_and]
    exact imp_congr_right fun _ => List.forall_mem_append
  case refine_2 =>
    obtain ⟨r₁, hr₁, ht₁⟩ := h.exists_report h₁.parse
      (fun hs' name hm => hs hs' name (List.mem_append_left _ hm)) now verbose
    obtain ⟨r₂, hr₂, ht₂⟩ := h.exists_report h₂.parse
      (fun hs' name hm => hs hs' name (List.mem_append_right _ hm)) now verbose
    have hx : parse (joined .iff e₁ e₂) = .ok (.binary .iff x₁ x₂) := h₁.parse_joined h₂ nofun
    have hx' : parse (joined .implies e₁ e₂) = .ok (.binary .implies x₁ x₂) :=
      h₁.parse_joined h₂ nofun
    obtain ⟨r, hr, ht⟩ := h.exists_report hx hs now verbose
    obtain ⟨r', hr', ht'⟩ := h.exists_report hx' hs now verbose
    exact ⟨r₁, r₂, hr₁, hr₂, ⟨r, hr, ht₁.equivalence ht₂ ht⟩, r', hr', ht₁.entailment ht₂ ht'⟩
  case refine_3 =>
    have hx := h₁.parse_denied hn
    refine ⟨hx, ?_, fun hs => ?_⟩
    case refine_1 =>
      rw [h.accepts_iff hx, h.accepts_iff h₁.parse]
      rfl
    case refine_2 =>
      obtain ⟨r₁, hr₁, ht₁⟩ := h.exists_report h₁.parse hs now verbose
      obtain ⟨r, hr, ht⟩ := h.exists_report hx hs now verbose
      exact ⟨r₁, r, hr₁, hr, ht₁.column_denied ht, ht₁.tautology_denied_iff ht,
        ht₁.contradiction_denied_iff ht⟩

-- An implication is equivalent to its contrapositive, and its denial has the opposite column.
theorem entailment_of_contrapositive :
    let declarations := Json.obj [("p", .str "llueve"), ("q", .str "hay nubes")]
    let analysis e :=
      (runDeclared .standard "Si llueve, hay nubes." declarations (some e) "" true).2
    joined .iff "p → q" "¬q → ¬p" = "(p → q) ↔ (¬q → ¬p)" ∧
    (∃ r, analysis "(p → q) ↔ (¬q → ¬p)" = .ok r ∧ r.verdict = .tautology) ∧
    ∃ r, analysis "¬(p → q)" = .ok r ∧ r.column = [false, false, true, false] := by
  intro declarations analysis
  have h : Admits .standard "Si llueve, hay nubes." declarations
      [⟨"p", "llueve"⟩, ⟨"q", "hay nubes"⟩] := {
    validText := by decide +kernel
    items     := by rfl
    valid     := by decide +kernel
  }
  have h₁ : Joinable "p → q" (.binary .implies (.var "p") (.var "q")) := {
    parse   := by cbv
    nesting := by decide
    depth   := by cbv
  }
  have h₂ : Joinable "¬q → ¬p"
      (.binary .implies (.unary .not (.var "q")) (.unary .not (.var "p"))) := {
    parse   := by cbv
    nesting := by decide
    depth   := by cbv
  }
  have hs : Settings.standard.strictVariables.truthy = false := rfl
  obtain ⟨-, hp, hn⟩ := analyses_decide_entailment h₁ h₂ h "" true
  obtain ⟨r₁, r₂, hr₁, hr₂, ⟨r, hr, hv⟩, -⟩ := hp (by simp [hs])
  obtain ⟨r₁', r', hr₁', hr', hc, -⟩ := (hn (by decide)).2.2 (by simp [hs])
  have hc₁ {r₁} (hr₁ : analysis "p → q" = .ok r₁) : r₁.column = [true, true, false, true] := by
    rw [(h.tabulates h₁.parse hr₁).column_eq]
    rfl
  have hc₂ : r₂.column = [true, true, false, true] := by
    rw [(h.tabulates h₂.parse hr₂).column_eq]
    rfl
  refine ⟨by decide, ⟨r, hr, hv.mpr ((hc₁ hr₁).trans hc₂.symm)⟩, r', hr', ?_⟩
  rw [hc, hc₁ hr₁']
  rfl

end Analyses

end Enunciado
