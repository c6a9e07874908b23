import Enunciado.Proofs.Analysis.Given
import Enunciado.Proofs.Analysis.Outcome
import Enunciado.Proofs.Formula.Falsity
import Enunciado.Proofs.TruthTable.Strictness

namespace Enunciado

open Analysis

variable {settings : Settings} {text expression : String} {declarations : Json} {ns : List Named}
variable {declared : List String} {x : Formula String}

section Values

theorem value_of_not_declared (ha : a ∈ assignments declared) (h : name ∉ declared) :
    a.value name = false := by
  rw [Assignment.value, (lookup_eq_none_of_mem ha).mpr h]
  rfl

theorem rows_falsify (declared : List String) (x : Formula String) :
    (assignments declared).map (x.falsify declared).row = (assignments declared).map x.row :=
  List.map_congr_left fun a ha =>
    congrArg (Row.mk a) (Formula.truth_falsify (fun _ h => value_of_not_declared ha h) x)

end Values

section Names

theorem nodup_eraseDups {α : Type} [DecidableEq α] (xs : List α) : xs.eraseDups.Nodup := by
  induction xs using List.reverseRecOn
  case nil => exact List.nodup_nil
  case append_singleton xs x hi =>
    rw [eraseDups_concat]
    split
    case isTrue => exact hi
    case isFalse h =>
      rw [← List.concat_eq_append, List.nodup_concat]
      exact ⟨mt List.mem_eraseDups.mp h, hi⟩

theorem mem_undeclared_iff :
    name ∈ undeclared declared x ↔ name ∈ x.names ∧ name ∉ declared := by
  simp [undeclared]

theorem undeclared_increasing (declared : List String) (x : Formula String) :
    (undeclared declared x).Pairwise (· < ·) := by
  have hn : (undeclared declared x).Nodup :=
    (List.mergeSort_perm _ _).nodup_iff.mpr ((nodup_eraseDups x.names).filter _)
  have ht (a b c : String) : decide (a ≤ b) → decide (b ≤ c) → decide (a ≤ c) := by
    simpa using String.le_trans
  have hl (a b : String) : decide (a ≤ b) || decide (b ≤ a) := by
    simpa using String.le_total a b
  refine ((List.pairwise_mergeSort ht hl _).and hn).imp fun h => ?_
  exact Std.lt_of_le_of_ne (of_decide_eq_true h.1) h.2

-- The names that are not declared are the letters that are replaced.
theorem mem_undeclared_iff_isStray (hx : Formula.parse expression = .ok x) :
    name ∈ undeclared declared x ↔
      ∃ t ∈ Token.tokenize expression.toList, t.lexeme.isStray declared ∧ t.text = name := by
  rw [mem_undeclared_iff]
  constructor
  case mp =>
    rintro ⟨hn, hd⟩
    obtain ⟨t, ht, hk, rfl⟩ := (Formula.mem_names_iff hx).mp hn
    have hl := (Formula.derives_of_parse hx).1.lettered _ hn
    have hs := Lexeme.name?_eq_some_iff.mp (Token.name?_eq_some_iff.mpr ⟨hk, rfl⟩)
    exact ⟨t, ht, Lexeme.isStray_iff.mpr ⟨_, hs, hl, by simpa using hd⟩, rfl⟩
  case mpr =>
    rintro ⟨t, ht, hs, rfl⟩
    obtain ⟨chars, hl, -, hd⟩ := Lexeme.isStray_iff.mp hs
    have hk : t.lexeme.name? = some (String.ofList chars) := by
      rw [hl]
      rfl
    have ⟨hk, hn⟩ := Token.name?_eq_some_iff.mp hk
    exact ⟨(Formula.mem_names_iff hx).mpr ⟨t, ht, hk, rfl⟩, hn ▸ hd⟩

theorem falsified_eq_iff_undeclared (hx : Formula.parse expression = .ok x) :
    String.ofList (Token.falsified declared expression.toList) = expression ↔
      undeclared declared x = [] := by
  rw [← String.toList_inj, String.toList_ofList, Token.falsified_eq_iff,
    List.eq_nil_iff_forall_not_mem]
  constructor
  case mp =>
    intro h name hn
    obtain ⟨t, ht, hs, -⟩ := (mem_undeclared_iff_isStray hx).mp hn
    cases (h t ht).symm.trans hs
  case mpr =>
    intro h t ht
    exact eq_false_of_ne_true fun hs => h _ ((mem_undeclared_iff_isStray hx).mpr ⟨t, ht, hs, rfl⟩)

end Names

theorem undeclared_letters_are_false (hx : Formula.parse expression = .ok x)
    (h : Admits settings text declarations ns) (now : String) (verbose : Bool) :
    let declared := ns.map (·.symbol)
    let replaced := String.ofList (Token.falsified declared expression.toList)
    let analysis e := (runDeclared settings text declarations (some e) now verbose).2
    let strict := settings.strictVariables.truthy
    Formula.parse replaced = .ok (x.falsify declared) ∧ (∃ r, analysis replaced = .ok r) ∧
    (¬strict → ∃ r r', analysis expression = .ok r ∧ analysis replaced = .ok r' ∧
      r.column = r'.column ∧ r.verdict = r'.verdict) ∧
    (strict → ((∃ r, analysis expression = .ok r) ↔ replaced = expression) ∧
      (replaced ≠ expression →
        ∃ names, analysis expression = .error (.validation (.undeclared names)) ∧
          names.Pairwise (· < ·) ∧ ∀ name, name ∈ names ↔
            ∃ t ∈ Token.tokenize expression.toList, t.lexeme.isStray declared ∧ t.text = name)) := by
  intro declared replaced analysis strict
  have hx' : Formula.parse replaced = .ok (x.falsify declared) :=
    Formula.parse_falsified declared hx
  have hn : ∀ name ∈ (x.falsify declared).names, name ∈ declared := by
    simp [Formula.names_falsify]
  obtain ⟨r', hr', ht'⟩ := h.exists_report hx' (fun _ => hn) now verbose
  refine ⟨hx', ⟨r', hr'⟩, fun hs => ?_, fun hs => ⟨?_, fun hne => ?_⟩⟩
  case refine_1 =>
    obtain ⟨r, hr, ht⟩ := h.exists_report hx (absurd · hs) now verbose
    have he : r.rows = r'.rows := by rw [ht.rows, ht'.rows, rows_falsify]
    have hv : r.verdict = r'.verdict :=
      Option.some_inj.mp (by rw [← ht.verdict, ← ht'.verdict, he])
    exact ⟨r, r', hr, hr', congrArg (List.map Row.result) he, hv⟩
  case refine_2 =>
    rw [h.accepts_iff hx, falsified_eq_iff_undeclared hx, undeclared_eq_nil_iff]
    exact forall_prop_of_true hs
  case refine_3 =>
    have hu := mt (falsified_eq_iff_undeclared hx).mpr hne
    exact ⟨_, h.refuses hx hs hu now verbose, undeclared_increasing _ _,
      fun name => mem_undeclared_iff_isStray hx⟩

-- The letters `x` and `z` are not declared, and `x` stands in two places.
theorem undeclared_letters_of_conjunction :
    let declarations := Json.obj [("p", .str "llueve"), ("q", .str "hay nubes")]
    let analysis (strict : Bool) e := (runDeclared
      { Settings.standard with strictVariables := .bool strict } "Si llueve, hay nubes."
      declarations (some e) "" true).2
    (∃ r r', analysis false "¬z ∧ (p → x) ∧ x" = .ok r ∧
      analysis false "¬⊥ ∧ (p → ⊥) ∧ ⊥" = .ok r' ∧ r.column = r'.column ∧
      r.verdict = r'.verdict) ∧
    (∃ r, analysis true "¬⊥ ∧ (p → ⊥) ∧ ⊥" = .ok r) ∧
    ∃ names, analysis true "¬z ∧ (p → x) ∧ x" = .error (.validation (.undeclared names)) ∧
      names.Pairwise (· < ·) ∧ ∀ name ∈ letters, name ∈ names ↔ name ∈ ["x", "z"] := by
  intro declarations analysis
  let x : Formula String := .binary .and (.binary .and (.unary .not (.var "z"))
    (.binary .implies (.var "p") (.var "x"))) (.var "x")
  have hx : Formula.parse "¬z ∧ (p → x) ∧ x" = .ok x := by cbv
  have h (strict) : Admits { Settings.standard with strictVariables := .bool strict }
      "Si llueve, hay nubes." declarations [⟨"p", "llueve"⟩, ⟨"q", "hay nubes"⟩] := {
    validText := by cases strict <;> decide +kernel
    items     := by rfl
    valid     := by cases strict <;> decide +kernel
  }
  have he : String.ofList (Token.falsified ["p", "q"] "¬z ∧ (p → x) ∧ x".toList) =
      "¬⊥ ∧ (p → ⊥) ∧ ⊥" := by
    decide
  obtain ⟨-, -, hf, -⟩ := undeclared_letters_are_false hx (h false) "" true
  obtain ⟨-, ht, -, hs⟩ := undeclared_letters_are_false hx (h true) "" true
  obtain ⟨names, hn, hp, hm⟩ := (hs rfl).2 (by decide)
  refine ⟨he ▸ hf Bool.false_ne_true, he ▸ ht, names, hn, hp, fun name hl => (hm name).trans ?_⟩
  revert name
  decide

end Enunciado
