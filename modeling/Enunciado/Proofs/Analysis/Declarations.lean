import Enunciado.Proofs.Analysis.Given
import Enunciado.Proofs.TruthTable.Symbols

namespace Enunciado

open Analysis

variable {settings settings₁ settings₂ : Settings} {text text₁ text₂ expression : String}
variable {declarations declarations₁ declarations₂ : Json} {ns ns₁ ns₂ : List Named}
variable {symbols symbols₁ symbols₂ : List String} {x : Formula String} {r r₁ r₂ : Report String}

-- A text and declarations that are valid, and declare all names of a formula.
structure Declares (settings : Settings) (text : String) (declarations : Json) (ns : List Named)
    (x : Formula String) : Prop where
  validText : validateText settings text = .ok ()
  items     : Proposition.ofJson declarations = .ok (ns.map Proposition.declared)
  valid     : validatePropositions settings (ns.map Proposition.declared) = .ok ns
  names     : ∀ name ∈ x.names, name ∈ ns.map (·.symbol)

-- A report on a formula over the symbols: all rows of its table, and the verdict on it.
structure Report.Covers (r : Report String) (symbols : List String) (x : Formula String) : Prop where
  rows    : r.rows = (assignments symbols).map x.row
  verdict : r.verdict = w ↔ w.Holds {b | ∃ v, True ∧ x.truth v = b}

theorem Declares.admits (h : Declares settings text declarations ns x) :
    Admits settings text declarations ns :=
  ⟨h.validText, h.items, h.valid⟩

theorem Declares.nodup (h : Declares settings text declarations ns x) :
    (ns.map (·.symbol)).Nodup :=
  h.admits.nodup

theorem Declares.exists_report (h : Declares settings text declarations ns x)
    (hx : Formula.parse expression = .ok x) (now : String) (verbose : Bool) :
    ∃ r, (runDeclared settings text declarations (some expression) now verbose).2 = .ok r ∧
      r.Covers (ns.map (·.symbol)) x := by
  obtain ⟨r, hr, ht⟩ := h.admits.exists_report hx (fun _ => h.names) now verbose
  refine ⟨r, hr, ht.rows, fun {w} => ?_⟩
  have hp := (Formula.derives_of_parse hx).1.proper
  rw [← values_eq_of_declared h.names, ← classify?_eq_some_iff h.nodup hp (truthTable_eq hp _),
    ← ht.rows, ht.verdict, Option.some_inj]

namespace Report.Covers

theorem verdict_eq (h₁ : r₁.Covers symbols₁ x) (h₂ : r₂.Covers symbols₂ x) :
    r₁.verdict = r₂.verdict :=
  h₁.verdict.mpr (h₂.verdict.mp rfl)

theorem nodup_rows (h : r.Covers symbols x) (hs : symbols.Nodup) : (r.rows.map Row.entry).Nodup := by
  rw [h.rows]
  exact nodup_entries hs x

theorem perm_rows (h₁ : r₁.Covers symbols₁ x) (h₂ : r₂.Covers symbols₂ x) (hs : symbols₁.Nodup)
    (hp : symbols₁.Perm symbols₂) : (r₁.rows.map Row.entry).Perm (r₂.rows.map Row.entry) := by
  rw [h₁.rows, h₂.rows]
  exact perm_entries hs hp x

theorem exists_values (h : r.Covers symbols x) (hs : symbols.Nodup) (hr : row ∈ r.rows) :
    ∃ v, row = x.row (Assignment.ofValues symbols v) := by
  rw [h.rows] at hr
  obtain ⟨a, ha, rfl⟩ := List.mem_map.mp hr
  obtain ⟨v, rfl⟩ := (mem_assignments hs).mp ha
  exact ⟨v, rfl⟩

theorem extensions (h₁ : r₁.Covers symbols₁ x) (h₂ : r₂.Covers symbols₂ x) (hn₁ : symbols₁.Nodup)
    (hn₂ : symbols₂.Nodup) (hx : ∀ name ∈ x.names, name ∈ symbols₁) (hs : symbols₁ ⊆ symbols₂)
    (hk : symbols₂.length = symbols₁.length + k) (hr : row ∈ r₁.rows) :
    (r₂.rows.filter (·.Extends row)).length = 2 ^ k ∧
      ∀ s ∈ r₂.rows, s.Extends row → s.result = row.result := by
  obtain ⟨v, rfl⟩ := h₁.exists_values hn₁ hr
  refine ⟨?_, fun s hm he => ?_⟩
  case refine_1 =>
    rw [h₂.rows]
    exact length_extensions hs hn₂ hn₁ hk x v
  case refine_2 =>
    obtain ⟨w, rfl⟩ := h₂.exists_values hn₂ hm
    exact result_of_extends hs hx he

end Report.Covers

theorem same_verdict_of_declares (hx : Formula.parse expression = .ok x)
    (h₁ : Declares settings₁ text₁ declarations₁ ns₁ x)
    (h₂ : Declares settings₂ text₂ declarations₂ ns₂ x) (now₁ now₂ : String)
    (verbose₁ verbose₂ : Bool) :
    let symbols₁ := ns₁.map (·.symbol)
    let symbols₂ := ns₂.map (·.symbol)
    ∃ r₁ r₂,
      (runDeclared settings₁ text₁ declarations₁ (some expression) now₁ verbose₁).2 = .ok r₁ ∧
      (runDeclared settings₂ text₂ declarations₂ (some expression) now₂ verbose₂).2 = .ok r₂ ∧
      r₁.verdict = r₂.verdict ∧
      (symbols₁.Perm symbols₂ →
        (r₁.rows.map Row.entry).Nodup ∧ (r₂.rows.map Row.entry).Nodup ∧
        (r₁.rows.map Row.entry).Perm (r₂.rows.map Row.entry)) ∧
      ∀ k, symbols₁ ⊆ symbols₂ → symbols₂.length = symbols₁.length + k → ∀ r ∈ r₁.rows,
        (r₂.rows.filter (·.Extends r)).length = 2 ^ k ∧
        ∀ s ∈ r₂.rows, s.Extends r → s.result = r.result := by
  obtain ⟨r₁, hr₁, hc₁⟩ := h₁.exists_report hx now₁ verbose₁
  obtain ⟨r₂, hr₂, hc₂⟩ := h₂.exists_report hx now₂ verbose₂
  refine ⟨r₁, r₂, hr₁, hr₂, hc₁.verdict_eq hc₂, fun hp => ?_, fun k hs hk r hr => ?_⟩
  case refine_1 =>
    exact ⟨hc₁.nodup_rows h₁.nodup, hc₂.nodup_rows h₂.nodup, hc₁.perm_rows hc₂ h₁.nodup hp⟩
  case refine_2 => exact hc₁.extensions hc₂ h₁.nodup h₂.nodup h₁.names hs hk hr

-- A third letter, declared before the others, doubles each row, also under strict settings.
theorem same_verdict_with_third_letter :
    let strict := { Settings.standard with strictVariables := .bool true }
    let text := "Si llueve, hay nubes."
    let two := Json.obj [("p", .str "llueve"), ("q", .str "hay nubes")]
    let three := Json.obj [("r", .str "nieva"), ("q", .str "hay nubes"), ("p", .str "llueve")]
    ∃ r₁ r₂,
      (runDeclared .standard text two (some "p → q") "" false).2 = .ok r₁ ∧
      (runDeclared strict text three (some "p → q") "" true).2 = .ok r₂ ∧
      r₁.verdict = r₂.verdict ∧
      ∀ r ∈ r₁.rows, (r₂.rows.filter (·.Extends r)).length = 2 := by
  intro strict text two three
  have hx : Formula.parse "p → q" = .ok (.binary .implies (.var "p") (.var "q")) := by cbv
  have h₁ : Declares .standard text two [⟨"p", "llueve"⟩, ⟨"q", "hay nubes"⟩]
      (.binary .implies (.var "p") (.var "q")) := {
    validText := by decide +kernel
    items     := by rfl
    valid     := by decide +kernel
    names     := by decide
  }
  have h₂ : Declares strict text three
      [⟨"r", "nieva"⟩, ⟨"q", "hay nubes"⟩, ⟨"p", "llueve"⟩]
      (.binary .implies (.var "p") (.var "q")) := {
    validText := by decide +kernel
    items     := by rfl
    valid     := by decide +kernel
    names     := by decide
  }
  obtain ⟨r₁, r₂, hr₁, hr₂, hv, -, he⟩ := same_verdict_of_declares hx h₁ h₂ "" "" false true
  exact ⟨r₁, r₂, hr₁, hr₂, hv, fun r hr => (he 1 (by decide) rfl r hr).1⟩

end Enunciado
