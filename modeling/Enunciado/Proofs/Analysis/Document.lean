import Enunciado.Proofs.Analysis.Stages
import Enunciado.Proofs.Json.RoundTrip
import Enunciado.Proofs.TruthTable.Rows

namespace Enunciado

open Json

namespace Row

-- No symbol has two values in the row.
def IsMapping (r : Row) : Prop :=
  (r.assignment.map Prod.fst).Nodup

instance (r : Row) : Decidable r.IsMapping := inferInstanceAs (Decidable (List.Nodup _))

theorem ofJson_toJson (r : Row) : ofJson r.toJson = .ok r := by
  simp only [toJson, ofJson, Json.field, lookup, if_true, bind, Except.bind, List.map_map]
  exact congrArg (fun a => (.ok ⟨a, r.result⟩ : Except DocumentError Row))
    (List.map_id r.assignment)

theorem readable_toJson {r : Row} (h : r.IsMapping) : r.toJson.Readable := by
  have ha {write : String × Bool → String × Json} (hw : ∀ f, write f = (f.1, .bool f.2)) :
      (Json.obj (r.assignment.map write)).Readable := by
    have hk : (r.assignment.map write).map Prod.fst = r.assignment.map Prod.fst := by
      simp [hw]
    refine .obj (hk ▸ h) (List.forall_mem_map.mpr fun f _ => ?_)
    rw [hw]
    exact .bool f.2
  refine .obj (by simp) ?_
  simp only [List.forall_mem_cons]
  exact ⟨ha fun _ => rfl, .bool _, by simp⟩

theorem isMapping_of_truthTable {x : Formula String} {rows : List Row}
    (h : truthTable env x symbols = .ok rows) : ∀ r ∈ rows, r.IsMapping := by
  intro r hr
  obtain ⟨a, ha, hr⟩ := exists_of_mem_mapM h r hr
  obtain ⟨b, -, rfl⟩ := map_eq_ok_iff.mp hr
  obtain ⟨vs, -, rfl⟩ := List.mem_map.mp ha
  exact nodup_keys_ofPairs _

end Row

theorem Formula.readable_toJson (x : Formula String) : (x.map Json.str).toJson.Readable := by
  induction x
  case var => exact .obj (by simp) (by simp [Readable.str])
  case const => exact .obj (by simp) (by simp [Readable.str, Readable.bool])
  case unary op x hi => exact .obj (by simp) (by simp [Readable.str, hi])
  case binary op x y hx hy => exact .obj (by simp) (by simp [Readable.str, hx, hy])

namespace Report

variable {r : Report String}

-- Every report comes back from its document.
theorem ofJson_toJson (r : Report Json) : ofJson r.toJson = .ok r := by
  have hp : (r.propositions.map propositionJson).mapM propositionOfJson = .ok r.propositions :=
    mapM_map_eq_self (f := propositionOfJson) (fun _ => rfl) _
  have hr : (r.rows.map Row.toJson).mapM Row.ofJson = .ok r.rows :=
    mapM_map_eq_self Row.ofJson_toJson _
  simp [ofJson, toJson, Json.field, lookup, Json.items, hp, hr, Verdict.ofJson_label,
    Formula.ofJson_toJson, bind, Except.bind]
  rfl

theorem readable_toJson (h : ∀ row ∈ r.rows, row.IsMapping) : r.document.toJson.Readable := by
  have hp : ∀ v ∈ r.document.propositions.map propositionJson, v.Readable := by
    simp only [document, Report.map, List.map_map, List.forall_mem_map]
    exact fun p _ => .obj (by simp) (by simp [Proposition.map, Readable.str])
  have hr : ∀ v ∈ r.document.rows.map Row.toJson, v.Readable := by
    simp only [List.forall_mem_map]
    exact fun row hm => Row.readable_toJson (h row hm)
  have hf : r.document.formula.toJson.Readable := r.formula.readable_toJson
  have ht : r.document.text.Readable := .str _
  have he : r.document.expression.Readable := .str _
  have hs : r.document.timestamp.Readable := .str _
  exact .obj (by simp) (by simp [Readable.str, Readable.arr hp, Readable.arr hr, hf, ht, he, hs])

-- The rows of a report that an analysis has made are those of a table.
theorem isMapping_of_run (h : (Analysis.run settings request now verbose).2 = .ok r) :
    ∀ row ∈ r.rows, row.IsMapping :=
  Row.isMapping_of_truthTable (Analysis.tabulate_eq_ok_iff.mp (Analysis.reached_of_run h).table).1

-- The text of a report is read as its document, which holds the report.
def ComesBack (r : Report String) : Prop :=
  Json.parse r.document.toText = .ok r.document.toJson ∧
    ofJson r.document.toJson = .ok r.document

theorem comesBack (h : ∀ row ∈ r.rows, row.IsMapping) : r.ComesBack :=
  ⟨parse_pretty (readable_toJson h), ofJson_toJson _⟩

-- Reports come back as they were, in particular those that an analysis has made.
theorem comesBack_from_text :
    (∀ r : Report String, (∀ row ∈ r.rows, row.IsMapping) → r.ComesBack) ∧
    ∀ (settings : Settings) (text : String) (declarations : Json) (expression : Option String)
      (now : String) (verbose : Bool) (r : Report String),
      (Analysis.runDeclared settings text declarations expression now verbose).2 = .ok r →
      r.ComesBack := by
  refine ⟨fun r => comesBack, fun settings text declarations expression now verbose r h => ?_⟩
  unfold Analysis.runDeclared at h
  split at h
  case h_1 => cases h
  case h_2 => exact comesBack (isMapping_of_run h)

theorem comesBack_with_escapes :
    let settings : Settings := ⟨.int 9, .int 1, .int 1, .int 99, .int 9, .bool false⟩
    let r : Report String := ⟨"\"Llueve\"\\\n\x01", [⟨"p", "lloverá\t"⟩], "p", .contingency,
      [⟨[("p", false)], false⟩, ⟨[("p", true)], true⟩], .var "p", "2026-01-01T12:00:00+00:00"⟩
    r.ComesBack ∧
    (Analysis.runDeclared settings r.text (.obj [("p", .str "lloverá\t")]) (some "p") r.timestamp
      false).2 = .ok r ∧ r.ComesBack := by
  intro settings r
  have hp : Formula.parse "p" = .ok (.var "p") := by cbv
  let request : Analysis.Request := ⟨r.text, [⟨.str "p", .str "lloverá\t"⟩], some "p"⟩
  have hr : Analysis.Reached settings request r.timestamp r := {
    validated  := by decide +kernel
    expression := rfl
    formula    := Analysis.formulaOf_eq_ok_iff.mpr ⟨hp, fun h => by cases h⟩
    table      := by decide +kernel
    text       := rfl
    timestamp  := rfl
  }
  have h : (Analysis.runDeclared settings r.text (.obj [("p", .str "lloverá\t")]) (some "p")
      r.timestamp false).2 = .ok r := hr.run
  exact ⟨comesBack_from_text.1 r (by decide), h, comesBack_from_text.2 _ _ _ _ _ _ r h⟩

end Report

end Enunciado
