import Enunciado.CommandLine.Markup
import Enunciado.CommandLine.Run
import Enunciado.Proofs.History.Reading

namespace Enunciado.CommandLine

open History

variable {c : Console} {r : Report Json} {rs : List (Report Json)} {e : Failure} {h : History}
  {d : Directory}

section Rows

-- A report that has a place in the table.
structure Showable (r : Report Json) : Prop where
  expression : ∃ s, r.expression = .str s
  timestamp  : r.timestamp = .null ∨ ∃ s, r.timestamp = .str s

-- A failure that tells why a report has no place in the table.
def Failure.Blames (r : Report Json) : Failure → Prop
  | notText => ∀ s, r.expression ≠ .str s
  | notShowable v => r.timestamp = v ∧ v ≠ .null ∧ ∀ s, v ≠ .str s
  | _ => False

theorem Failure.Blames.not_showable (h : e.Blames r) : ¬Showable r := by
  rintro ⟨⟨s, hs⟩, ht⟩
  cases e
  case notText => exact h s hs
  case notShowable v =>
    obtain ⟨rfl, hn, ha⟩ := h
    exact ht.elim hn fun ⟨t, ht⟩ => ha t ht
  all_goals exact h

-- The text of a cell, which is empty if there is none.
def cellText : Json → String
  | .str s => s
  | _ => ""

def rowOf (c : Console) (r : Report Json) (i : Nat) : List String :=
  [toString i, cellText r.timestamp, c.escape (cellText r.expression), r.verdict.label]

theorem historyRow_of_showable (c : Console) (h : Showable r) (i : Nat) :
    historyRow c i r = .ok (rowOf c r i) := by
  obtain ⟨⟨s, hs⟩, ht⟩ := h
  rw [historyRow, rowOf, hs]
  rcases ht with ht | ⟨t, ht⟩
  · simp only [ht, c.cell?_null, cellText]
  · simp only [ht, c.cell?_text, cellText]

theorem blames_of_historyRow (h : historyRow c i r = .error e) : e.Blames r := by
  unfold historyRow at h
  split at h
  case h_1 =>
    split at h
    case h_1 => cases h
    case h_2 hc =>
      cases h
      refine ⟨rfl, fun hn => ?_, fun s hs => ?_⟩
      · cases (hn ▸ hc).symm.trans c.cell?_null
      · cases (hs ▸ hc).symm.trans (c.cell?_text s)
  case h_2 ha =>
    cases h
    exact ha

theorem showable_of_historyRow (h : historyRow c i r = .ok row) : Showable r := by
  unfold historyRow at h
  split at h
  case h_2 => cases h
  case h_1 s hs =>
    split at h
    case h_2 => cases h
    case h_1 hc =>
      refine ⟨⟨s, hs⟩, ?_⟩
      by_contra ht
      simp only [not_or, not_exists] at ht
      cases hc.symm.trans (c.cell?_eq_none _ ht.1 ht.2)

end Rows

section Tables

-- What is shown of reports that all have a place in the table.
def historyTable (c : Console) (path : Path) : List (Report Json) → List Display
  | [] => [.markup "[yellow]No hay análisis guardados.[/]"]
  | rs => [.table s!"Historial ({path})" ["#", "Fecha", "Expresión", "Tipo"]
      (rs.zipIdx.map fun (r, i) => rowOf c r i)]

theorem mem_of_mem_zipIdx (hp : p ∈ rs.zipIdx) : p.1 ∈ rs := by
  rw [← List.zipIdx_map_fst 0 rs]
  exact List.mem_map_of_mem hp

theorem showHistory_of_showable (c : Console) (h : History) (hs : ∀ r ∈ rs, Showable r) :
    showHistory c h rs = .ok (historyTable c h.path rs) := by
  cases rs
  case nil => rfl
  case cons r rs =>
    have hm : ((r :: rs).zipIdx.mapM fun (r, i) => historyRow c i r) =
        .ok ((r :: rs).zipIdx.map fun (r, i) => rowOf c r i) :=
      mapM_eq_ok fun p hp => historyRow_of_showable c (hs p.1 (mem_of_mem_zipIdx hp)) p.2
    exact bind_eq_ok_iff.mpr ⟨_, hm, rfl⟩

-- What is shown, if all have a place, and otherwise why one has none.
theorem showHistory_cases (c : Console) (h : History) (rs : List (Report Json)) :
    ((∀ r ∈ rs, Showable r) ∧ showHistory c h rs = .ok (historyTable c h.path rs)) ∨
      ∃ e, showHistory c h rs = .error e ∧ ∃ r ∈ rs, e.Blames r := by
  cases hm : rs.zipIdx.mapM fun (r, i) => historyRow c i r
  case ok rows =>
    have hs : ∀ r ∈ rs, Showable r := by
      intro r hr
      rw [← List.zipIdx_map_fst 0 rs] at hr
      obtain ⟨p, hp, rfl⟩ := List.mem_map.mp hr
      obtain ⟨row, -, hrow⟩ := exists_of_mapM hm p hp
      exact showable_of_historyRow hrow
    exact .inl ⟨hs, showHistory_of_showable c h hs⟩
  case error e =>
    obtain ⟨p, hp, hb⟩ := exists_of_mapM_error hm
    refine .inr ⟨e, ?_, p.1, mem_of_mem_zipIdx hp, blames_of_historyRow hb⟩
    cases rs
    case nil => cases hp
    case cons =>
      rw [showHistory, hm]
      · rfl
      · nofun

end Tables

section Runs

variable {a : Arguments} {env : Settings.Environment} {settings : Settings} {argv : List String}
  {name : String} {bytes : ByteArray}

theorem run_eq_consult (ha : parse argv = .ok (.run a)) (hs : a.showHistory)
    (hn : given? a.history = some name) (hc : settingsOf a env d = .ok settings) (c : Console)
    (now : String) : run c argv env d now = consult c ⟨.ofString name, settings.historyMaxEntries⟩ d := by
  rw [run, ha]
  dsimp only
  rw [execute, hc, hn]
  dsimp only [Option.map_some]
  rw [if_pos hs]

-- The history of a file, as it is shown under standard settings.
abbrev shownHistory : History :=
  ⟨.ofString "h.json", .int 10⟩

def showArguments : List String :=
  ["--history", "h.json", "--show-history"]

def shownArguments : Arguments :=
  { Arguments.none with history := some "h.json", showHistory := true }

theorem parse_showArguments : parse showArguments = .ok (.run shownArguments) := by
  rfl

theorem settingsOf_shownArguments (d : Directory) :
    settingsOf shownArguments [] d = .ok .standard := by
  change Settings.ofEnvironment [] = .ok .standard
  have hs : (Settings.ofEnvironment []).toOption = some .standard := by decide +kernel
  cases he : Settings.ofEnvironment []
  case error => simp [he, Except.toOption] at hs
  case ok => simpa [he, Except.toOption] using hs

theorem entries_shownHistory (hs : Storable r.toJson) :
    shownHistory.entries (holding (encode [r.toJson])) = .ok [r] := by
  rw [shownHistory, entries_holding (by simpa using hs),
    List.filterMap_cons_some (report?_toJson r), List.filterMap_nil]

-- What is shown is taken to come through: a console that reads a path or a timestamp as markup may
-- still refuse it.
theorem run_showing_history (ha : parse argv = .ok (.run a)) (hs : a.showHistory)
    (hn : given? a.history = some name) (hc : settingsOf a env d = .ok settings)
    (hb : d.read (.ofString name) (Path.ofString name).toString = .ok bytes) (c : Console)
    (now : String) :
    let outcome := run c argv env d now
    let h : History := ⟨.ofString name, settings.historyMaxEntries⟩
    outcome.directory = d ∧
    ((∃ rs, Finds bytes rs ∧ h.entries d = .ok rs ∧ (∀ r ∈ rs, Showable r) ∧
        outcome.ending = .exit 0 ∧ outcome.shown = historyTable c h.path rs) ∨
      (∃ rs e, Finds bytes rs ∧ h.entries d = .ok rs ∧ (∃ r ∈ rs, ¬Showable r ∧ e.Blames r) ∧
        outcome.ending = .failure e ∧ outcome.shown = []) ∨
      ∃ n, Refused bytes n ∧ h.entries d = .error (.tooManyDigits n) ∧
        outcome.ending = .failure (.history (.tooManyDigits n)) ∧ outcome.shown = []) := by
  intro outcome h
  have ho : outcome = consult c h d := run_eq_consult ha hs hn hc c now
  clear_value outcome
  subst ho
  unfold consult
  rcases entries_or_refused (h := h) hb with ⟨rs, hf, he⟩ | ⟨n, hr, he⟩
  case inr =>
    rw [he]
    exact ⟨rfl, .inr (.inr ⟨n, hr, rfl, rfl, rfl⟩)⟩
  case inl =>
  rw [he]
  dsimp only
  rcases showHistory_cases c h rs with ⟨hs, hh⟩ | ⟨e, hh, r, hr, hb⟩
  case inl =>
    rw [hh]
    exact ⟨rfl, .inl ⟨rs, hf, rfl, hs, rfl, rfl⟩⟩
  case inr =>
    rw [hh]
    exact ⟨rfl, .inr (.inl ⟨rs, e, hf, rfl, ⟨r, hr, hb.not_showable, hb⟩, rfl, rfl⟩)⟩

theorem run_showing_rain :
    let d := holding (encode [rainReport.document.toJson])
    let outcome := run console showArguments [] d ""
    outcome.ending = .exit 0 ∧
      outcome.shown = historyTable console shownHistory.path [rainReport.document] := by
  intro d
  change (run console showArguments [] d "").ending = _ ∧
    (run console showArguments [] d "").shown = _
  have he : shownHistory.entries d = .ok [rainReport.document] :=
    entries_shownHistory (storable_toJson (by decide))
  have ho := run_showing_history parse_showArguments rfl rfl (settingsOf_shownArguments d)
    (read_holding _) console ""
  obtain ⟨-, ⟨rs, -, he', -, ho⟩ | ⟨rs, e, -, he', ⟨r, hr, hn, -⟩, -⟩ | ⟨n, -, he', -⟩⟩ := ho
  case inl =>
    cases he.symm.trans he'
    exact ho
  case inr.inl =>
    cases he.symm.trans he'
    cases List.mem_singleton.mp hr
    exact absurd ⟨⟨_, rfl⟩, .inr ⟨_, rfl⟩⟩ hn
  case inr.inr => cases he.symm.trans he'

-- A report is found, but not shown, whose timestamp is a number.
theorem not_shown_number :
    let r : Report Json := ⟨.str "t", [], .str "p", .tautology, [], .var (.str "p"), .int 5⟩
    let d := holding (encode [r.toJson])
    shownHistory.entries d = .ok [r] ∧
      (run console showArguments [] d "").ending = .failure (.notShowable (.int 5)) := by
  intro r d
  have hr : r.toJson.Readable := by
    have hf : r.formula.toJson.Readable := .obj (by simp) (by simp [Json.Readable.str])
    have hi : (Json.int 5).Readable :=
      .int (Nat.lt_of_lt_of_le (show 5 < 10 ^ 1 by decide)
        (Nat.pow_le_pow_right (by decide) (by decide)))
    refine .obj (by simp) ?_
    simp only [List.forall_mem_cons]
    exact ⟨.str _, .arr nofun, .str _, .str _, .arr nofun, hf, hi, List.forall_mem_nil _⟩
  have he : shownHistory.entries d = .ok [r] := entries_shownHistory ⟨hr, _, rfl⟩
  have ho : consult console shownHistory d = .quiet (.failure (.notShowable (.int 5))) [] d := by
    rw [consult, he]
    rfl
  refine ⟨he, ?_⟩
  rw [run_eq_consult parse_showArguments rfl rfl (settingsOf_shownArguments d) console ""]
  exact congrArg Outcome.ending ho

end Runs

end Enunciado.CommandLine
