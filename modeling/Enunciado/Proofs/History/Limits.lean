import Enunciado.Proofs.History.Queue
import Enunciado.Proofs.Settings.Limits

namespace Enunciado.History

variable {h : History} {d : Directory} {s : Settings} {n : Int}

-- What comes of saving a report under a whole limit: it is the first of the entries, unless the
-- history cannot be read or the file system refuses to write it.
inductive Saves (h : History) (d : Directory) (r : Report Json) (n : Int) : Prop
  | kept {d' : Directory} {old : List (Report Json)} (saved : h.save d r = .done d')
    (before : h.entries d = .ok old) (after : h.entries d' = .ok ((r :: old).take n.toNat))
    (bounds : 1 ≤ ((r :: old).take n.toNat).length ∧ ((r :: old).take n.toNat).length ≤ n)
  | unreadable {m : Nat} (saved : h.save d r = .failed d (.tooManyDigits m))
    (before : h.entries d = .error (.tooManyDigits m))
  | refused {d' : Directory} {f : FileError} (saved : h.save d r = .failed d' (.file f))
    (unwritable : ¬h.Writable d)

theorem save_of_unreadable {e : HistoryError} (hs : h.stored d = .error e) (r : Report Json) :
    h.save d r = .failed d e := by
  rw [save, hs]

-- The limit is looked at after the history has been read, and before anything is written.
theorem save_of_uncounted {raw : List Json} (hs : h.stored d = .ok raw)
    (hl : h.maxEntries.integer? = none) (r : Report Json) :
    h.save d r = .failed d (.notACount h.maxEntries.toJson) := by
  rw [save, hs, limit, hl]

theorem limit_of_integer? (hl : h.maxEntries.integer? = some n) : h.limit = .ok n.toNat := by
  rw [limit, hl]

theorem saves_of_unreadable {e : HistoryError} (hs : h.stored d = .error e) (r : Report Json) :
    h.Saves d r n := by
  rcases stored_failure hs with ⟨f, rfl⟩ | ⟨m, rfl⟩
  · refine .refused (save_of_unreadable hs r) fun hw => ?_
    rcases hw.stored_cases with ⟨raw, hs'⟩ | ⟨m, hs'⟩ <;> cases hs.symm.trans hs'
  · exact .unreadable (save_of_unreadable hs r) (by rw [entries, hs]; rfl)

theorem saves_of_counted (hl : h.maxEntries.integer? = some n) (hn : 1 ≤ n) {r : Report String}
    (hr : ∀ row ∈ r.rows, row.IsMapping) : h.Saves d r.document n := by
  have hl := limit_of_integer? hl
  cases hs : h.stored d
  case error => exact saves_of_unreadable hs r.document
  case ok raw =>
  cases hf : (h.save d r.document).failure?
  case none =>
    have hd : h.save d r.document = .done (h.save d r.document).directory :=
      congrArg (Change.mk _) hf
    have he : h.entries d = .ok (raw.filterMap report?) := by rw [entries, hs]; rfl
    exact .kept hd he (entries_of_save he hl hr hd) ⟨by simp; omega, by simp; omega⟩
  case some e =>
    have hd : h.save d r.document = .failed (h.save d r.document).directory e :=
      congrArg (Change.mk _) hf
    obtain ⟨f, rfl⟩ := save_failure hs hl hr hf
    refine .refused hd fun hw => ?_
    obtain ⟨d', hd', -⟩ := hw.save hs hl hr
    cases hd'.symm.trans hd

-- Accepted settings have a limit with which a history can be opened.
theorem open_of_limited (hs : s.Limited) (path : String) :
    History.open path s.historyMaxEntries.toJson = .ok ⟨.ofString path, s.historyMaxEntries⟩ := by
  have hn : s.historyMaxEntries.lt (.int 1) = false :=
    hs.entries.elim Number.not_lt_of_isNotANumber Number.not_lt_of_le
  simp [History.open, Number.ofJson?_toJson, hn]

theorem limit_pos_of_limited (hs : s.Limited) (hn : s.historyMaxEntries.integer? = some n) :
    1 ≤ n := by
  rcases hs.entries with hf | hl
  · cases hm : s.historyMaxEntries <;> rw [hm] at hf hn
    case float => cases hn
    all_goals cases hf
  · exact Number.le_of_integer? hl hn

-- Texts are sequences of Unicode characters. An entry with half of a surrogate pair, which a file
-- may hold as an escape, is none of them, and could not be written again.
theorem save_under_accepted {fields : List (String × Json)}
    (ha : Settings.ofJson (.obj fields) = .ok s) :
    s.Limited ∧ ∀ (path : String) (d : Directory) (r : Report String),
      (∀ row ∈ r.rows, row.IsMapping) →
        let h : History := ⟨.ofString path, s.historyMaxEntries⟩
        History.open path s.historyMaxEntries.toJson = .ok h ∧
        (∀ n, s.historyMaxEntries.integer? = some n → 1 ≤ n ∧ h.Saves d r.document n) ∧
        (s.historyMaxEntries.integer? = none → ∃ e, h.save d r.document = .failed d e ∧
          (h.stored d = .error e ∨ e = .notACount s.historyMaxEntries.toJson)) := by
  have hs := Settings.limited_of_accepted ha
  refine ⟨hs, fun path d r hr => ⟨open_of_limited hs path, fun n hn => ?_, fun hn => ?_⟩⟩
  · have hp := limit_pos_of_limited hs hn
    exact ⟨hp, saves_of_counted hn hp hr⟩
  · cases hst : stored ⟨.ofString path, s.historyMaxEntries⟩ d
    case error e => exact ⟨e, save_of_unreadable hst r.document, .inl rfl⟩
    case ok => exact ⟨_, save_of_uncounted hst hn r.document, .inr rfl⟩

-- One entry is kept under a limit that is given as true, which counts as one.
theorem save_under_true :
    let s : Settings := { Settings.standard with historyMaxEntries := .bool true }
    let h : History := ⟨.ofString "h.json", .bool true⟩
    Settings.ofJson (.obj [("history_max_entries", .bool true)]) = .ok s ∧ s.Limited ∧
      History.open "h.json" (.bool true) = .ok h ∧ h.Saves .empty rainReport.document 1 := by
  intro s h
  have ha : Settings.ofJson (.obj [("history_max_entries", .bool true)]) = .ok s := by
    decide +kernel
  obtain ⟨hs, ht⟩ := save_under_accepted ha
  obtain ⟨ho, hk, -⟩ := ht "h.json" .empty rainReport (by decide)
  exact ⟨ha, hs, ho, (hk 1 rfl).2⟩

-- What is no number is accepted as a limit, as is 2.5, but neither can be counted to.
theorem not_saved_under_float :
    let limits : List Binary64 := [.notANumber, ⟨false, ⟨0x4004000000000000⟩⟩]
    (Number.int 1).le (.float .notANumber) = false ∧ ∀ x ∈ limits,
      let s : Settings := { Settings.standard with historyMaxEntries := .float x }
      let h : History := ⟨.ofString "h.json", s.historyMaxEntries⟩
      Settings.ofJson (.obj [("history_max_entries", .float x)]) = .ok s ∧
        History.open "h.json" s.historyMaxEntries.toJson = .ok h ∧
        h.save .empty rainReport.document = .failed .empty (.notACount (.float x)) := by
  let h : History := ⟨.ofString "h.json", .int 1⟩
  have h₁ : h.stored .empty = .ok [] := by decide +kernel
  have hs (limit : Number) : stored ⟨h.path, limit⟩ .empty = .ok [] := by
    rw [← h₁, stored_congr]
    rfl
  refine ⟨by decide +kernel, List.forall_mem_cons.mpr ⟨?_, List.forall_mem_singleton.mpr ?_⟩⟩
  all_goals exact ⟨by decide +kernel, by decide +kernel, save_of_uncounted (hs _) rfl _⟩

end Enunciado.History
