import Enunciado.Proofs.CommandLine.ShowHistory

namespace Enunciado.CommandLine

open Directory History

variable {a : Arguments} {env : Settings.Environment} {settings : Settings} {argv : List String}
  {d d₁ d₂ : Directory} {now : String} {r : Report String} {told : List Display}
  {json : Option String} {h : History} {h? : Option History} {c : Console}

section Executions

-- The history that the arguments name, with the limit of the settings.
def historyOf? (a : Arguments) (settings : Settings) : Option History :=
  (given? a.history).map fun name => ⟨.ofString name, settings.historyMaxEntries⟩

-- A text is analysed under these settings, with this report.
structure Analyses (a : Arguments) (env : Settings.Environment) (d : Directory) (now : String)
    (settings : Settings) (r : Report String) : Prop where
  accepted : settingsOf a env d = .ok settings
  analysed : ∃ text ps, given? a.text = some text ∧ declarations a = .ok ps ∧
    a.expression ≠ some none ∧
    (Analysis.run settings ⟨text, ps.map (·.declared), a.expression.join⟩ now a.verbose).2 = .ok r

theorem Analyses.isMapping (ha : Analyses a env d now settings r) :
    ∀ row ∈ r.rows, row.IsMapping := by
  obtain ⟨_, _, -, -, -, hr⟩ := ha.analysed
  exact Report.isMapping_of_run hr

-- A run that ends without a report.
structure Idle (a : Arguments) (d : Directory) (o : Outcome) : Prop where
  directory : o.directory = d
  ending    : o.ending = .exit 0 → a.showHistory ∨ a.preview

theorem directory_consult (c : Console) (h : History) (d : Directory) :
    (consult c h d).directory = d := by
  unfold consult
  split
  case h_1 => rfl
  case h_2 => split <;> rfl

theorem directory_preview (c : Console) (ps : List Named) (text : String) (d : Directory) :
    (preview c ps text d).directory = d := by
  unfold preview
  split <;> rfl

theorem idle_refuse (c : Console) (a : Arguments) (e : AnalysisError) (told : List Display)
    (d : Directory) : Idle a d (refuse c e told d) := by
  unfold refuse
  split <;> exact ⟨rfl, nofun⟩

theorem examine_cases (c : Console) (a : Arguments) (settings : Settings) (h? : Option History)
    (ps : List Named) (text : String) (d : Directory) (now : String) :
    Idle a d (examine c a settings h? ps text d now) ∨
      ∃ told r, a.expression ≠ some none ∧
        (Analysis.run settings ⟨text, ps.map (·.declared), a.expression.join⟩ now a.verbose).2 =
          .ok r ∧
        examine c a settings h? ps text d now = deliver c a h? told d r := by
  unfold examine
  dsimp only
  split
  case isTrue =>
    split
    case h_1 => exact .inl (idle_refuse ..)
    case h_2 => exact .inl ⟨rfl, nofun⟩
  case isFalse he =>
    split
    case h_1 => exact .inl (idle_refuse ..)
    case h_2 told r hr => exact .inr ⟨told, r, he, by rw [hr], rfl⟩

-- A run leaves the files as they are, or it delivers a report.
theorem execute_cases (c : Console) (a : Arguments) (env : Settings.Environment) (d : Directory)
    (now : String) :
    Idle a d (execute c a env d now) ∨
      ∃ settings told r, Analyses a env d now settings r ∧ a.showHistory = false ∧
        a.preview = false ∧
        execute c a env d now = deliver c a (historyOf? a settings) told d r := by
  unfold execute
  split
  case h_1 => exact .inl ⟨rfl, nofun⟩
  case h_2 settings hs =>
  dsimp only
  split
  case isTrue hshow =>
    split
    case h_1 => exact .inl ⟨rfl, nofun⟩
    case h_2 h _ => exact .inl ⟨directory_consult c h d, fun _ => .inl hshow⟩
  case isFalse hshow =>
  split
  case h_1 => exact .inl ⟨rfl, nofun⟩
  case h_2 text ht =>
  split
  case h_1 => exact .inl (idle_refuse ..)
  case h_2 ps hp =>
  split
  case isTrue hpre => exact .inl ⟨directory_preview c ps text d, fun _ => .inr hpre⟩
  case isFalse hpre =>
    refine (examine_cases c a settings _ ps text d now).imp_right fun ⟨told, r, hx, hr, he⟩ => ?_
    exact ⟨settings, told, r, ⟨hs, text, ps, ht, hp, hx, hr⟩, by simpa using hshow,
      by simpa using hpre, he⟩

-- A text that is analysed has a report that is delivered.
theorem Analyses.execute_eq (ha : Analyses a env d now settings r) (hs : a.showHistory = false)
    (hp : a.preview = false) (c : Console) :
    ∃ told, execute c a env d now = deliver c a (historyOf? a settings) told d r := by
  obtain ⟨text, ps, ht, hps, hx, hr⟩ := ha.analysed
  cases hrun : Analysis.run settings ⟨text, ps.map (·.declared), a.expression.join⟩ now a.verbose
  case mk told result =>
  rw [hrun] at hr
  subst hr
  refine ⟨told, ?_⟩
  simp [execute, ha.accepted, hs, hp, ht, hps, examine, hx, hrun, historyOf?]

theorem Analyses.unique {settings' : Settings} {r' : Report String}
    (ha : Analyses a env d now settings r) (ha' : Analyses a env d now settings' r') :
    settings = settings' ∧ r = r' := by
  obtain rfl : settings = settings' := Except.ok.inj (ha.accepted.symm.trans ha'.accepted)
  obtain ⟨text, ps, ht, hp, -, hr⟩ := ha.analysed
  obtain ⟨text', ps', ht', hp', -, hr'⟩ := ha'.analysed
  cases ht.symm.trans ht'
  cases hp.symm.trans hp'
  exact ⟨rfl, Except.ok.inj (hr.symm.trans hr')⟩

end Executions

section Deliveries

-- The paths of the files that a delivery may touch.
def targets (json : Option String) (h? : Option History) : List Path :=
  (json.map Path.ofString).toList ++ h?.toList.flatMap fun h => [h.draft, h.path]

-- The text of the report is in another file than the history and its draft.
def Apart (json : Option String) (h? : Option History) (d : Directory) : Prop :=
  ∀ name ∈ json, ∀ h ∈ h?, ∀ place, d.locate (.ofString name) = .ok place →
    d.locate h.path ≠ .ok place ∧ d.locate h.draft ≠ .ok place

-- Paths that are plainly written are apart if they differ.
theorem apart_of_ne (hj : ∀ name ∈ json, (Path.ofString name).Plain)
    (hh : ∀ h ∈ h?, h.path.Plain ∧ h.draft.Plain)
    (hne : ∀ name ∈ json, ∀ h ∈ h?, .ofString name ≠ h.path ∧ .ofString name ≠ h.draft)
    (d : Directory) : Apart json h? d := by
  intro name hn h hm place hl
  have ⟨hpath, hdraft⟩ := hh h hm
  have ⟨hne, hne'⟩ := hne name hn h hm
  obtain rfl := eq_of_locate (hj name hn) hl
  exact ⟨mt (eq_of_locate hpath) hne, mt (eq_of_locate hdraft) hne'⟩

-- The directory on the way of a delivery: first the text is written, then the history.
structure Delivers (json : Option String) (h? : Option History) (r : Report String)
    (d d₁ d₂ : Directory) : Prop where
  exported : exportReport json d r = .done d₁
  kept     : ∀ h ∈ h?, h.save d₁ r.document = .done d₂
  unkept   : h? = none → d₂ = d₁

theorem directory_tellKept (h : History) (shown : List Display) (d : Directory) :
    (tellKept h shown d).directory = d := by
  unfold tellKept
  split <;> rfl

theorem ending_deliver_ne (c : Console) (a : Arguments) (h? : Option History)
    (told : List Display) (d : Directory) (r : Report String) :
    (deliver c a h? told d r).ending ≠ .exit 1 := by
  unfold deliver
  dsimp only
  split
  case h_1 => nofun
  split
  case h_1 => nofun
  split
  case h_1 => nofun
  unfold tellKept
  split <;> nofun

theorem delivers_of_exit (he : (deliver c a h? told d r).ending = .exit 0) :
    ∃ d₁, Delivers (given? a.json) h? r d d₁ (deliver c a h? told d r).directory := by
  unfold deliver at he ⊢
  dsimp only at he ⊢
  split at he
  case h_1 => cases he
  case h_2 d₁ hx =>
  split at he
  case h_1 => exact ⟨d₁, hx, nofun, fun _ => rfl⟩
  case h_2 h =>
  split at he
  case h_1 => cases he
  case h_2 d₂ hs =>
    refine ⟨d₁, hx, ?_, nofun⟩
    rintro _ ⟨rfl⟩
    rw [directory_tellKept]
    exact hs

theorem changesOnly_of_export (h : exportReport json d r = .done d₁) :
    ChangesOnly (json.map Path.ofString).toList d d₁ := by
  cases json
  case none =>
    cases h
    exact .refl _ d
  case some name => exact .deposit h List.mem_cons_self

-- What a history held when it was read for a report. The text of the report is written before,
-- which makes a difference only where its folder was missing on the way to the history.
structure Held (json : Option String) (h : History) (r : Report String) (d : Directory)
    (raw : List Json) : Prop where
  read  : ∃ d₁, exportReport json d r = .done d₁ ∧ h.stored d₁ = .ok raw
  first : d.Settled h.path → h.stored d = .ok raw

-- The history holds the report and then those of its entries that hold reports, as far as there is
-- room, and no draft is left.
structure Kept (json : Option String) (h : History) (r : Report String) (d d₂ : Directory) :
    Prop where
  entries : ∃ raw limit, Held json h r d raw ∧ h.limit = .ok limit ∧
    d₂.read h.path h.path.toString = .ok (encode (keep limit r.document raw)) ∧
    h.entries d₂ = .ok ((r.document :: raw.filterMap report?).take limit)
  swept   : ∀ draft, d₂.locate h.draft = .ok draft → d₂.file? draft = none

-- Under a name that neither goes up nor has a part that is too long, the history held this when the
-- run began.
theorem Kept.entries_of_name {name : String} {maxEntries : Number}
    (hk : Kept json ⟨.ofString name, maxEntries⟩ r d d₂) (hu : ".." ∉ (Path.ofString name).parts)
    (hn : ∀ part ∈ (Path.ofString name).parts, part.utf8ByteSize < nameLimit) :
    let h : History := ⟨.ofString name, maxEntries⟩
    ∃ old limit, h.entries d = .ok old ∧ h.limit = .ok limit ∧
      h.entries d₂ = .ok ((r.document :: old).take limit) := by
  intro h
  obtain ⟨raw, limit, hheld, hl, -, he⟩ := hk.entries
  have hs : h.stored d = .ok raw := hheld.first (settled_ofString hu hn d)
  exact ⟨_, limit, by rw [History.entries, hs]; rfl, hl, he⟩

-- What the files hold after a report has been delivered.
structure Delivered (json : Option String) (h? : Option History) (r : Report String)
    (d d₂ : Directory) : Prop where
  exported : ∀ name ∈ json, d₂.read (.ofString name) (Path.ofString name).toString =
    .ok (encodeText r.document.toText)
  kept     : ∀ h ∈ h?, Kept json h r d d₂
  others   : ChangesOnly (targets json h?) d d₂

namespace Delivers

theorem changesOnly (hd : Delivers json h? r d d₁ d₂) :
    ChangesOnly (h?.toList.flatMap fun h => [h.draft, h.path]) d₁ d₂ := by
  cases h?
  case none =>
    obtain rfl := hd.unkept rfl
    exact .refl _ _
  case some h => exact changesOnly_of_save (hd.kept h rfl)

theorem read_exported (hd : Delivers json h? r d d₁ d₂) (ha : Apart json h? d₂) :
    ∀ name ∈ json, d₂.read (.ofString name) (Path.ofString name).toString =
      .ok (encodeText r.document.toText) := by
  rintro name ⟨rfl⟩
  obtain ⟨d', place, -, -, hr, hx⟩ := deposit_of_done (congrArg Change.failure? hd.exported)
  cases hx.symm.trans hd.exported
  have hk : d'.Keeps (d'.set place (encodeText r.document.toText)) := keeps_set hr.vacant
  have hl := hd.changesOnly.keeps.locate_eq_ok (hk.locate_eq_ok hr.located)
  have hf := hd.changesOnly.others place fun p hp => by
    obtain ⟨h, hh, hp⟩ := List.mem_flatMap.mp hp
    have ⟨hpath, hdraft⟩ := ha name rfl h (Option.mem_toList.mp hh) place hl
    simp only [List.mem_cons, List.not_mem_nil, or_false] at hp
    rcases hp with rfl | rfl
    · exact hdraft
    · exact hpath
  rw [file?_set_self] at hf
  simp [Directory.read, hr.noNul, hl, hf]

-- The text of a report that is written elsewhere does not change what a history holds.
theorem stored_eq (hd : Delivers json (some h) r d d₁ d₂) (ha : Apart json (some h) d₂)
    (hs : d.Settled h.path) : h.stored d₁ = h.stored d := by
  cases json
  case none =>
    cases hd.exported
    rfl
  case some name =>
  obtain ⟨d', place, -, hw, hr, hx⟩ := deposit_of_done (congrArg Change.failure? hd.exported)
  cases hx.symm.trans hd.exported
  have hk : d'.Keeps (d'.set place (encodeText r.document.toText)) := keeps_set hr.vacant
  obtain ⟨raw, limit, hraw, hl, -⟩ := exchange_of_save (hd.kept h rfl)
  obtain ⟨kept, hp, -⟩ := save_of_done hraw hl (hd.kept h rfl)
  have hc := hd.changesOnly
  have hlater {p q : Path} (hl : d'.locate p = .ok q) : d₂.locate p = .ok q :=
    hc.keeps.locate_eq_ok (hk.locate_eq_ok hl)
  -- The history's file is there in the end, so that no folder has come to be in its place.
  have hv (q : Path) (hl : d'.locate h.path = .ok q) : d'.isFolder q = false := by
    obtain rfl : q = kept := Except.ok.inj ((hlater hl).symm.trans hp.located)
    rw [← Bool.not_eq_true]
    intro hf
    have hf := hc.folders q (isFolder_set_iff.mpr (.inl hf))
    rw [hp.vacant] at hf
    cases hf
  have hwide : AlikeAt h.path d d' := by
    refine hs.alikeAt hw fun q hl => ?_
    have hq := hv q hl
    rw [hq, eq_comm, ← Bool.not_eq_true]
    exact fun hf => Bool.eq_false_iff.mp hq (hw.folders q hf)
  have hset : AlikeAt h.path d' (d'.set place (encodeText r.document.toText)) := by
    refine hr.alikeAt (fun q hl => ?_) _
    rintro rfl
    exact (ha name rfl h rfl place (hlater hr.located)).1 (hlater hl)
  exact (stored_of_alikeAt hset).trans (stored_of_alikeAt hwide)

theorem kept_of_apart (hd : Delivers json h? r d d₁ d₂) (ha : Apart json h? d₂)
    (hr : ∀ row ∈ r.rows, row.IsMapping) : ∀ h ∈ h?, Kept json h r d d₂ := by
  rintro h ⟨rfl⟩
  have hsave := hd.kept h rfl
  obtain ⟨raw, limit, hs, hl, -⟩ := exchange_of_save hsave
  obtain ⟨place, hp, hf⟩ := save_of_done hs hl hsave
  have he : h.entries d₁ = .ok (raw.filterMap report?) := by
    rw [History.entries, hs]
    rfl
  have hheld : Held json h r d raw :=
    ⟨⟨d₁, hd.exported, hs⟩, fun hset => (hd.stored_eq ha hset).symm.trans hs⟩
  exact ⟨⟨raw, limit, hheld, hl, read_of_reaches hp hf, entries_of_save he hl hr hsave⟩,
    fun draft => absent_draft_of_save hsave⟩

theorem delivered (hd : Delivers json h? r d d₁ d₂) (ha : Apart json h? d₂)
    (hr : ∀ row ∈ r.rows, row.IsMapping) : Delivered json h? r d d₂ where
  exported := hd.read_exported ha
  kept := hd.kept_of_apart ha hr
  others :=
    have hx := (changesOnly_of_export hd.exported).mono (List.subset_append_left ..)
    hx.trans (hd.changesOnly.mono (List.subset_append_right ..))

end Delivers

-- A delivery ends well when both files are written and the history can be read again.
theorem exit_of_done {n : Nat} {limit : String}
    (hx : exportReport (given? a.json) d r = .done d₁) (hs : h.save d₁ r.document = .done d₂)
    (hn : h.size d₂ = .ok n) (hl : h.maxEntries.display? = some limit) :
    (deliver c a (some h) told d r).ending = .exit 0 := by
  simp only [deliver, hx, hs, tellKept, hn, hl, Change.done]
  rfl

end Deliveries

section Runs

-- A run that is refused, or that only shows something, leaves all files as they are. One that ends
-- well with a report leaves the files that it was asked for, and nothing else has changed.
theorem files_after_run (ha : parse argv = .ok (.run a)) (c : Console)
    (env : Settings.Environment) (d : Directory) (now : String) :
    let o := run c argv env d now
    (o.ending = .exit 1 ∨ a.showHistory ∨ a.preview → o.directory = d) ∧
      (o.ending = .exit 0 → a.showHistory = false → a.preview = false →
        ∃ settings r, Analyses a env d now settings r ∧
          (Apart (given? a.json) (historyOf? a settings) o.directory →
            Delivered (given? a.json) (historyOf? a settings) r d o.directory)) := by
  intro o
  have ho : o = execute c a env d now := by simp only [o, run, ha]
  clear_value o
  subst ho
  rcases execute_cases c a env d now with hi | ⟨settings, told, r, hr, hs, hp, he⟩
  case inl =>
    refine ⟨fun _ => hi.directory, fun h0 hs hp => ?_⟩
    have := hi.ending h0
    simp [hs, hp] at this
  case inr =>
    rw [he]
    refine ⟨fun h => ?_, fun h0 _ _ => ?_⟩
    · simp [hs, hp, ending_deliver_ne] at h
    · obtain ⟨d₁, hd⟩ := delivers_of_exit h0
      exact ⟨settings, r, hr, fun ha => hd.delivered ha hr.isMapping⟩

def weatherArguments : List String :=
  ["Llueve o nieva.", "-p", "p=llueve", "-p", "q=nieva", "-e", "p", "--json", "r.json",
    "--history", "h.json"]

def parsedArguments : Arguments :=
  { Arguments.none with
    text := some "Llueve o nieva."
    propositions := [some ⟨"p", "llueve"⟩, some ⟨"q", "nieva"⟩]
    expression := some (some "p")
    json := some "r.json"
    history := some "h.json" }

def weatherReport : Report String :=
  ⟨"Llueve o nieva.", [⟨"p", "llueve"⟩, ⟨"q", "nieva"⟩], "p", .contingency,
    [⟨[("p", false), ("q", false)], false⟩, ⟨[("p", false), ("q", true)], false⟩,
      ⟨[("p", true), ("q", false)], true⟩, ⟨[("p", true), ("q", true)], true⟩],
    .var "p", "2026-01-01T12:00:00+00:00"⟩

theorem analyses_weather (d : Directory) :
    Analyses parsedArguments [] d weatherReport.timestamp .standard weatherReport := by
  refine ⟨settingsOf_shownArguments d, "Llueve o nieva.", [⟨"p", "llueve"⟩, ⟨"q", "nieva"⟩], rfl,
    rfl, by decide, ?_⟩
  have hp : Formula.parse "p" = .ok (.var "p") := by cbv
  let request : Analysis.Request :=
    ⟨"Llueve o nieva.", [⟨.str "p", .str "llueve"⟩, ⟨.str "q", .str "nieva"⟩], some "p"⟩
  have hr : Analysis.Reached .standard request weatherReport.timestamp weatherReport := {
    validated  := by decide +kernel
    expression := rfl
    formula    := Analysis.formulaOf_eq_ok_iff.mpr ⟨hp, fun h => by cases h⟩
    table      := by decide +kernel
    text       := rfl
    timestamp  := rfl
  }
  exact hr.run

theorem parse_weatherArguments : parse weatherArguments = .ok (.run parsedArguments) := by
  rfl

theorem path_shownHistory : shownHistory.path = ⟨["h.json"]⟩ :=
  have hn : '/' ∉ "h.json".toList ∧ "h.json".toList ∉ [[], ['.']] := by decide
  Path.ofString_name hn.1 hn.2

theorem ofString_export : Path.ofString "r.json" = ⟨["r.json"]⟩ :=
  have hn : '/' ∉ "r.json".toList ∧ "r.json".toList ∉ [[], ['.']] := by decide
  Path.ofString_name hn.1 hn.2

theorem exit_of_weather :
    (run console weatherArguments [] (holding (encode [rainReport.document.toJson]))
      weatherReport.timestamp).ending = .exit 0 := by
  generalize hd : holding (encode [rainReport.document.toJson]) = d
  have ha := analyses_weather d
  let d₁ := d.set ⟨["r.json"]⟩ (encodeText weatherReport.document.toText)
  have hx : exportReport (given? parsedArguments.json) d weatherReport = .done d₁ := by
    have hr : d.Ready ⟨["r.json"]⟩ ⟨["r.json"]⟩ := by
      subst hd
      exact Directory.ready_of_name (by decide) (by decide) (by decide) (by decide +kernel)
        (by decide +kernel)
    change d.deposit (.ofString "r.json") _ = _
    rw [ofString_export]
    exact hr.deposit _
  have hr : shownHistory.Ready d₁ ⟨["h.json"]⟩ ⟨["h.json.tmp"]⟩ := by
    subst hd
    exact ready_of_name (by decide) (by decide) (by decide) (by decide) (by decide) (by decide)
      (by decide +kernel) (by decide +kernel) (by decide +kernel)
  have hf : d₁.file? ⟨["h.json"]⟩ = some (encode [rainReport.document.toJson]) := by
    subst hd
    rw [Directory.file?_set_of_ne _ (by decide), ← path_shownHistory]
    simp [Directory.file?, lookup]
  have hstored : shownHistory.stored d₁ = .ok [rainReport.document.toJson] := by
    rw [stored_of_reaches hr.path.toReaches, hf]
    exact entriesOfBytes_encode (by simpa using storable_toJson (r := rainReport) (by decide))
  have he : ∃ old, shownHistory.entries d₁ = .ok old := by
    rw [History.entries, hstored]
    exact ⟨_, rfl⟩
  have hlimit : shownHistory.limit = .ok 10 := rfl
  obtain ⟨old, he⟩ := he
  obtain ⟨d₂, hd₂, -⟩ := hr.writable.save (r := weatherReport) hstored hlimit (by decide)
  have hsize : ∃ n, shownHistory.size d₂ = .ok n := by
    rw [History.size, entries_of_save he hlimit (by decide) hd₂]
    exact ⟨_, rfl⟩
  obtain ⟨n, hsize⟩ := hsize
  obtain ⟨told, hrun⟩ := ha.execute_eq rfl rfl console
  rw [run, parse_weatherArguments]
  have hten : shownHistory.maxEntries.display? = some "10" := by decide +kernel
  exact (congrArg Outcome.ending hrun).trans (exit_of_done hx hd₂ hsize hten)

-- A report is put in front of the one that is there, and its text into a new file.
theorem files_after_weather :
    let d := holding (encode [rainReport.document.toJson])
    let o := run console weatherArguments [] d weatherReport.timestamp
    o.ending = .exit 0 ∧
      Delivered (some "r.json") (some shownHistory) weatherReport d o.directory := by
  intro d o
  have hend : o.ending = .exit 0 := exit_of_weather
  obtain ⟨-, hfiles⟩ := files_after_run parse_weatherArguments console [] d weatherReport.timestamp
  obtain ⟨settings, r, ha, hfiles⟩ := hfiles hend rfl rfl
  obtain ⟨rfl, rfl⟩ := ha.unique (analyses_weather d)
  have hdraft : shownHistory.draft = ⟨["h.json.tmp"]⟩ := by
    rw [History.draft, path_shownHistory]
    rfl
  refine ⟨hend, hfiles (apart_of_ne ?_ ?_ ?_ _)⟩
  · rintro name ⟨rfl⟩
    exact ofString_export ▸ Path.plain_name (by decide)
  · rintro h ⟨rfl⟩
    exact ⟨path_shownHistory ▸ Path.plain_name (by decide), hdraft ▸ Path.plain_name (by decide)⟩
  · rintro name ⟨rfl⟩ h ⟨rfl⟩
    exact ofString_export ▸ ⟨path_shownHistory ▸ by decide, hdraft ▸ by decide⟩

end Runs

end Enunciado.CommandLine
