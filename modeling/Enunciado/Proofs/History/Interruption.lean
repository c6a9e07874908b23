import Enunciado.Proofs.History.Queue

namespace Enunciado.History

section Steps

-- A report that is being saved, with the entries that have been read.
structure Saving where
  limit : Nat
  report : Report String
  isMapping : ∀ row ∈ report.rows, row.IsMapping
  raw : List Json

def Saving.bytes (s : Saving) : ByteArray :=
  encode (keep s.limit s.report.document s.raw)

-- How far the program has come.
inductive Stage
  | idle
  | loaded (s : Saving)
  | writing (s : Saving) (written rest : ByteArray)

structure Process where
  directory : Directory
  stage : Stage

-- A change that has come to its last step.
inductive Finished
  | saved (limit : Nat) (r : Report String)
  | cleared

-- The entries after a change; those that could not be read are still lost when they are cleared.
def Finished.apply (rs : Except HistoryError (List (Report Json))) :
    Finished → Except HistoryError (List (Report Json))
  | saved limit r => rs.map fun rs => (r.document :: rs).take limit
  | cleared => .ok []

-- A step of the program, and the change that it finishes. Each save has a limit of its own. Folders
-- are made on a settled way only: where it goes up from one that is missing, a file that was out of
-- reach may come to be what is read.
inductive Step (h : History) : Process → List Finished → Process → Prop
  | load {d : Directory} {s : Saving} {maxEntries : Number}
    (hl : History.limit ⟨h.path, maxEntries⟩ = .ok s.limit) (hs : h.stored d = .ok s.raw) :
    Step h ⟨d, .idle⟩ [] ⟨d, .loaded s⟩
  | makeFolder {d d' : Directory} {s : Saving} {q : Path} (hs : d.Settled h.path)
    (hq : q.parts <+: h.path.parent.parts) (hd : d.makeFolder q = .done d') :
    Step h ⟨d, .loaded s⟩ [] ⟨d', .loaded s⟩
  | create {d d' : Directory} {s : Saving} (hd : d.write h.draft .empty = .done d') :
    Step h ⟨d, .loaded s⟩ [] ⟨d', .writing s .empty s.bytes⟩
  | append {d d' : Directory} {s : Saving} {written piece rest : ByteArray}
    (hd : d.write h.draft (written ++ piece) = .done d') :
    Step h ⟨d, .writing s written (piece ++ rest)⟩ [] ⟨d', .writing s (written ++ piece) rest⟩
  | replace {d d' : Directory} {s : Saving} {written : ByteArray}
    (hd : d.move h.draft h.path = .done d') :
    Step h ⟨d, .writing s written .empty⟩ [.saved s.limit s.report] ⟨d', .idle⟩
  | remove {d d' : Directory} (hd : h.clear d = .done d') :
    Step h ⟨d, .idle⟩ [.cleared] ⟨d', .idle⟩
  | cut {d : Directory} {stage : Stage} : Step h ⟨d, stage⟩ [] ⟨d, .idle⟩

inductive Steps (h : History) : Process → List Finished → Process → Prop
  | refl {p : Process} : Steps h p [] p
  | step {p₁ p₂ p₃ : Process} {as bs : List Finished} (first : Step h p₁ as p₂)
    (rest : Steps h p₂ bs p₃) : Steps h p₁ (as ++ bs) p₃

end Steps

section Invariant

variable {h : History} {d d' : Directory} {p p' p'' : Process} {stage : Stage} {draft : Path}
  {bytes : ByteArray} {as bs : List Finished} {E : Except HistoryError (List (Report Json))}

-- What has been read for a save is what is stored, as far as it holds reports.
structure Saving.Sound (s : Saving) (E : Except HistoryError (List (Report Json))) : Prop where
  entries  : E = .ok (s.raw.filterMap report?)
  storable : ∀ v ∈ s.raw, Storable v

-- A draft that is being written holds what has been written of it.
inductive Stage.Sound (h : History) (d : Directory) (E : Except HistoryError (List (Report Json))) :
    Stage → Prop
  | idle : Sound h d E .idle
  | loaded {s : Saving} (hs : s.Sound E) : Sound h d E (.loaded s)
  | writing {s : Saving} {written rest : ByteArray} {draft : Path} (hs : s.Sound E)
    (hb : written ++ rest = s.bytes) (hr : d.Reaches h.draft draft)
    (hf : d.file? draft = some written) : Sound h d E (.writing s written rest)

structure Process.Sound (h : History) (E : Except HistoryError (List (Report Json)))
    (p : Process) : Prop where
  single  : p.directory.Single h.path
  entries : h.entries p.directory = E
  stage   : p.stage.Sound h p.directory E

-- Writing the draft leaves all as it was.
theorem Process.Sound.write (hp : Process.Sound h E ⟨d, stage⟩)
    (hd : d.write h.draft bytes = .done d') :
    d'.Single h.path ∧ h.entries d' = E ∧
      ∃ draft, d'.Reaches h.draft draft ∧ d'.file? draft = some bytes := by
  obtain ⟨draft, hr, hw⟩ := Directory.write_of_done (congrArg Change.failure? hd)
  cases hw.symm.trans hd
  have ha := hr.alikeAt_of_draft bytes
  exact ⟨ha.single hp.single, (entries_of_alikeAt ha).trans hp.entries, draft,
    hr.mono ha.keeps (Directory.vacant_set hr.vacant rfl), Directory.file?_set_self ..⟩

-- The whole draft takes the place of the file.
theorem Process.Sound.replace {s : Saving} {written : ByteArray}
    (hp : Process.Sound h E ⟨d, .writing s written .empty⟩)
    (hd : d.move h.draft h.path = .done d') :
    d'.Single h.path ∧ h.entries d' = (Finished.saved s.limit s.report).apply E := by
  obtain ⟨draft, place, bytes, hl, hf, hl', hv, hm⟩ :=
    Directory.move_of_done (congrArg Change.failure? hd)
  cases hm.symm.trans hd
  cases hp.stage
  case writing draft' hr hs hw hb =>
    obtain rfl : draft = draft' := Except.ok.inj (hl.symm.trans hr.located)
    obtain rfl : bytes = s.bytes := by
      rw [← hb, ByteArray.append_empty]
      exact Option.some.inj (hf.symm.trans hw)
    have hv := Directory.vacant_erase hv hr.isFolder_parent
    have hp' : ((d.erase draft).set place s.bytes).Reaches h.path place :=
      ⟨Path.noNul_of_extend hr.noNul,
        (Directory.keeps_set hv).locate_eq_ok (Directory.keeps_erase.locate_eq_ok hl'),
        Directory.vacant_set hv rfl⟩
    refine ⟨hp'.single, ?_⟩
    rw [History.entries, stored_of_reaches hp', Directory.file?_set_self, hs.entries]
    refine (congrArg (Except.map _) (entriesOfBytes_encode
      (storable_keep s.isMapping hs.storable))).trans ?_
    exact congrArg Except.ok (filterMap_keep s.report.document)

theorem Step.sound (hs : Step h p as p') (hp : p.Sound h E) :
    p'.Sound h (as.foldl Finished.apply E) := by
  cases hs
  case load d s maxEntries hl hs =>
    refine ⟨hp.single, hp.entries, .loaded ⟨?_, storable_of_stored hs⟩⟩
    rw [List.foldl_nil, ← hp.entries, entries, hs]
    rfl
  case makeFolder hset hq hd =>
    have ha := hset.alikeAt_of_makeFolder hq hd
    cases hp.stage
    case loaded hs =>
      exact ⟨ha.single hp.single, (entries_of_alikeAt ha).trans hp.entries, .loaded hs⟩
  case create hd =>
    obtain ⟨hsingle, he, draft, hr, hf⟩ := hp.write hd
    cases hp.stage
    case loaded hs => exact ⟨hsingle, he, .writing hs ByteArray.empty_append hr hf⟩
  case append hd =>
    obtain ⟨hsingle, he, draft, hr, hf⟩ := hp.write hd
    cases hp.stage
    case writing _ hs _ hb =>
      exact ⟨hsingle, he, .writing hs (ByteArray.append_assoc.trans hb) hr hf⟩
  case replace hd =>
    obtain ⟨hsingle, he⟩ := hp.replace hd
    exact ⟨hsingle, he, .idle⟩
  case remove hd =>
    obtain ⟨hsingle, hs⟩ := clear_of_done hp.single hd
    refine ⟨hsingle, ?_, .idle⟩
    rw [entries, hs]
    rfl
  case cut => exact ⟨hp.single, hp.entries, .idle⟩

theorem Steps.sound (hs : Steps h p as p') (hp : p.Sound h E) :
    p'.Sound h (as.foldl Finished.apply E) := by
  induction hs generalizing E
  case refl => exact hp
  case step first _ hi =>
    rw [List.foldl_append]
    exact hi (first.sound hp)

-- The draft, written as far as it may be.
theorem Steps.write {s : Saving} {written rest : ByteArray} (hb : written ++ rest = s.bytes)
    (hr : d.Reaches h.draft draft) :
    Steps h ⟨d, .loaded s⟩ [] ⟨d.set draft written, .writing s written rest⟩ := by
  have hw := (hr.set .empty).write (.empty ++ written)
  rw [Directory.set_set] at hw
  have happend : Step h ⟨d.set draft .empty, .writing s .empty (written ++ rest)⟩ []
      ⟨d.set draft (.empty ++ written), .writing s (.empty ++ written) rest⟩ := .append hw
  rw [ByteArray.empty_append, hb] at happend
  exact .step (.create (hr.write .empty)) (.step happend .refl)

theorem Steps.trans (h₁ : Steps h p as p') (h₂ : Steps h p' bs p'') :
    Steps h p (as ++ bs) p'' := by
  induction h₁
  case refl => exact h₂
  case step first _ hi =>
    rw [List.append_assoc]
    exact .step first (hi h₂)

-- A save that nothing cuts short is such a run.
theorem Steps.of_save {r : Report String} (hs : d.Settled h.path)
    (hr : ∀ row ∈ r.rows, row.IsMapping) (hd : h.save d r.document = .done d') :
    ∃ limit, h.limit = .ok limit ∧ Steps h ⟨d, .idle⟩ [.saved limit r] ⟨d', .idle⟩ := by
  obtain ⟨raw, limit, hraw, hl, hd⟩ := exchange_of_save hd
  let s : Saving := ⟨limit, r, hr, raw⟩
  obtain ⟨hdep, hnext⟩ := Change.next_of_done (congrArg Change.failure? hd)
  obtain ⟨d₁, draft, hm, -, hr₁, hw⟩ := Directory.deposit_of_done hdep
  have hmove : (d₁.set draft s.bytes).move h.draft h.path = .done d' := by
    rwa [hnext, hw] at hd
  have hq : h.draft.parent.parts <+: h.path.parent.parts := by
    rw [History.draft, Path.parent_extend]
  have hload : Steps h ⟨d, .idle⟩ [] ⟨d₁, .loaded s⟩ :=
    .step (.load hl hraw) (.step (.makeFolder hs hq hm) .refl)
  have hwrite := Steps.write (s := s) ByteArray.append_empty hr₁
  exact ⟨limit, hl, hload.trans (hwrite.trans (.step (.replace hmove) .refl))⟩

-- A save that is cut short may leave any first part of its draft behind.
theorem Steps.of_cut {r : Report String} {raw : List Json} {limit : Nat}
    (hr : ∀ row ∈ r.rows, row.IsMapping) (hs : h.stored d = .ok raw) (hl : h.limit = .ok limit)
    (hp : d.Reaches h.draft draft) (n : Nat) :
    Steps h ⟨d, .idle⟩ []
      ⟨d.set draft ((encode (keep limit r.document raw)).extract 0 n), .idle⟩ := by
  let s : Saving := ⟨limit, r, hr, raw⟩
  have hb : s.bytes.extract 0 n ++ s.bytes.extract n s.bytes.size = s.bytes := by
    simp [ByteArray.extract_append_extract]
  exact .step (.load (s := s) hl hs) ((Steps.write hb hp).trans (.step .cut .refl))

-- A name that neither goes up nor has a part that is too long lets every folder on the way be made,
-- in any directory.
theorem Steps.of_save_under_name {name : String} {maxEntries : Number} {r : Report String}
    (hu : ".." ∉ (Path.ofString name).parts)
    (hn : ∀ part ∈ (Path.ofString name).parts, part.utf8ByteSize < Directory.nameLimit)
    (hr : ∀ row ∈ r.rows, row.IsMapping)
    (hd : History.save ⟨.ofString name, maxEntries⟩ d r.document = .done d') :
    ∃ limit, History.limit ⟨.ofString name, maxEntries⟩ = .ok limit ∧
      Steps ⟨.ofString name, maxEntries⟩ ⟨d, .idle⟩ [.saved limit r] ⟨d', .idle⟩ :=
  Steps.of_save (Directory.settled_ofString hu hn d) hr hd

-- However often the program is cut short, the entries are those that the finished changes make of
-- what there was, and whatever is left in the draft makes no difference. The path must not lead to
-- a file and a folder at once, as none does on a machine.
theorem entries_of_steps (hd : d.Single h.path) (hs : Steps h ⟨d, .idle⟩ as p) :
    h.entries p.directory = as.foldl Finished.apply (h.entries d) ∧
      ∀ draft, p.directory.Reaches h.draft draft → ∀ bytes,
        h.entries (p.directory.set draft bytes) = h.entries p.directory :=
  ⟨(hs.sound ⟨hd, rfl, .idle⟩).entries,
    fun _ hr bytes => entries_of_alikeAt (hr.alikeAt_of_draft bytes)⟩

-- The program is cut short when ten bytes of the draft are written, and then saves the report.
theorem entries_after_cut :
    let old : Report String := { rainReport with text := "Ayer." }
    let h : History := ⟨.ofString "h.json", .int 2⟩
    let d : Directory := ⟨[(⟨["h.json"]⟩, encode [old.document.toJson])], []⟩
    let piece := (encode [rainReport.document.toJson, old.document.toJson]).extract 0 10
    d.Single h.path ∧ ∃ d₁ d₂, d₁.file? ⟨["h.json.tmp"]⟩ = some piece ∧
      Steps h ⟨d, .idle⟩ [] ⟨d₁, .idle⟩ ∧
      Steps h ⟨d, .idle⟩ [.saved 2 rainReport] ⟨d₂, .idle⟩ ∧
      h.entries d₁ = .ok [old.document] ∧
      h.entries d₂ = .ok [rainReport.document, old.document] := by
  intro old h d piece
  have hr : h.Ready d ⟨["h.json"]⟩ ⟨["h.json.tmp"]⟩ :=
    ready_of_name (by decide) (by decide) (by decide) (by decide) (by decide) (by decide)
      (by decide) (by decide) (by decide)
  have hstored : h.stored d = .ok [old.document.toJson] :=
    (stored_of_reaches hr.path.toReaches).trans
      (entriesOfBytes_encode (by simpa using storable_toJson (r := old) (by decide)))
  have he : h.entries d = .ok [old.document] := by
    rw [entries, hstored]
    exact congrArg Except.ok (List.filterMap_cons_some (report?_toJson old.document))
  have hk : keep 2 rainReport.document [old.document.toJson] =
      [rainReport.document.toJson, old.document.toJson] := by
    simp [keep, report?_toJson]
  have hlim : h.limit = .ok 2 := rfl
  have hcut := Steps.of_cut (r := rainReport) (by decide) hstored hlim hr.draft.toReaches 10
  rw [hk] at hcut
  have hr₁ := hr.set (.inr rfl) piece
  have he₁ : h.entries (d.set ⟨["h.json.tmp"]⟩ piece) = .ok [old.document] := by
    rw [(entries_of_steps hr.path.single hcut).1, List.foldl_nil, he]
  obtain ⟨raw, hraw, -⟩ := map_eq_ok_iff.mp he₁
  obtain ⟨d₂, hd₂, -⟩ := hr₁.writable.save (r := rainReport) hraw hlim (by decide)
  obtain ⟨_, ⟨rfl⟩, hsave⟩ := Steps.of_save (.inl hr₁.path.parent) (by decide) hd₂
  have hrun := hcut.trans hsave
  refine ⟨hr.path.single, _, d₂, Directory.file?_set_self .., hcut, hrun, he₁, ?_⟩
  rw [(entries_of_steps hr.path.single hrun).1, he]
  rfl

end Invariant

end Enunciado.History
