import Enunciado.History
import Enunciado.Proofs.Analysis.Document
import Enunciado.Proofs.Json.Lines
import Enunciado.Proofs.Json.Reading
import Enunciado.Proofs.Json.Writer
import Enunciado.Proofs.Storage.Encoding
import Enunciado.Proofs.Storage.Footprint

namespace Enunciado

namespace History

variable {h : History} {d d' : Directory} {place draft : Path} {bytes : ByteArray}
  {raw : List Json} {limit : Nat}

section Places

-- The history's file and the file that takes its place can be written.
structure Writable (h : History) (d : Directory) : Prop where
  path  : d.Accepts h.path
  draft : d.Accepts h.draft

-- The places of the two files, when the folder that they go into is there.
structure Ready (h : History) (d : Directory) (place draft : Path) : Prop where
  named : ∃ name, h.path.EndsIn name
  path  : d.Ready h.path place
  draft : d.Ready h.draft draft

theorem Ready.writable (hr : h.Ready d place draft) : h.Writable d :=
  have ⟨_, hn⟩ := hr.named
  ⟨hr.path.accepts hr.named, hr.draft.accepts ⟨_, hn.draft⟩⟩

theorem Writable.exists_ready (hw : h.Writable d) :
    ∃ d' place draft, d.makeFolder h.path.parent = .done d' ∧ d.Widens d' ∧
      h.Ready d' place draft := by
  have ⟨name, hn⟩ := hw.path.named
  have ⟨d', hm, hd, place, hp⟩ := hw.path.ready
  have ⟨d'', hm', _, draft, ht⟩ := hw.draft.ready
  rw [History.draft, Path.parent_extend, hm] at hm'
  cases hm'
  exact ⟨d', place, draft, hm, hd, ⟨name, hn⟩, hp, ht⟩

-- The two files are beside each other.
theorem Ready.beside (hr : h.Ready d place draft) :
    place.parts.length = draft.parts.length ∧ place.parent = draft.parent ∧
      d.isFolder draft.parent := by
  have ⟨name, hn⟩ := hr.named
  obtain ⟨folder, hl, rfl⟩ := hr.path.place_eq hn
  obtain ⟨folder', hl', rfl⟩ := hr.draft.place_eq hn.draft
  obtain ⟨folder'', ho, hf⟩ := hr.draft.parent
  obtain rfl : folder' = folder'' := Except.ok.inj (hl'.symm.trans ho)
  rw [History.draft, Path.parent_extend, hl] at hl'
  cases hl'
  refine ⟨by simp, by simp [Path.parent], ?_⟩
  rw [Path.parent, List.dropLast_concat]
  exact hf.2

-- A history in the working folder, under a name that leaves room for that of the draft.
theorem ready_of_name {name : String} {limit : Number} (hs : '/' ∉ name.toList)
    (hw : name.toList ∉ [[], ['.']]) (hp : name ∉ ["..", "/", "//"])
    (hn : Path.hasNul name = false) (hn' : Path.hasNul (name ++ ".tmp") = false)
    (hl : (name ++ ".tmp").utf8ByteSize < Directory.nameLimit) (hr : d.file? ⟨[]⟩ = none)
    (hv : d.isFolder ⟨[name]⟩ = false) (hv' : d.isFolder ⟨[name ++ ".tmp"]⟩ = false) :
    Ready ⟨.ofString name, limit⟩ d ⟨[name]⟩ ⟨[name ++ ".tmp"]⟩ := by
  have hl' : name.utf8ByteSize < Directory.nameLimit := by
    rw [String.utf8ByteSize_append] at hl
    omega
  rw [Path.ofString_name hs hw]
  exact ⟨⟨name, rfl, hp⟩, Directory.ready_of_name hn hp hl' hr hv,
    Directory.ready_of_name hn' (Path.draft_not_mem name) hl hr hv'⟩

-- Either the folder is still missing, or the two places are known.
theorem Writable.cases (hw : h.Writable d) :
    d.locate h.path = .error .notFound ∨ ∃ place draft, h.Ready d place draft := by
  obtain ⟨d', place, draft, hm, hd, hr⟩ := hw.exists_ready
  cases hl : d.locate h.path
  case error f =>
    by_cases hf : f = .notFound
    case pos => exact .inl (hf ▸ hl.symm ▸ rfl)
    case neg =>
      have he := hr.path.located.symm.trans (hd.locate_eq_error hl hf)
      cases he
  case ok =>
    obtain ⟨name, hn⟩ := hw.path.named
    have ⟨_, hp, _⟩ := hr.path.parent
    have ⟨folder, hf, he⟩ := Directory.enter_of_locate hn.1 hl
    have hl := Directory.locate_of_foldlM hp hf
    rw [Directory.makeFolder_of_isFolder hr.path.parentNoNul hl (Directory.isOpen_of_enter he).2] at hm
    cases hm
    exact .inr ⟨place, draft, hr⟩

end Places

section Stored

theorem read_of_reaches (hr : d.Reaches h.path place) (hf : d.file? place = some bytes) :
    d.read h.path h.path.toString = .ok bytes := by
  simp [Directory.read, hr.noNul, hr.located, hf]

theorem stored_of_reaches (hr : d.Reaches h.path place) :
    h.stored d = match d.file? place with
      | none => .ok []
      | some bytes => entriesOfBytes bytes := by
  have hh : d.has h.path = .ok (d.file? place).isSome := by
    simp [Directory.has, hr.noNul, hr.located, hr.vacant]
  unfold stored
  rw [hh]
  cases hf : d.file? place
  case none => rfl
  case some bytes => simp [read_of_reaches hr hf]

theorem stored_of_notFound (hl : d.locate h.path = .error .notFound) : h.stored d = .ok [] := by
  have hh : d.has h.path = .ok false := by simp [Directory.has, hl]
  rw [stored, hh]

-- Nothing is stored where there is nothing.
theorem stored_of_absent (hl : d.locate h.path ≠ .error .nameTooLong)
    (hp : ∀ place, d.locate h.path = .ok place → d.file? place = none ∧ d.isFolder place = false) :
    h.stored d = .ok [] := by
  have hh : d.has h.path = .ok false := by
    unfold Directory.has
    split
    case isTrue => rfl
    case isFalse =>
      split
      case h_1 place h => simp [hp place h]
      case h_2 h => exact absurd h hl
      case h_3 => rfl
  rw [stored, hh]

theorem stored_of_alikeAt (ha : Directory.AlikeAt h.path d d') : h.stored d' = h.stored d := by
  by_cases hl : d.locate h.path = .error .nameTooLong
  case pos =>
    have hl' := ha.keeps.locate_eq hl nofun nofun
    by_cases hn : Path.hasNul h.path.toString <;> simp [stored, Directory.has, hl, hl', hn]
  cases hp : d.locate h.path
  case ok place =>
    have ⟨hf, hv⟩ := ha.same place hp
    simp only [stored, Directory.has, Directory.read, hp, ha.keeps.locate_eq_ok hp, hf, hv]
  case error f =>
    rw [stored_of_absent hl (by simp [hp]), stored_of_absent (mt ha.tooLong hl)]
    intro place hp'
    exact (ha.fresh place hp').resolve_left (by simp [hp])

theorem entries_of_alikeAt (ha : Directory.AlikeAt h.path d d') : h.entries d' = h.entries d := by
  rw [entries, stored_of_alikeAt ha, ← entries]

-- Nothing but a number with too many digits keeps bytes from being read.
theorem entriesOfBytes_cases (bytes : ByteArray) :
    (∃ raw, entriesOfBytes bytes = .ok raw) ∨
      ∃ n, entriesOfBytes bytes = .error (.tooManyDigits n) := by
  unfold entriesOfBytes
  split
  case h_1 => exact .inl ⟨_, rfl⟩
  case h_2 =>
    split
    case h_1 => exact .inl ⟨_, rfl⟩
    case h_2 => exact .inr ⟨_, rfl⟩
    case h_3 => exact .inl ⟨_, rfl⟩

theorem stored_failure {e : HistoryError} (he : h.stored d = .error e) :
    (∃ f, e = .file f) ∨ ∃ n, e = .tooManyDigits n := by
  unfold stored at he
  split at he
  case h_1 f _ =>
    cases he
    exact .inl ⟨f, rfl⟩
  case h_2 => cases he
  case h_3 =>
    split at he
    case h_1 f _ =>
      cases he
      exact .inl ⟨f, rfl⟩
    case h_2 bytes _ =>
      rcases entriesOfBytes_cases bytes with ⟨raw, hs⟩ | ⟨n, hs⟩
      · cases hs.symm.trans he
      · cases hs.symm.trans he
        exact .inr ⟨n, rfl⟩

theorem entries_failure {e : HistoryError} (he : h.entries d = .error e) :
    (∃ f, e = .file f) ∨ ∃ n, e = .tooManyDigits n := by
  rw [entries] at he
  cases hs : h.stored d
  case ok =>
    rw [hs] at he
    cases he
  case error =>
    rw [hs] at he
    cases he
    exact stored_failure hs

theorem Writable.stored_cases (hw : h.Writable d) :
    (∃ raw, h.stored d = .ok raw) ∨ ∃ n, h.stored d = .error (.tooManyDigits n) := by
  rcases hw.cases with hl | ⟨place, draft, hr⟩
  case inl => exact .inl ⟨[], stored_of_notFound hl⟩
  rw [stored_of_reaches hr.path.toReaches]
  cases d.file? place
  case none => exact .inl ⟨[], rfl⟩
  case some bytes => exact entriesOfBytes_cases bytes

theorem Writable.exists_entries (hw : h.Writable d)
    (hd : ∀ n, h.entries d ≠ .error (.tooManyDigits n)) : ∃ rs, h.entries d = .ok rs := by
  rcases hw.stored_cases with ⟨raw, hs⟩ | ⟨n, hs⟩
  · exact ⟨raw.filterMap report?, by rw [entries, hs]; rfl⟩
  · exact absurd (by rw [entries, hs]; rfl) (hd n)

end Stored

section Changes

-- A report is written beside the history's file, and put in its place, if all that is kept can be
-- written.
theorem save_eq (hs : h.stored d = .ok raw) (hl : h.limit = .ok limit) {r : Report Json}
    (hk : (document (keep limit r raw)).hasLong = false) :
    h.save d r = Change.mapError .file
      ((d.deposit h.draft (encode (keep limit r raw))).next fun d => d.move h.draft h.path) := by
  simp only [History.save, hs, hl, hk, Json.prettyUpTo_eq hk, Change.mapError_next, encode]
  rfl

theorem exchange_of_done (hs : h.stored d = .ok raw) (hl : h.limit = .ok limit) {r : Report Json}
    (hd : h.save d r = .done d') :
    ((d.deposit h.draft (encode (keep limit r raw))).next fun d => d.move h.draft h.path) =
      .done d' := by
  cases hk : (document (keep limit r raw)).hasLong
  case false =>
    rw [save_eq hs hl hk] at hd
    exact Change.of_mapError_done hd
  case true =>
    simp only [History.save, hs, hl, hk, if_true] at hd
    have hn := (Change.next_of_done (congrArg Change.failure? hd)).2
    cases hd.symm.trans hn

theorem exchange_of_save {r : Report Json} (hd : h.save d r = .done d') :
    ∃ raw limit, h.stored d = .ok raw ∧ h.limit = .ok limit ∧
      ((d.deposit h.draft (encode (keep limit r raw))).next fun d => d.move h.draft h.path) =
        .done d' := by
  cases hs : h.stored d
  case error =>
    rw [History.save, hs] at hd
    cases hd
  case ok raw =>
  cases hl : h.limit
  case error =>
    rw [History.save, hs, hl] at hd
    cases hd
  case ok limit => exact ⟨raw, limit, rfl, rfl, exchange_of_done hs hl hd⟩

theorem changesOnly_of_save {r : Report Json} (hd : h.save d r = .done d') :
    Directory.ChangesOnly [h.draft, h.path] d d' := by
  obtain ⟨raw, limit, -, -, hd⟩ := exchange_of_save hd
  exact Directory.changesOnly_of_exchange Path.noNul_of_extend hd

-- No draft is left behind by a report that is saved.
theorem absent_draft_of_save {r : Report Json} (hd : h.save d r = .done d')
    (hl : d'.locate h.draft = .ok draft) : d'.file? draft = none := by
  obtain ⟨raw, limit, -, -, hd⟩ := exchange_of_save hd
  exact Directory.absent_of_exchange Path.noNul_of_extend hd hl fun _ hl' =>
    Directory.locate_draft_ne hl' hl

theorem clear_failure {e : HistoryError} (he : (h.clear d).failure? = some e) :
    ∃ f, e = .file f :=
  have ⟨f, _, he⟩ := Option.map_eq_some_iff.mp he
  ⟨f, he.symm⟩

theorem save_of_done (hs : h.stored d = .ok raw) (hl : h.limit = .ok limit) {r : Report Json}
    (hd : h.save d r = .done d') :
    ∃ place, d'.Reaches h.path place ∧
      d'.file? place = some (encode (keep limit r raw)) := by
  have he := exchange_of_done hs hl hd
  obtain ⟨d'', place, hc, hr, hf⟩ :=
    Directory.exchange_of_done (p := h.draft) Path.noNul_of_extend (congrArg Change.failure? he)
  cases hc.symm.trans he
  exact ⟨place, hr, hf⟩

-- A history that is cleared has no file.
theorem clear_of_done (hs : d.Single h.path) (hd : h.clear d = .done d') :
    d'.Single h.path ∧ h.stored d' = .ok [] := by
  have hd : d.remove h.path = .done d' := Change.of_mapError_done hd
  obtain ⟨d'', hc, hr⟩ := Directory.remove_of_done hs (congrArg Change.failure? hd)
  cases hd.symm.trans hc
  rcases hr with ⟨rfl, hl⟩ | ⟨place, hr, hf⟩
  · exact ⟨hs, stored_of_notFound hl⟩
  · exact ⟨hr.single, by rw [stored_of_reaches hr, hf]⟩

theorem Ready.vacant (hr : h.Ready d place draft) {p : Path} (hp : p = place ∨ p = draft) :
    d.isFolder p = false ∧ p.parts.length = draft.parts.length ∧ d.isFolder p.parent := by
  have ⟨hl, he, ho⟩ := hr.beside
  rcases hp with rfl | rfl
  · exact ⟨hr.path.vacant, hl, he ▸ ho⟩
  · exact ⟨hr.draft.vacant, rfl, ho⟩

-- The places stay as they are when one of the files is written or removed.
theorem Ready.set (hr : h.Ready d place draft) {p : Path} (hp : p = place ∨ p = draft)
    (bytes : ByteArray) : h.Ready (d.set p bytes) place draft := by
  have ⟨hv, hl, _⟩ := hr.vacant hp
  have hk : d.Keeps (d.set p bytes) := Directory.keeps_set hv
  exact ⟨hr.named, hr.path.mono hk (Directory.vacant_set hr.path.vacant (hr.beside.1.trans hl.symm)),
    hr.draft.mono hk (Directory.vacant_set hr.draft.vacant hl.symm)⟩

theorem Ready.erase (hr : h.Ready d place draft) {p : Path} (hp : p = place ∨ p = draft) :
    h.Ready (d.erase p) place draft := by
  have ⟨_, _, ho⟩ := hr.vacant hp
  have hk : d.Keeps (d.erase p) := Directory.keeps_erase
  exact ⟨hr.named, hr.path.mono hk (Directory.vacant_erase hr.path.vacant ho),
    hr.draft.mono hk (Directory.vacant_erase hr.draft.vacant ho)⟩

theorem Ready.move (hr : h.Ready d place draft) (hf : d.file? draft = some bytes) :
    d.move h.draft h.path = .done ((d.erase draft).set place bytes) := by
  have ⟨name, hn⟩ := hr.named
  have hlast : h.path.parts.getLast? ≠ some ".." := by
    rw [hn.1, List.getLast?_concat]
    rintro ⟨rfl⟩
    exact hn.2 (by decide)
  simp [Directory.move, hr.draft.located, hr.path.located, hf, hlast, hr.path.vacant]

-- Where the files of a history can be written, they are, and can be written again.
theorem Writable.exchange (hw : h.Writable d) (bytes : ByteArray) :
    ∃ d', ((d.deposit h.draft bytes).next fun d => d.move h.draft h.path) = .done d' ∧
      h.Writable d' := by
  obtain ⟨d₁, place, draft, hm, _, hr⟩ := hw.exists_ready
  obtain ⟨name, hn⟩ := hr.named
  have hd : d.deposit h.draft bytes = .done (d₁.set draft bytes) := by
    rw [Directory.deposit, History.draft, Path.parent_extend, hm, Change.next_done]
    exact hr.draft.write bytes
  have hmove := (hr.set (.inr rfl) bytes).move (Directory.file?_set_self ..)
  have hr' := ((hr.set (.inr rfl) bytes).erase (.inr rfl)).set (.inl rfl) bytes
  refine ⟨_, ?_, hr'.writable⟩
  rw [hd, Change.next_done, hmove]

theorem Writable.clear (hw : h.Writable d) : ∃ d', h.clear d = .done d' ∧ h.Writable d' := by
  rcases hw.cases with hl | ⟨place, draft, hr⟩
  case inl =>
    obtain ⟨_, _, _, _, _, hr⟩ := hw.exists_ready
    exact ⟨d, by simp [History.clear, Directory.remove, hr.path.noNul, hl], hw⟩
  have hn := hr.path.noNul
  have hl := hr.path.located
  cases hf : d.file? place
  case none =>
    exact ⟨d, by simp [History.clear, Directory.remove, hn, hl, hf, hr.path.vacant], hw⟩
  case some =>
    exact ⟨d.erase place, by simp [History.clear, Directory.remove, hn, hl, hf],
      (hr.erase (.inl rfl)).writable⟩

end Changes

end History

end Enunciado
