import Enunciado.Proofs.Json.Fields
import Enunciado.Proofs.Storage.Path
import Enunciado.Proofs.Traversal
import Enunciado.Storage.Change

namespace Enunciado

variable {d d' d'' : Directory} {p q place place' folder : Path} {bytes : ByteArray}

-- A change that is finished has finished what comes first.
theorem Change.next_of_done {ε : Type} {c : Change ε} {f : Directory → Change ε}
    (h : (c.next f).failure? = none) : c.failure? = none ∧ c.next f = f c.directory := by
  unfold Change.next at h ⊢
  cases hc : c.failure?
  case none => exact ⟨rfl, rfl⟩
  case some =>
    rw [hc] at h
    exact absurd (hc.symm.trans h) nofun

theorem Change.of_mapError_done {ε ε' : Type} {c : Change ε} {f : ε → ε'} {d : Directory}
    (h : c.mapError f = done d) : c = done d :=
  congrArg₂ mk (congrArg directory h) (Option.map_eq_none_iff.mp (congrArg failure? h))

namespace Directory

section Contents

theorem set_set (d : Directory) (place : Path) (bytes bytes' : ByteArray) :
    (d.set place bytes').set place bytes = d.set place bytes :=
  congrArg (Directory.mk · d.folders) (put_put ..)

theorem file?_erase_self : (d.erase place).file? place = none :=
  (lookup_filter_ne place place d.files).trans (if_pos rfl)

theorem file?_erase_of_ne (h : q ≠ place) : (d.erase place).file? q = d.file? q :=
  (lookup_filter_ne q place d.files).trans (if_neg h)

theorem isFolder_iff :
    d.isFolder q ↔ (q.parts.all (· = "..") ∨ q = .root) ∨
      (∃ r ∈ d.folders, r = q ∨ q.isAbove r) ∨ ∃ r ∈ d.files.map Prod.fst, q.isAbove r := by
  simp [isFolder, or_assoc]

theorem isFolder_set_iff : (d.set place bytes).isFolder q ↔ d.isFolder q ∨ q.isAbove place := by
  have hor (a b c e : Prop) : a ∨ b ∨ c ∨ e ↔ (a ∨ b ∨ e) ∨ c := by tauto
  simp only [isFolder_iff, set, mem_keys_put_iff, or_and_right, exists_or, exists_eq_left]
  exact hor ..

-- The folder of a file that is gone stays, as do those on the way to it.
theorem isFolder_erase (h : d.isFolder q) : (d.erase place).isFolder q := by
  rw [isFolder_iff] at h ⊢
  rcases h with h | ⟨r, hr, h⟩ | ⟨r, hr, h⟩
  · exact .inl h
  · exact .inr (.inl ⟨r, List.mem_append_left _ hr, h⟩)
  · by_cases hp : r = place
    case pos =>
      exact .inr (.inl ⟨place.parent, by simp [erase], Path.parent_of_isAbove (hp ▸ h)⟩)
    case neg =>
      obtain ⟨f, hf, rfl⟩ := List.mem_map.mp hr
      exact .inr (.inr ⟨f.1, List.mem_map_of_mem (List.mem_filter.mpr ⟨hf, by simpa using hp⟩), h⟩)

theorem isFolder_of_erase (h : (d.erase place).isFolder q) :
    d.isFolder q ∨ place.parent = q ∨ q.isAbove place.parent := by
  rw [isFolder_iff] at h ⊢
  rcases h with h | ⟨r, hr, h⟩ | ⟨r, hr, h⟩
  · exact .inl (.inl h)
  · rcases List.mem_append.mp hr with hr | hr
    · exact .inl (.inr (.inl ⟨r, hr, h⟩))
    · exact .inr (List.mem_singleton.mp hr ▸ h)
  · refine .inl (.inr (.inr ⟨r, ?_, h⟩))
    obtain ⟨f, hf, rfl⟩ := List.mem_map.mp hr
    exact List.mem_map_of_mem (List.mem_of_mem_filter hf)

theorem vacant_set (hv : d.isFolder q = false) (hl : q.parts.length = p.parts.length) :
    (d.set p bytes).isFolder q = false := by
  rw [← Bool.not_eq_true, isFolder_set_iff]
  simp [hv, Path.not_isAbove (Nat.le_of_eq hl.symm)]

-- What is on the way to a folder is a folder.
theorem isFolder_of_isAbove (h : d.isFolder p) (ha : q.isAbove p) : d.isFolder q := by
  have ⟨⟨rest, hp⟩, hl⟩ := Path.isAbove_iff.mp ha
  rw [isFolder_iff] at h ⊢
  rcases h with (h | rfl) | ⟨r, hr, h⟩ | ⟨r, hr, h⟩
  · rw [← hp, List.all_append, Bool.and_eq_true] at h
    exact .inl (.inl h.1)
  · have hq : q.parts = [] := List.length_eq_zero_iff.mp (Nat.lt_one_iff.mp hl)
    exact .inl (.inl (hq ▸ rfl))
  · refine .inr (.inl ⟨r, hr, .inr ?_⟩)
    rcases h with rfl | h
    · exact ha
    · exact Path.isAbove_trans ha h
  · exact .inr (.inr ⟨r, hr, Path.isAbove_trans ha h⟩)

-- A file that is taken away from its folder was in the place of none.
theorem isFolder_erase_iff (hp : d.isFolder place.parent) :
    (d.erase place).isFolder q ↔ d.isFolder q := by
  refine ⟨fun h => ?_, isFolder_erase⟩
  rcases isFolder_of_erase h with h | rfl | h
  · exact h
  · exact hp
  · exact isFolder_of_isAbove hp h

theorem isFolder_parent (hf : (d.file? place).isSome) (hv : d.isFolder place = false) :
    d.isFolder place.parent := by
  have hn : place.parts ≠ [] := by
    intro hn
    have hw : d.isFolder place := isFolder_iff.mpr (.inl (.inl (hn ▸ rfl)))
    exact absurd hw (Bool.eq_false_iff.mp hv)
  obtain ⟨bytes, hf⟩ := Option.isSome_iff_exists.mp hf
  have ha : place.parent.isAbove place :=
    Path.isAbove_iff.mpr ⟨List.dropLast_prefix _, by
      have := List.length_pos_iff.mpr hn
      rw [Path.parent, List.length_dropLast]
      omega⟩
  exact isFolder_iff.mpr (.inr (.inr ⟨place, List.mem_map_of_mem (mem_of_lookup hf), ha⟩))

theorem vacant_erase (hv : d.isFolder q = false) (hp : d.isFolder place.parent) :
    (d.erase place).isFolder q = false := by
  rwa [← Bool.not_eq_true, isFolder_erase_iff hp, Bool.not_eq_true]

end Contents

section Open

-- A folder that no file is in the place of.
def IsOpen (d : Directory) (place : Path) : Prop :=
  d.file? place = none ∧ d.isFolder place

-- What is open stays open.
def Keeps (d d' : Directory) : Prop :=
  ∀ place, d.IsOpen place → d'.IsOpen place

-- Folders may be new, but no file is.
structure Widens (d d' : Directory) : Prop where
  files   : d'.files = d.files
  folders : ∀ place, d.isFolder place → d'.isFolder place

theorem Widens.refl (d : Directory) : d.Widens d :=
  ⟨rfl, fun _ => id⟩

theorem Widens.trans (h : d.Widens d') (h' : d'.Widens d'') : d.Widens d'' :=
  ⟨h'.files.trans h.files, fun place hp => h'.folders place (h.folders place hp)⟩

theorem Widens.file? (h : d.Widens d') (place : Path) : d'.file? place = d.file? place := by
  rw [Directory.file?, h.files, Directory.file?]

theorem Widens.keeps (h : d.Widens d') : d.Keeps d' :=
  fun place ho => ⟨(h.file? place).trans ho.1, h.folders place ho.2⟩

theorem keeps_set (h : d.isFolder place = false) : d.Keeps (d.set place bytes) := by
  intro q ⟨hq, ho⟩
  have hne : place ≠ q := by
    rintro rfl
    rw [h] at ho
    cases ho
  exact ⟨(file?_set_of_ne d hne bytes).trans hq, isFolder_set_iff.mpr (.inl ho)⟩

theorem keeps_erase : d.Keeps (d.erase place) := by
  intro q ⟨hq, ho⟩
  refine ⟨?_, isFolder_erase ho⟩
  by_cases h : q = place
  case pos => rw [h, file?_erase_self]
  case neg => rw [file?_erase_of_ne h, hq]

end Open

section Locate

theorem isOpen_of_enter {name : String} (h : d.enter folder name = .ok place) :
    d.IsOpen folder := by
  unfold enter at h
  split at h
  case isTrue => cases h
  case isFalse hf =>
    split at h
    case isTrue => cases h
    case isFalse ho => exact ⟨by simpa using hf, by simpa using ho⟩

theorem enter_eq_ok {name : String} (h : d.enter folder name = .ok place) :
    (name = ".." ∧ place = folder.up) ∨ (name ∈ ["/", "//"] ∧ place = .root) ∨
      (name ∉ ["..", "/", "//"] ∧ place = ⟨folder.parts ++ [name]⟩) := by
  have ⟨hf, ho⟩ := isOpen_of_enter h
  simp only [enter, hf, ho, Option.isSome_none, Bool.false_eq_true, if_false, Bool.not_true] at h
  split at h
  case isTrue hn =>
    cases h
    exact .inl ⟨hn, rfl⟩
  split at h
  case isTrue hn =>
    cases h
    exact .inr (.inl ⟨by simpa using hn, rfl⟩)
  split at h
  case isTrue => cases h
  case isFalse hu hr _ =>
    cases h
    exact .inr (.inr ⟨by simpa [hu] using hr, rfl⟩)

theorem parts_of_enter {name : String} (hn : name ∉ ["..", "/", "//"])
    (h : d.enter folder name = .ok place) :
    place = ⟨folder.parts ++ [name]⟩ := by
  simp only [List.mem_cons, List.not_mem_nil, or_false, not_or] at hn
  rcases enter_eq_ok h with ⟨rfl, -⟩ | ⟨hr, -⟩ | ⟨-, hp⟩
  · exact absurd rfl hn.1
  · simp [hn] at hr
  · exact hp

-- Where a name leads in an open folder does not depend on what else there is.
theorem enter_congr {name : String} (h : d.IsOpen folder) (h' : d'.IsOpen folder) :
    d'.enter folder name = d.enter folder name := by
  simp [enter, h.1, h.2, h'.1, h'.2]

theorem Keeps.enter_eq_ok {name : String} (hk : d.Keeps d')
    (h : d.enter folder name = .ok place) : d'.enter folder name = .ok place := by
  have ho := isOpen_of_enter h
  rw [enter_congr ho (hk folder ho), h]

theorem Keeps.foldlM_eq_ok {names : List String} (hk : d.Keeps d')
    (h : names.foldlM d.enter folder = .ok place) :
    names.foldlM d'.enter folder = .ok place := by
  induction names generalizing folder
  case nil => exact h
  case cons name names hi =>
    rw [List.foldlM_cons, bind_eq_ok_iff] at h ⊢
    obtain ⟨next, hn, h⟩ := h
    exact ⟨next, hk.enter_eq_ok hn, hi h⟩

theorem Keeps.locate_eq_ok (hk : d.Keeps d') (h : d.locate p = .ok place) :
    d'.locate p = .ok place := by
  unfold locate at h ⊢
  split at h
  case isTrue => cases h
  case isFalse hl => rw [if_neg hl, hk.foldlM_eq_ok h]

variable {f : FileFault}

-- New folders help only where one was missing.
theorem Widens.enter_eq_error {name : String} (hw : d.Widens d')
    (h : d.enter folder name = .error f) (hf : f ≠ .notFound) :
    d'.enter folder name = .error f := by
  by_cases ho : d.IsOpen folder
  case pos => rw [enter_congr ho (hw.keeps folder ho), h]
  case neg =>
    unfold enter at h ⊢
    rw [hw.file?]
    split at h
    case isTrue hs => rw [if_pos hs, h]
    case isFalse hs =>
      have hn : d.isFolder folder = false := by
        have : d.file? folder = none := by simpa using hs
        simpa [IsOpen, this] using ho
      simp only [hn, Bool.not_false, if_true, Except.error.injEq] at h
      exact absurd h.symm hf

theorem Widens.foldlM_eq_error {names : List String} (hw : d.Widens d')
    (h : names.foldlM d.enter folder = .error f) (hf : f ≠ .notFound) :
    names.foldlM d'.enter folder = .error f := by
  induction names generalizing folder
  case nil => cases h
  case cons name names hi =>
    rw [List.foldlM_cons] at h ⊢
    cases hn : d.enter folder name
    case error =>
      rw [hn] at h
      cases h
      rw [hw.enter_eq_error hn hf]
      rfl
    case ok next =>
      rw [hn] at h
      rw [hw.keeps.enter_eq_ok hn]
      exact hi h

theorem Widens.locate_eq_error (hw : d.Widens d') (h : d.locate p = .error f)
    (hf : f ≠ .notFound) : d'.locate p = .error f := by
  unfold locate at h ⊢
  split at h
  case isTrue hl => rw [if_pos hl, h]
  case isFalse hl => rw [if_neg hl, hw.foldlM_eq_error h hf]

-- The last name of a path leads on from where its folder is.
theorem enter_of_locate {names : List String} {name : String} (hp : p.parts = names ++ [name])
    (h : d.locate p = .ok place) :
    ∃ folder, names.foldlM d.enter ⟨[]⟩ = .ok folder ∧ d.enter folder name = .ok place := by
  unfold locate at h
  split at h
  case isTrue => cases h
  case isFalse =>
    rw [hp, List.foldlM_append, bind_eq_ok_iff] at h
    simpa using h

theorem foldlM_of_locate (h : d.locate p = .ok place) :
    p.parts.foldlM d.enter ⟨[]⟩ = .ok place := by
  unfold locate at h
  split at h
  case isTrue => cases h
  case isFalse => exact h

-- How long a path is does not depend on the directory.
theorem locate_of_foldlM (hl : d'.locate p = .ok place')
    (h : p.parts.foldlM d.enter ⟨[]⟩ = .ok place) : d.locate p = .ok place := by
  unfold locate at hl ⊢
  split at hl
  case isTrue => cases hl
  case isFalse hp => rw [if_neg hp, h]

end Locate

section Write

-- The path leads to this place, which is no folder's.
structure Reaches (d : Directory) (p place : Path) : Prop where
  noNul   : Path.hasNul p.toString = false
  located : d.locate p = .ok place
  vacant  : d.isFolder place = false

-- Besides, the folder that the file goes into is open.
structure Ready (d : Directory) (p place : Path) : Prop extends d.Reaches p place where
  parentNoNul : Path.hasNul p.parent.toString = false
  parent      : ∃ folder, d.locate p.parent = .ok folder ∧ d.IsOpen folder

theorem makeFolder_of_isFolder (hn : Path.hasNul q.toString = false)
    (hl : d.locate q = .ok folder) (hf : d.isFolder folder) : d.makeFolder q = .done d := by
  have ha : d.addFolder q = .ok d := by simp [addFolder, hl, hf]
  rw [makeFolder, hn, addFolders, ha]
  rfl

theorem Reaches.mono (h : d.Reaches p place) (hk : d.Keeps d') (hv : d'.isFolder place = false) :
    d'.Reaches p place :=
  ⟨h.noNul, hk.locate_eq_ok h.located, hv⟩

theorem Reaches.write (h : d.Reaches p place) (bytes : ByteArray) :
    d.write p bytes = .done (d.set place bytes) := by
  simp [Directory.write, h.noNul, h.located, h.vacant]

-- The path leads to the same place when the file there is written.
theorem Reaches.set (h : d.Reaches p place) (bytes : ByteArray) :
    (d.set place bytes).Reaches p place :=
  h.mono (keeps_set h.vacant) (vacant_set h.vacant rfl)

theorem Ready.deposit (h : d.Ready p place) (bytes : ByteArray) :
    d.deposit p bytes = .done (d.set place bytes) := by
  obtain ⟨folder, hl, _, ho⟩ := h.parent
  rw [Directory.deposit, makeFolder_of_isFolder h.parentNoNul hl ho, Change.next_done, h.write]

theorem Ready.mono (h : d.Ready p place) (hk : d.Keeps d') (hv : d'.isFolder place = false) :
    d'.Ready p place where
  toReaches := h.toReaches.mono hk hv
  parentNoNul := h.parentNoNul
  parent :=
    have ⟨folder, hl, ho⟩ := h.parent
    ⟨folder, hk.locate_eq_ok hl, hk folder ho⟩

theorem addFolder_eq_ok (h : d.addFolder p = .ok d') :
    d.Widens d' ∧ ∃ folder, d'.locate p = .ok folder ∧ d'.isFolder folder := by
  unfold addFolder at h
  split at h
  case h_1 => cases h
  case h_2 place hl =>
    split at h
    case isTrue ho =>
      cases h
      exact ⟨.refl d, place, hl, ho⟩
    split at h
    case isTrue => cases h
    case isFalse =>
      cases h
      have hw : d.Widens { d with folders := d.folders ++ [place] } := by
        refine ⟨rfl, fun q hq => ?_⟩
        rw [isFolder_iff] at hq ⊢
        exact hq.imp id (.imp (fun ⟨r, hr, h⟩ => ⟨r, List.mem_append_left _ hr, h⟩) id)
      refine ⟨hw, place, hw.keeps.locate_eq_ok hl, ?_⟩
      rw [isFolder_iff]
      exact .inr (.inl ⟨place, by simp, .inl rfl⟩)

theorem addFolders_of_done (h : (d.addFolders p).failure? = none) :
    d.Widens (d.addFolders p).directory ∧
      ∃ folder, (d.addFolders p).directory.locate p = .ok folder ∧
        (d.addFolders p).directory.isFolder folder := by
  fun_induction addFolders d p
  case case1 ha => exact addFolder_eq_ok ha
  case case2 p _ _ _ hi =>
    have ⟨hp, hn⟩ := Change.next_of_done h
    rw [hn] at h ⊢
    have hw := (hi hp).1
    cases ha : (d.addFolders p.parent).directory.addFolder p
    case error =>
      simp only [ha] at h
      cases h
    case ok d' =>
      have ⟨hw', hf⟩ := addFolder_eq_ok ha
      exact ⟨hw.trans hw', hf⟩
  case case3 => cases h

theorem makeFolder_of_done (h : (d.makeFolder q).failure? = none) :
    Path.hasNul q.toString = false ∧ d.Widens (d.makeFolder q).directory ∧
      ∃ folder, (d.makeFolder q).directory.locate q = .ok folder ∧
        (d.makeFolder q).directory.isFolder folder := by
  unfold makeFolder at h ⊢
  split at h
  case isTrue => cases h
  case isFalse hn =>
    rw [if_neg hn]
    exact ⟨by simpa using hn, addFolders_of_done h⟩

theorem write_of_done (h : (d.write p bytes).failure? = none) :
    ∃ place, d.Reaches p place ∧ d.write p bytes = .done (d.set place bytes) := by
  have ⟨place, hr⟩ : ∃ place, d.Reaches p place := by
    unfold write at h
    split at h
    case isTrue => cases h
    case isFalse hn =>
      split at h
      case h_1 => cases h
      case h_2 place hl =>
        split at h
        case isTrue => cases h
        case isFalse hv => exact ⟨place, by simpa using hn, hl, by simpa using hv⟩
  exact ⟨place, hr, hr.write bytes⟩

theorem move_of_done (h : (d.move p q).failure? = none) :
    ∃ place goal bytes, d.locate p = .ok place ∧ d.file? place = some bytes ∧
      d.locate q = .ok goal ∧ d.isFolder goal = false ∧
      d.move p q = .done ((d.erase place).set goal bytes) := by
  unfold move at h ⊢
  dsimp only at h ⊢
  split at h
  case h_1 => cases h
  case h_2 => cases h
  case h_3 place goal hp hq =>
    split at h
    case h_1 => cases h
    case h_2 bytes hf =>
      split at h
      case isTrue => cases h
      split at h
      case isTrue => cases h
      case isFalse hl hv =>
        refine ⟨place, goal, bytes, hp, hf, hq, by simpa using hv, ?_⟩
        simp only [if_neg hl, if_neg hv]

theorem deposit_of_done (h : (d.deposit p bytes).failure? = none) :
    ∃ d' place, d.makeFolder p.parent = .done d' ∧ d.Widens d' ∧ d'.Reaches p place ∧
      d.deposit p bytes = .done (d'.set place bytes) := by
  have ⟨hm, hw⟩ := Change.next_of_done h
  rw [deposit] at h ⊢
  rw [hw] at h ⊢
  obtain ⟨place, hr, hp⟩ := write_of_done h
  exact ⟨_, place, congrArg (Change.mk _) hm, (makeFolder_of_done hm).2.1, hr, hp⟩

-- A file that is written and then moved is where the path leads; the folders for it may be new.
theorem exchange_places (hn : Path.hasNul p.toString = false → Path.hasNul q.toString = false)
    (h : ((d.deposit p bytes).next fun d => d.move p q).failure? = none) :
    ∃ d' draft place, d.Widens d' ∧ d'.Reaches p draft ∧
      d'.Keeps ((d'.set draft bytes).erase draft) ∧
      ((d'.set draft bytes).erase draft).Reaches q place ∧
      ((d.deposit p bytes).next fun d => d.move p q) =
        .done (((d'.set draft bytes).erase draft).set place bytes) := by
  have ⟨hdone, hmove⟩ := Change.next_of_done h
  rw [hmove] at h ⊢
  obtain ⟨d', draft, -, hwide, hr, hw⟩ := deposit_of_done hdone
  rw [hw] at h ⊢
  obtain ⟨place, goal, bytes', hp, hf, hq, hv, hm⟩ := move_of_done h
  have hk : d'.Keeps (d'.set draft bytes) := keeps_set hr.vacant
  obtain rfl : draft = place := Except.ok.inj ((hk.locate_eq_ok hr.located).symm.trans hp)
  obtain rfl : bytes = bytes' := Option.some.inj ((file?_set_self ..).symm.trans hf)
  have hd : (d'.set draft bytes).isFolder draft = false := vacant_set hr.vacant rfl
  have he := vacant_erase hv (isFolder_parent (by rw [hf]; rfl) hd)
  exact ⟨d', draft, goal, hwide, hr, fun q ho => keeps_erase q (hk q ho),
    ⟨hn hr.noNul, keeps_erase.locate_eq_ok hq, he⟩, hm⟩

theorem exchange_of_done (hn : Path.hasNul p.toString = false → Path.hasNul q.toString = false)
    (h : ((d.deposit p bytes).next fun d => d.move p q).failure? = none) :
    ∃ d' place, ((d.deposit p bytes).next fun d => d.move p q) = .done d' ∧ d'.Reaches q place ∧
      d'.file? place = some bytes := by
  obtain ⟨_, _, place, -, -, -, hr, hd⟩ := exchange_places hn h
  exact ⟨_, place, hd, hr.set bytes, file?_set_self ..⟩

-- What a path leads to is a file or a folder, but not both.
def Single (d : Directory) (p : Path) : Prop :=
  ∀ place, d.locate p = .ok place → (d.file? place).isSome → d.isFolder place = false

theorem Reaches.single (h : d.Reaches p place) : d.Single p := by
  intro place' hl _
  obtain rfl : place = place' := Except.ok.inj (h.located.symm.trans hl)
  exact h.vacant

-- Where a file was removed, there is none.
theorem remove_of_done (hs : d.Single p) (h : (d.remove p).failure? = none) :
    ∃ d', d.remove p = .done d' ∧ (d' = d ∧ d.locate p = .error .notFound ∨
      ∃ place, d'.Reaches p place ∧ d'.file? place = none) := by
  unfold remove at h ⊢
  split at h
  case isTrue => cases h
  case isFalse hn =>
    have hn' : Path.hasNul p.toString = false := by simpa using hn
    rw [if_neg hn]
    split at h
    case h_1 hl => exact ⟨d, rfl, .inl ⟨rfl, hl⟩⟩
    case h_2 => cases h
    case h_3 place hl =>
      split at h
      case isTrue hf =>
        have hr : d.Reaches p place := ⟨hn', hl, hs place hl hf⟩
        have hv := vacant_erase hr.vacant (isFolder_parent hf hr.vacant)
        exact ⟨_, if_pos hf, .inr ⟨place, hr.mono keeps_erase hv, file?_erase_self⟩⟩
      split at h
      case isTrue => cases h
      case isFalse hf hv =>
        refine ⟨d, (if_neg hf).trans (if_neg hv), .inr ⟨place, ⟨hn', hl, ?_⟩, ?_⟩⟩
        · simpa using hv
        · simpa using hf

-- A file can be written where the path leads, whatever it holds; folders that are missing on the
-- way are made.
structure Accepts (d : Directory) (p : Path) : Prop where
  named  : ∃ name, p.EndsIn name
  writes : ∀ bytes, (d.deposit p bytes).failure? = none

-- Once the missing folders are made, the file is where the path leads.
theorem Accepts.ready (h : d.Accepts p) :
    ∃ d', d.makeFolder p.parent = .done d' ∧ d.Widens d' ∧ ∃ place, d'.Ready p place := by
  obtain ⟨name, hp, -⟩ := h.named
  have ⟨hm, hd⟩ := Change.next_of_done (h.writes .empty)
  have hw := h.writes .empty
  rw [Directory.deposit, hd] at hw
  have ⟨hpn, hwide, folder, hl, ho⟩ := makeFolder_of_done hm
  have ⟨place, hr, _⟩ := write_of_done hw
  have ⟨folder', hl', he⟩ := enter_of_locate hp hr.located
  -- The folder is open, since the last name leads on from it.
  obtain rfl : folder = folder' := Except.ok.inj ((foldlM_of_locate hl).symm.trans hl')
  exact ⟨_, congrArg (Change.mk _) hm, hwide, place,
    ⟨hr, hpn, folder, hl, isOpen_of_enter he⟩⟩

-- The file is in the folder, by its name.
theorem Ready.place_eq {name : String} (h : d.Ready p place) (hp : p.EndsIn name) :
    ∃ folder, d.locate p.parent = .ok folder ∧ place = ⟨folder.parts ++ [name]⟩ := by
  have ⟨folder, hl, ho⟩ := h.parent
  have ⟨folder', hl', he⟩ := enter_of_locate hp.1 h.located
  obtain rfl : folder = folder' := Except.ok.inj ((foldlM_of_locate hl).symm.trans hl')
  exact ⟨folder, hl, parts_of_enter hp.2 he⟩

theorem Ready.accepts (h : d.Ready p place) (hp : ∃ name, p.EndsIn name) : d.Accepts p :=
  ⟨hp, fun bytes => by rw [h.deposit]; rfl⟩

-- A file in the working folder can be written if its name is no folder's and is not too long.
theorem ready_of_name {name : String} (hn : Path.hasNul name = false) (hp : name ∉ ["..", "/", "//"])
    (hl : name.utf8ByteSize < nameLimit) (hr : d.file? ⟨[]⟩ = none)
    (hv : d.isFolder ⟨[name]⟩ = false) : d.Ready ⟨[name]⟩ ⟨[name]⟩ := by
  have hs : Path.toString ⟨[name]⟩ = name := Path.toString_name hp
  have ho : d.IsOpen ⟨[]⟩ := ⟨hr, rfl⟩
  have hlong : ¬pathLimit ≤ name.utf8ByteSize := by
    simp only [nameLimit, pathLimit] at hl ⊢
    omega
  have he : d.enter ⟨[]⟩ name = .ok ⟨[name]⟩ := by
    simp only [List.mem_cons, List.not_mem_nil, or_false, not_or] at hp
    simp [enter, ho.1, ho.2, hp, Nat.not_le.mpr hl]
  have hw : Path.hasNul (Path.toString ⟨[]⟩) = false := by simp [Path.hasNul, Path.toString]
  refine ⟨⟨hs.symm ▸ hn, ?_, hv⟩, hw, ⟨[]⟩, rfl, ho⟩
  rw [locate, hs, if_neg hlong, List.foldlM_cons, he]
  rfl

theorem deposit_of_long_name {name : String} (hn : Path.hasNul name = false)
    (hp : name ∉ ["..", "/", "//"]) (hl : nameLimit ≤ name.utf8ByteSize)
    (hr : d.file? ⟨[]⟩ = none) (bytes : ByteArray) :
    d.deposit ⟨[name]⟩ bytes = .failed d (.fault .nameTooLong name) := by
  have hs : Path.toString ⟨[name]⟩ = name := Path.toString_name hp
  have ho : d.isFolder ⟨[]⟩ := rfl
  have hm : d.makeFolder ⟨[]⟩ = .done d :=
    makeFolder_of_isFolder (by simp [Path.hasNul, Path.toString]) rfl ho
  have he : d.enter ⟨[]⟩ name = .error .nameTooLong := by
    simp only [List.mem_cons, List.not_mem_nil, or_false, not_or] at hp
    simp [enter, hr, ho, hp, hl]
  have hloc : d.locate ⟨[name]⟩ = .error .nameTooLong := by
    rw [locate, List.foldlM_cons, he]
    exact ite_self _
  rw [Directory.deposit, Path.parent, List.dropLast_singleton, hm, Change.next_done]
  simp [Directory.write, hs, hn, hloc]

end Write

end Directory

end Enunciado
