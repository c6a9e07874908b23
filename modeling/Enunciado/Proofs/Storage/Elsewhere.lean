import Enunciado.Proofs.Storage.Directory

namespace Enunciado.Directory

variable {d d' : Directory} {p q place draft folder x : Path} {bytes : ByteArray} {name : String}

section Names

theorem up_cases (p : Path) : p.up = ⟨p.parts ++ [".."]⟩ ∨ p.up.parts <+: p.parts := by
  unfold Path.up
  split
  case h_1 => exact .inl rfl
  case h_2 => exact .inl rfl
  case h_3 => exact .inr (List.prefix_refl _)
  case h_4 => exact .inr (List.dropLast_prefix _)

theorem length_enter_le (h : d.enter folder name = .ok place) :
    place.parts.length ≤ folder.parts.length + 1 := by
  rcases enter_eq_ok h with ⟨-, rfl⟩ | ⟨-, rfl⟩ | ⟨-, rfl⟩
  · rcases up_cases folder with h | h
    · simp [h]
    · have := h.length_le
      omega
  · simp [Path.root]
  · simp

theorem length_foldlM_le {names : List String} (h : names.foldlM d.enter folder = .ok place) :
    place.parts.length ≤ folder.parts.length + names.length := by
  induction names generalizing folder
  case nil =>
    cases h
    simp
  case cons name names hi =>
    rw [List.foldlM_cons, bind_eq_ok_iff] at h
    obtain ⟨next, hn, h⟩ := h
    have := length_enter_le hn
    have := hi h
    rw [List.length_cons]
    omega

theorem length_locate_le (h : d.locate p = .ok place) : place.parts.length ≤ p.parts.length := by
  simpa using length_foldlM_le (foldlM_of_locate h)

theorem isFolder_of_initial (h : d.isFolder p) (hq : q.parts <+: p.parts) : d.isFolder q := by
  rcases Nat.eq_or_lt_of_le hq.length_le with hl | hl
  · rwa [show q = p from congrArg Path.mk (hq.eq_of_length hl)]
  · exact isFolder_of_isAbove h (Path.isAbove_iff.mpr ⟨hq, hl⟩)

-- A file can only be where there is a folder for it.
theorem Reaches.isFolder_parent (h : d.Reaches p place) : d.isFolder place.parent := by
  have hv := Bool.eq_false_iff.mp h.vacant
  cases hl : p.parts.getLast?
  case none =>
    have hp := foldlM_of_locate h.located
    rw [List.getLast?_eq_none_iff.mp hl] at hp
    cases hp
    exact absurd rfl hv
  case some name =>
    have hp : p.parts = p.parts.dropLast ++ [name] := (List.dropLast_append_getLast? name hl).symm
    obtain ⟨folder, -, he⟩ := enter_of_locate hp h.located
    have ho := (isOpen_of_enter he).2
    have hparent (n : String) : (⟨folder.parts ++ [n]⟩ : Path).parent = folder := by
      simp [Path.parent]
    rcases enter_eq_ok he with ⟨-, rfl⟩ | ⟨-, rfl⟩ | ⟨-, rfl⟩
    · rcases up_cases folder with hu | hu
      · rwa [hu, hparent]
      · exact absurd (isFolder_of_initial ho hu) hv
    · exact absurd (isFolder_iff.mpr (.inl (.inr rfl))) hv
    · rwa [hparent]

-- The file beside a place is at another one.
theorem locate_draft_ne (h : d.locate p = .ok place)
    (h' : d.locate (p.extend ".tmp") = .ok draft) : draft ≠ place := by
  cases hl : p.parts.getLast?
  case none =>
    have hp : p.parts = [] := List.getLast?_eq_none_iff.mp hl
    have he : p.extend ".tmp" = ⟨[] ++ [".tmp"]⟩ := by rw [Path.extend, hl]; rfl
    obtain ⟨folder, -, hd⟩ := enter_of_locate (congrArg Path.parts he) h'
    have hlen := length_locate_le h
    rintro rfl
    rw [parts_of_enter (by decide) hd, hp] at hlen
    simp at hlen
  case some name =>
    have hp : p.parts = p.parts.dropLast ++ [name] := (List.dropLast_append_getLast? name hl).symm
    have he : p.extend ".tmp" = ⟨p.parts.dropLast ++ [name ++ ".tmp"]⟩ := by rw [Path.extend, hl]
    obtain ⟨folder, hf, hn⟩ := enter_of_locate hp h
    obtain ⟨folder', hf', hd⟩ := enter_of_locate (congrArg Path.parts he) h'
    obtain rfl : folder = folder' := Except.ok.inj (hf.symm.trans hf')
    have hne := Path.draft_not_mem name
    obtain rfl := parts_of_enter hne hd
    simp only [List.mem_cons, List.not_mem_nil, or_false, not_or] at hne
    rcases enter_eq_ok hn with ⟨-, rfl⟩ | ⟨-, rfl⟩ | ⟨-, rfl⟩
    · rcases up_cases folder with hu | hu
      · simp [hu, hne]
      · intro h
        have hlen := hu.length_le
        rw [← h, List.length_append, List.length_singleton] at hlen
        omega
    · cases folder with | mk parts => cases parts <;> simp [Path.root, hne]
    · simp

end Names

section Keeping

-- A file that is put into a folder makes no folder.
theorem isFolder_set (hp : d.isFolder place.parent) (q : Path) :
    (d.set place bytes).isFolder q = d.isFolder q := by
  rw [Bool.eq_iff_iff, isFolder_set_iff]
  refine or_iff_left_of_imp fun ha => ?_
  rcases Path.parent_of_isAbove ha with rfl | ha
  · exact hp
  · exact isFolder_of_isAbove hp ha

theorem keeps_of_set (hp : d.isFolder place.parent) : (d.set place bytes).Keeps d := by
  intro q ⟨hf, ho⟩
  have hne : place ≠ q := by
    rintro rfl
    rw [file?_set_self] at hf
    cases hf
  exact ⟨(file?_set_of_ne d hne bytes).symm.trans hf, isFolder_set hp q ▸ ho⟩

theorem isOpen_of_enter_eq_error {f : FileFault} (h : d.enter folder name = .error f)
    (hn : f ≠ .notFound) (hf : f ≠ .notFolder) : d.IsOpen folder := by
  unfold enter at h
  split at h
  case isTrue =>
    cases h
    exact absurd rfl hf
  case isFalse hs =>
    split at h
    case isTrue =>
      cases h
      exact absurd rfl hn
    case isFalse ho => exact ⟨by simpa using hs, by simpa using ho⟩

variable {r : Except FileFault Path}

-- Where folders stay open a path leads to the same place, or has the same fault, unless the fault
-- is that a folder is not there.
theorem Keeps.foldlM_eq {names : List String} (hk : d.Keeps d')
    (h : names.foldlM d.enter folder = r) (hn : r ≠ .error .notFound)
    (hf : r ≠ .error .notFolder) : names.foldlM d'.enter folder = r := by
  induction names generalizing folder
  case nil => exact h
  case cons name names hi =>
    rw [List.foldlM_cons] at h ⊢
    cases he : d.enter folder name
    case ok next =>
      rw [he] at h
      rw [hk.enter_eq_ok he]
      exact hi h
    case error f =>
      rw [he] at h
      change .error f = r at h
      subst h
      have ho := isOpen_of_enter_eq_error he (fun h => hn (h ▸ rfl)) (fun h => hf (h ▸ rfl))
      rw [enter_congr ho (hk folder ho), he]
      rfl

theorem Keeps.locate_eq (hk : d.Keeps d') (h : d.locate p = r) (hn : r ≠ .error .notFound)
    (hf : r ≠ .error .notFolder) : d'.locate p = r := by
  unfold locate at h ⊢
  split at h
  case isTrue hl => rw [if_pos hl, h]
  case isFalse hl => rw [if_neg hl, hk.foldlM_eq h hn hf]

end Keeping

section Folders

-- The folders that are made for a path are no longer than it.
theorem isFolder_addFolder (h : d.addFolder q = .ok d') (hl : q.parts.length < x.parts.length) :
    d'.isFolder x = d.isFolder x := by
  unfold addFolder at h
  split at h
  case h_1 => cases h
  case h_2 place hp =>
    split at h
    case isTrue => cases h; rfl
    split at h
    case isTrue => cases h
    case isFalse =>
      cases h
      have hlen := Nat.lt_of_le_of_lt (length_locate_le hp) hl
      have hne : place ≠ x := by
        rintro rfl
        exact absurd hlen (Nat.lt_irrefl _)
      simp [isFolder, hne, Path.not_isAbove hlen.le]

theorem isFolder_addFolders (h : (d.addFolders q).failure? = none)
    (hl : q.parts.length < x.parts.length) :
    (d.addFolders q).directory.isFolder x = d.isFolder x := by
  fun_induction addFolders d q
  case case1 ha => exact isFolder_addFolder ha hl
  case case2 q _ _ _ hi =>
    obtain ⟨hp, hn⟩ := Change.next_of_done h
    rw [hn] at h ⊢
    have hlp : q.parent.parts.length < x.parts.length := by
      rw [Path.parent, List.length_dropLast]
      omega
    rw [← hi hp hlp]
    cases ha : (d.addFolders q.parent).directory.addFolder q
    case error =>
      simp only [ha] at h
      cases h
    case ok => exact isFolder_addFolder ha hl
  case case3 => cases h

theorem isFolder_makeFolder (h : d.makeFolder q = .done d') (hl : q.parts.length < x.parts.length) :
    d'.isFolder x = d.isFolder x := by
  unfold makeFolder at h
  split at h
  case isTrue => cases h
  case isFalse =>
    have ha := isFolder_addFolders (congrArg Change.failure? h) hl
    rwa [h] at ha

-- No folder is made on the way to one that is there.
theorem eq_of_makeFolder (hl : d.locate p = .ok folder) (ho : d.isFolder folder)
    (hq : q.parts <+: p.parts) (h : d.makeFolder q = .done d') : d' = d := by
  obtain ⟨hn, hw, folder', hl', -⟩ := makeFolder_of_done (congrArg Change.failure? h)
  obtain ⟨rest, hr⟩ := hq
  have hp := foldlM_of_locate hl
  rw [← hr, List.foldlM_append, bind_eq_ok_iff] at hp
  obtain ⟨middle, hm, hrest⟩ := hp
  have hi : d.isFolder middle := by
    cases rest
    case nil =>
      cases hrest
      exact ho
    case cons =>
      rw [List.foldlM_cons, bind_eq_ok_iff] at hrest
      obtain ⟨_, he, _⟩ := hrest
      exact (isOpen_of_enter he).2
  have hd := makeFolder_of_isFolder hn (locate_of_foldlM hl' hm) hi
  cases hd.symm.trans h
  rfl

end Folders

section Direct

variable {names : List String}

theorem parts_of_foldlM (hn : ∀ name ∈ names, name ∉ ["..", "/", "//"])
    (h : names.foldlM d.enter folder = .ok place) : place = ⟨folder.parts ++ names⟩ := by
  induction names generalizing folder
  case nil =>
    cases h
    simp
  case cons name names hi =>
    rw [List.foldlM_cons, bind_eq_ok_iff] at h
    obtain ⟨next, he, h⟩ := h
    have ⟨hn, hns⟩ := List.forall_mem_cons.mp hn
    obtain rfl := parts_of_enter hn he
    simpa using hi hns h

-- What is at a place is in folders that are there.
theorem foldlM_of_present (hw : d.Widens d') (hn : ∀ name ∈ names, name ∉ ["..", "/", "//"])
    (h : names.foldlM d'.enter folder = .ok place)
    (hp : (d.file? place).isSome ∨ d.isFolder place) :
    names.foldlM d.enter folder = .ok place := by
  induction names generalizing folder
  case nil => exact h
  case cons name names hi =>
    have hplace := parts_of_foldlM hn h
    rw [List.foldlM_cons, bind_eq_ok_iff] at h ⊢
    obtain ⟨next, he, h⟩ := h
    have ha : folder.isAbove place := Path.isAbove_iff.mpr (by simp [hplace])
    have hf : d.isFolder folder := by
      rcases hp with hp | hp
      · obtain ⟨bytes, hp⟩ := Option.isSome_iff_exists.mp hp
        exact isFolder_iff.mpr (.inr (.inr ⟨place, List.mem_map_of_mem (mem_of_lookup hp), ha⟩))
      · exact isFolder_of_isAbove hp ha
    have ho' := isOpen_of_enter he
    have ho : d.IsOpen folder := ⟨(hw.file? folder).symm.trans ho'.1, hf⟩
    exact ⟨next, (enter_congr ho' ho).trans he, hi (List.forall_mem_cons.mp hn).2 h⟩

theorem tail_of_direct (hp : p.Direct) (h : p.parts = name :: names) :
    ∀ n ∈ names, n ∉ ["..", "/", "//"] := by
  intro n hn
  have hr := hp.noRoot n (by rwa [h])
  have hu : n ≠ ".." := fun hu => hp.noUp (h ▸ List.mem_cons_of_mem _ (hu ▸ hn))
  simp only [List.mem_cons, List.not_mem_nil, or_false, not_or] at hr ⊢
  exact ⟨hu, hr⟩

-- Without detours, a path is the place that it leads to, but for the two ways to write the root.
theorem place_of_direct (hp : p.Direct) (h : d.locate p = .ok place) :
    place = p ∨ p.parts.head? = some "//" ∧ place = ⟨"/" :: p.parts.tail⟩ := by
  have hf := foldlM_of_locate h
  cases p with | mk parts =>
  cases parts
  case nil =>
    cases hf
    exact .inl rfl
  case cons name names =>
    rw [List.foldlM_cons, bind_eq_ok_iff] at hf
    obtain ⟨next, he, hf⟩ := hf
    obtain rfl := parts_of_foldlM (tail_of_direct hp rfl) hf
    rcases enter_eq_ok he with ⟨rfl, -⟩ | ⟨hn, rfl⟩ | ⟨-, rfl⟩
    · exact absurd List.mem_cons_self hp.noUp
    · simp only [List.mem_cons, List.not_mem_nil, or_false] at hn
      rcases hn with rfl | rfl
      · exact .inl rfl
      · exact .inr ⟨rfl, rfl⟩
    · exact .inl rfl

theorem eq_of_locate (hp : p.Plain) (h : d.locate p = .ok place) : place = p :=
  (place_of_direct hp.toDirect h).resolve_right fun hr => hp.oneRoot hr.1

theorem length_locate_of_direct (hp : p.Direct) (h : d.locate p = .ok place) :
    place.parts.length = p.parts.length := by
  rcases place_of_direct hp h with rfl | ⟨hh, rfl⟩
  · rfl
  · obtain ⟨names, hn⟩ := List.head?_eq_some_iff.mp hh
    simp [hn]

theorem locate_of_present (hp : p.Direct) (hw : d.Widens d') (h : d'.locate p = .ok place)
    (hf : (d.file? place).isSome ∨ d.isFolder place) : d.locate p = .ok place := by
  have hs := foldlM_of_locate h
  refine locate_of_foldlM h ?_
  cases hparts : p.parts
  case nil => rwa [hparts] at hs
  case cons name names =>
    rw [hparts] at hs
    rw [List.foldlM_cons, bind_eq_ok_iff] at hs ⊢
    obtain ⟨next, he, hs⟩ := hs
    have ho' := isOpen_of_enter he
    have ho : d.IsOpen ⟨[]⟩ := ⟨(hw.file? _).symm.trans ho'.1, rfl⟩
    exact ⟨next, (enter_congr ho' ho).trans he,
      foldlM_of_present hw (tail_of_direct hp hparts) hs hf⟩

theorem enter_ne_tooLong (hn : name.utf8ByteSize < nameLimit) :
    d.enter folder name ≠ .error .nameTooLong := by
  unfold enter
  rw [if_neg (Nat.not_le.mpr hn)]
  repeat' split
  all_goals nofun

theorem foldlM_ne_tooLong (hn : ∀ name ∈ names, name.utf8ByteSize < nameLimit) :
    names.foldlM d.enter folder ≠ .error .nameTooLong := by
  induction names generalizing folder
  case nil => nofun
  case cons name names hi =>
    have ⟨hn, hns⟩ := List.forall_mem_cons.mp hn
    rw [List.foldlM_cons]
    cases he : d.enter folder name
    case ok next => exact hi hns
    case error f =>
      rintro ⟨rfl⟩
      exact enter_ne_tooLong hn he

-- With short names, only the length of the whole path can be too much.
theorem locate_of_tooLong (hn : ∀ name ∈ p.parts, name.utf8ByteSize < nameLimit)
    (h : d.locate p = .error .nameTooLong) : d'.locate p = .error .nameTooLong := by
  unfold locate at h ⊢
  split at h
  case isTrue hl => rw [if_pos hl]
  case isFalse => exact absurd h (foldlM_ne_tooLong hn)

end Direct

section Alike

-- The path goes on to lead to what it led to, or to nothing as before.
structure AlikeAt (p : Path) (d d' : Directory) : Prop where
  keeps   : d.Keeps d'
  tooLong : d'.locate p = .error .nameTooLong → d.locate p = .error .nameTooLong
  same    : ∀ place, d.locate p = .ok place →
    d'.file? place = d.file? place ∧ d'.isFolder place = d.isFolder place
  fresh   : ∀ place, d'.locate p = .ok place →
    d.locate p = .ok place ∨ d'.file? place = none ∧ d'.isFolder place = false

theorem AlikeAt.refl (p : Path) (d : Directory) : AlikeAt p d d :=
  ⟨fun _ => id, id, fun _ _ => ⟨rfl, rfl⟩, fun _ => .inl⟩

theorem AlikeAt.single (h : AlikeAt p d d') (hs : d.Single p) : d'.Single p := by
  intro place hl hf
  rcases h.fresh place hl with hl | ⟨hn, -⟩
  · have ⟨hf', hv⟩ := h.same place hl
    rw [hv]
    exact hs place hl (hf' ▸ hf)
  · rw [hn] at hf
    cases hf

-- Writing one file leaves the others as they were.
theorem Reaches.alikeAt (h : d.Reaches q place)
    (hne : ∀ place', d.locate p = .ok place' → place ≠ place') (bytes : ByteArray) :
    AlikeAt p d (d.set place bytes) := by
  have hk : (d.set place bytes).Keeps d := keeps_of_set h.isFolder_parent
  refine ⟨keeps_set h.vacant, fun hl => hk.locate_eq hl nofun nofun, fun place' hl => ?_,
    fun place' hl => .inl (hk.locate_eq_ok hl)⟩
  exact ⟨file?_set_of_ne d (hne place' hl) bytes, isFolder_set h.isFolder_parent place'⟩

theorem Reaches.alikeAt_of_draft (h : d.Reaches (p.extend ".tmp") draft) (bytes : ByteArray) :
    AlikeAt p d (d.set draft bytes) :=
  h.alikeAt (fun _ hl => locate_draft_ne hl h.located) bytes

-- The folder of a file is there, or nothing can be found on the way to it when it is made.
def Settled (d : Directory) (p : Path) : Prop :=
  (∃ folder, d.locate p.parent = .ok folder ∧ d.IsOpen folder) ∨
    p.Direct ∧ ∀ name ∈ p.parts, name.utf8ByteSize < nameLimit

theorem settled_ofString {s : String} (hu : ".." ∉ (Path.ofString s).parts)
    (hn : ∀ name ∈ (Path.ofString s).parts, name.utf8ByteSize < nameLimit) (d : Directory) :
    d.Settled (.ofString s) :=
  .inr ⟨Path.direct_ofString hu, hn⟩

-- In a folder that is open, only a name that is too long leads to nothing.
theorem eq_tooLong_of_parent {f : FileFault} (hl : d.locate p.parent = .ok folder)
    (ho : d.IsOpen folder) (h : d.locate p = .error f) : f = .nameTooLong := by
  unfold locate at h
  split at h
  case isTrue =>
    cases h
    rfl
  case isFalse =>
    cases hn : p.parts.getLast?
    case none =>
      rw [List.getLast?_eq_none_iff.mp hn] at h
      cases h
    case some name =>
      have hp : p.parts = p.parent.parts ++ [name] := (List.dropLast_append_getLast? name hn).symm
      have he : d.enter folder name = .error f := by
        rw [hp, List.foldlM_append, foldlM_of_locate hl] at h
        change [name].foldlM d.enter folder = .error f at h
        simpa using h
      simp only [enter, ho.1, ho.2, Option.isSome_none, Bool.false_eq_true, if_false,
        Bool.not_true] at he
      repeat' split at he
      all_goals cases he
      rfl

theorem locate_of_parent (hl : d.locate p.parent = .ok folder) (ho : d.IsOpen folder)
    (hk : d.Keeps d') : d'.locate p = d.locate p := by
  cases h : d.locate p
  case ok => exact hk.locate_eq_ok h
  case error =>
    obtain rfl := eq_tooLong_of_parent hl ho h
    exact hk.locate_eq h nofun nofun

-- New folders change nothing for a settled path, unless they are in its place.
theorem Settled.alikeAt (h : d.Settled p) (hw : d.Widens d')
    (hv : ∀ place, d'.locate p = .ok place → d'.isFolder place = d.isFolder place) :
    AlikeAt p d d' := by
  have hsame (place : Path) (hl : d.locate p = .ok place) :
      d'.file? place = d.file? place ∧ d'.isFolder place = d.isFolder place :=
    ⟨hw.file? place, hv place (hw.keeps.locate_eq_ok hl)⟩
  rcases h with ⟨folder, hl, ho⟩ | ⟨hp, hn⟩
  case inl =>
    have he := locate_of_parent hl ho hw.keeps
    exact ⟨hw.keeps, he ▸ id, hsame, fun place hl => .inl (he ▸ hl)⟩
  case inr =>
    refine ⟨hw.keeps, locate_of_tooLong hn, hsame, fun place hl => ?_⟩
    rw [hw.file?, hv place hl]
    by_cases hf : (d.file? place).isSome ∨ d.isFolder place
    case pos => exact .inl (locate_of_present hp hw hl hf)
    case neg => exact .inr (by simpa using hf)

-- Nothing is in the place of the folders on the way to a file.
theorem Settled.alikeAt_of_makeFolder (h : d.Settled p) (hq : q.parts <+: p.parent.parts)
    (hd : d.makeFolder q = .done d') : AlikeAt p d d' := by
  have hw : d.Widens d' := by
    have hw := (makeFolder_of_done (congrArg Change.failure? hd)).2.1
    rwa [hd] at hw
  refine h.alikeAt hw fun place hl => ?_
  by_cases hroot : q.parts = []
  case pos => rw [eq_of_makeFolder (p := ⟨[]⟩) rfl rfl (by rw [hroot]) hd]
  rcases h with ⟨folder, hf, ho⟩ | ⟨hp, -⟩
  case inl => rw [eq_of_makeFolder hf ho.2 hq hd]
  case inr =>
    refine isFolder_makeFolder hd ?_
    have hle := hq.length_le
    have := List.length_pos_iff.mpr hroot
    rw [Path.parent, List.length_dropLast] at hle
    rw [length_locate_of_direct hp hl]
    omega

end Alike

end Enunciado.Directory
