import Enunciado.Proofs.Storage.Elsewhere

namespace Enunciado.Directory

variable {d d' d'' : Directory} {p q place draft : Path} {bytes : ByteArray} {ps qs : List Path}

-- No files but those that the paths lead to are made, changed or removed, and no folders are
-- removed.
structure ChangesOnly (ps : List Path) (d d' : Directory) : Prop where
  keeps   : d.Keeps d'
  folders : ∀ place, d.isFolder place → d'.isFolder place
  others  : ∀ place, (∀ p ∈ ps, d'.locate p ≠ .ok place) → d'.file? place = d.file? place

namespace ChangesOnly

theorem refl (ps : List Path) (d : Directory) : ChangesOnly ps d d :=
  ⟨fun _ => id, fun _ => id, fun _ _ => rfl⟩

theorem mono (h : ChangesOnly ps d d') (hs : ps ⊆ qs) : ChangesOnly qs d d' :=
  ⟨h.keeps, h.folders, fun place hp => h.others place fun p hm => hp p (hs hm)⟩

theorem trans (h : ChangesOnly ps d d') (h' : ChangesOnly ps d' d'') : ChangesOnly ps d d'' := by
  refine ⟨fun place ho => h'.keeps place (h.keeps place ho),
    fun place hf => h'.folders place (h.folders place hf), fun place hp => ?_⟩
  have hp' : ∀ p ∈ ps, d'.locate p ≠ .ok place := fun p hm => mt h'.keeps.locate_eq_ok (hp p hm)
  exact (h'.others place hp).trans (h.others place hp')

theorem of_widens (h : d.Widens d') (ps : List Path) : ChangesOnly ps d d' :=
  ⟨h.keeps, h.folders, fun place _ => h.file? place⟩

theorem set (h : d.Reaches p place) (hp : p ∈ ps) (bytes : ByteArray) :
    ChangesOnly ps d (d.set place bytes) := by
  have hk : d.Keeps (d.set place bytes) := keeps_set h.vacant
  refine ⟨hk, fun q hf => isFolder_set_iff.mpr (.inl hf), fun q hq => ?_⟩
  refine file?_set_of_ne d ?_ bytes
  rintro rfl
  exact hq p hp (hk.locate_eq_ok h.located)

theorem erase (h : d.locate p = .ok place) (hp : p ∈ ps) : ChangesOnly ps d (d.erase place) := by
  refine ⟨keeps_erase, fun q => isFolder_erase, fun q hq => file?_erase_of_ne ?_⟩
  rintro rfl
  exact hq p hp (keeps_erase.locate_eq_ok h)

theorem deposit (h : d.deposit p bytes = .done d') (hp : p ∈ ps) : ChangesOnly ps d d' := by
  obtain ⟨d₁, place, -, hw, hr, hd⟩ := deposit_of_done (congrArg Change.failure? h)
  cases hd.symm.trans h
  exact (of_widens hw ps).trans (.set hr hp bytes)

end ChangesOnly

section Exchange

variable (hn : Path.hasNul p.toString = false → Path.hasNul q.toString = false)
  (h : ((d.deposit p bytes).next fun d => d.move p q) = .done d')

include hn h

theorem changesOnly_of_exchange : ChangesOnly [p, q] d d' := by
  obtain ⟨d₁, draft, place, hw, hr, -, hr', hd⟩ :=
    exchange_places hn (congrArg Change.failure? h)
  cases hd.symm.trans h
  have hp : p ∈ [p, q] := List.mem_cons_self
  have hk : d₁.Keeps (d₁.set draft bytes) := keeps_set hr.vacant
  have hl := hk.locate_eq_ok hr.located
  exact (ChangesOnly.of_widens hw _).trans ((ChangesOnly.set hr hp bytes).trans
    ((ChangesOnly.erase hl hp).trans (.set hr' (by simp) bytes)))

-- The file that was moved is gone from where it was.
theorem absent_of_exchange (hp : d'.locate p = .ok draft)
    (hne : ∀ place, d'.locate q = .ok place → draft ≠ place) : d'.file? draft = none := by
  obtain ⟨d₁, draft', place, -, hr, hk, hr', hd⟩ :=
    exchange_places hn (congrArg Change.failure? h)
  cases hd.symm.trans h
  have hk' : ((d₁.set draft' bytes).erase draft').Keeps
      (((d₁.set draft' bytes).erase draft').set place bytes) := keeps_set hr'.vacant
  have hl := hk'.locate_eq_ok (hk.locate_eq_ok hr.located)
  obtain rfl : draft' = draft := Except.ok.inj (hl.symm.trans hp)
  have hne := hne place (hk'.locate_eq_ok hr'.located)
  exact (file?_set_of_ne _ hne.symm bytes).trans file?_erase_self

end Exchange

end Enunciado.Directory
