import Enunciado.Proofs.History.Files

namespace Enunciado.History

variable {h : History} {d : Directory} {bytes : ByteArray} {raw : List Json} {limit : Nat}
  {v : Json} {r : Report String}

section Storable

-- Objects that are the same after they have been printed and read.
def Storable (v : Json) : Prop :=
  v.Readable ∧ ∃ fields, v = .obj fields

theorem entriesOf_history (hs : ∀ v ∈ raw, Storable v) :
    entriesOf (.obj [("history", .arr raw)]) = raw := by
  simp only [entriesOf, lookup, if_true, Option.getD_some]
  refine List.filter_eq_self.mpr fun v hv => ?_
  obtain ⟨_, fields, rfl⟩ := hs v hv
  rfl

theorem readable_document (hs : ∀ v ∈ raw, Storable v) : (document raw).Readable :=
  .obj (by simp) (by simpa using .arr fun v hv => (hs v hv).1)

-- What has been stored is read.
theorem entriesOfBytes_encode (hs : ∀ v ∈ raw, Storable v) :
    entriesOfBytes (encode raw) = .ok raw := by
  have hr := readable_document hs
  simp only [entriesOfBytes, encode, decodeText?_encodeText (Json.not_mem_pretty hr),
    Json.parse_pretty hr]
  rw [document, entriesOf_history hs]

theorem readable_history {fields : List (String × Json)} (hv : (Json.obj fields).Readable) :
    ((lookup "history" fields).getD (.arr [])).Readable := by
  cases hk : lookup "history" fields
  case none => exact .arr nofun
  case some w =>
    cases hv
    case obj hv => exact hv _ (mem_of_lookup hk)

theorem storable_of_entriesOf (hv : v.Readable) : ∀ w ∈ entriesOf v, Storable w := by
  intro w hw
  unfold entriesOf at hw
  dsimp only at hw
  split at hw
  case h_2 => cases hw
  case h_1 items hl =>
    have hr : (Json.arr items).Readable := by
      rw [← hl]
      split
      case h_1 => exact readable_history hv
      case h_2 => exact hv
    cases hr
    case arr hi =>
      obtain ⟨hw, ho⟩ := List.mem_filter.mp hw
      refine ⟨hi w hw, ?_⟩
      cases w
      case obj => exact ⟨_, rfl⟩
      all_goals cases ho

theorem storable_of_entriesOfBytes (hb : entriesOfBytes bytes = .ok raw) :
    ∀ v ∈ raw, Storable v := by
  unfold entriesOfBytes at hb
  split at hb
  case h_1 =>
    cases hb
    exact nofun
  case h_2 =>
    split at hb
    case h_1 hv =>
      cases hb
      exact storable_of_entriesOf (Json.readable_of_parse hv)
    case h_2 => cases hb
    case h_3 =>
      cases hb
      exact nofun

theorem storable_of_stored (hs : h.stored d = .ok raw) : ∀ v ∈ raw, Storable v := by
  unfold stored at hs
  split at hs
  case h_1 => cases hs
  case h_2 =>
    cases hs
    exact nofun
  case h_3 =>
    split at hs
    case h_1 => cases hs
    case h_2 => exact storable_of_entriesOfBytes hs

end Storable

section Keep

theorem report?_toJson (r : Report Json) : report? r.toJson = some r := by
  rw [report?, Report.ofJson_toJson]
  rfl

theorem storable_toJson (hr : ∀ row ∈ r.rows, row.IsMapping) : Storable r.document.toJson :=
  ⟨Report.readable_toJson hr, _, rfl⟩

theorem storable_keep (hr : ∀ row ∈ r.rows, row.IsMapping) (hs : ∀ v ∈ raw, Storable v) :
    ∀ v ∈ keep limit r.document raw, Storable v := by
  intro v hv
  rcases List.mem_cons.mp (List.mem_of_mem_take hv) with rfl | hv
  · exact storable_toJson hr
  · exact hs v (List.mem_of_mem_filter hv)

theorem filterMap_take {f : α → Option β} {as : List α} (ha : ∀ a ∈ as, (f a).isSome)
    (n : Nat) : (as.take n).filterMap f = (as.filterMap f).take n := by
  induction as generalizing n
  case nil => simp
  case cons a as hi =>
    have ⟨ha, has⟩ := List.forall_mem_cons.mp ha
    obtain ⟨b, hb⟩ := Option.isSome_iff_exists.mp ha
    cases n
    case zero => rfl
    case succ n => simp [hb, hi has]

-- Each of the entries that are kept holds a report.
theorem filterMap_keep (r : Report Json) :
    (keep limit r raw).filterMap report? = (r :: raw.filterMap report?).take limit := by
  have hf : (raw.filter fun v => (report? v).isSome).filterMap report? = raw.filterMap report? := by
    rw [List.filterMap_filter]
    refine List.filterMap_congr fun v _ => ?_
    cases report? v <;> rfl
  have hk : ∀ v ∈ r.toJson :: raw.filter fun v => (report? v).isSome, (report? v).isSome := by
    refine List.forall_mem_cons.mpr ⟨by rw [report?_toJson]; rfl, fun v hv => ?_⟩
    exact (List.mem_filter.mp hv).2
  rw [keep, filterMap_take hk, List.filterMap_cons_some (report?_toJson r), hf]

end Keep

section Save

variable {d' : Directory} {old : List (Report Json)}

-- Whatever is kept beside a report without repeated symbols in its rows can be written.
theorem save_eq_exchange (hs : h.stored d = .ok raw) (hl : h.limit = .ok limit)
    (hr : ∀ row ∈ r.rows, row.IsMapping) :
    h.save d r.document = Change.mapError .file
      ((d.deposit h.draft (encode (keep limit r.document raw))).next fun d =>
        d.move h.draft h.path) :=
  save_eq hs hl (readable_document (storable_keep hr (storable_of_stored hs))).hasLong_eq_false

-- Only the file system keeps a report from being saved.
theorem save_failure (hs : h.stored d = .ok raw) (hl : h.limit = .ok limit)
    (hr : ∀ row ∈ r.rows, row.IsMapping) {e : HistoryError}
    (he : (h.save d r.document).failure? = some e) : ∃ f, e = .file f := by
  rw [save_eq_exchange hs hl hr] at he
  have ⟨f, _, he⟩ := Option.map_eq_some_iff.mp he
  exact ⟨f, he.symm⟩

theorem Writable.save (hw : h.Writable d) (hs : h.stored d = .ok raw) (hl : h.limit = .ok limit)
    (hr : ∀ row ∈ r.rows, row.IsMapping) :
    ∃ d', h.save d r.document = .done d' ∧ h.Writable d' := by
  obtain ⟨d', hd, hw'⟩ := hw.exchange (encode (keep limit r.document raw))
  exact ⟨d', by rw [save_eq_exchange hs hl hr, hd, Change.mapError_done], hw'⟩

-- After a report is saved, the file holds its document and then those of the entries that hold
-- reports, as they were read, as far as there is room.
theorem stored_of_save (hs : h.stored d = .ok raw) (hl : h.limit = .ok limit)
    (hr : ∀ row ∈ r.rows, row.IsMapping) (hd : h.save d r.document = .done d') :
    h.stored d' = .ok (keep limit r.document raw) := by
  obtain ⟨place, hp, hf⟩ := save_of_done hs hl hd
  rw [stored_of_reaches hp, hf]
  exact entriesOfBytes_encode (storable_keep hr (storable_of_stored hs))

theorem entries_of_save (he : h.entries d = .ok old) (hl : h.limit = .ok limit)
    (hr : ∀ row ∈ r.rows, row.IsMapping) (hd : h.save d r.document = .done d') :
    h.entries d' = .ok ((r.document :: old).take limit) := by
  obtain ⟨raw, hs, rfl⟩ := map_eq_ok_iff.mp he
  rw [entries, stored_of_save hs hl hr hd, ← filterMap_keep]
  rfl

end Save

end Enunciado.History
