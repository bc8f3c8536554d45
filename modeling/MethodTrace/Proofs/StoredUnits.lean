import MethodTrace.Cache.UnitStore
import MethodTrace.Proofs.FileChanges
import MethodTrace.Proofs.UnitHeaders

/-!
The store of units as a map from identities to content.

What is read of the file of a unit is what it holds behind the length of its header, whoever wrote
it.
-/

namespace MethodTrace

namespace UnitStore

variable {store : UnitStore} {identity other version : String} {area file content found : Bytes}
  {v w : Workspace} {u : Unit}

/-- A file with an area in front of its content: the length of the area in four bytes, the area and
the content. -/
def framed (area content : Bytes) : Bytes :=
  Bytes.littleEndian 4 area.length ++ area ++ content

theorem decode_framed (size : area.length < Bytes.limit 4) :
    decode identity (framed area content) = .ok found ↔ found = content ∧
      ∃ header, UnitHeader.decode? area = some header ∧ header.magic = UnitHeader.magicBytes ∧
        header.format = UnitHeader.currentFormat ∧
        header.checksum = ContentHash.ofBytes content := by
  have number : Bytes.ofLittleEndian ((framed area content).take 4) = area.length := by
    rw [framed, List.append_assoc, List.take_left' (by simp), Bytes.ofLittleEndian_littleEndian,
      Nat.mod_eq_of_lt size]
  have behind : (framed area content).drop 4 = area ++ content := by
    rw [framed, List.append_assoc, List.drop_left' (by simp)]
  have long : ¬(framed area content).length < 4 := by simp [framed]
  unfold decode
  dsimp only
  rw [number, behind, List.take_left, List.drop_left, if_neg long, if_neg (by simp)]
  cases UnitHeader.decode? area with
  | none => simp
  | some header =>
    dsimp only
    constructor
    · intro h
      split at h
      next => cases h
      next magic =>
        split at h
        next => cases h
        next format =>
          split at h
          next => cases h
          next checksum =>
            exact ⟨(Except.ok.inj h).symm, header, rfl, not_not.mp magic, not_not.mp format,
              (not_not.mp checksum).symm⟩
    · rintro ⟨rfl, _, same, magic, format, checksum⟩
      cases same
      rw [if_neg (not_not.mpr magic), if_neg (not_not.mpr format),
        if_neg (not_not.mpr checksum.symm)]
      rfl

/-- What is written with a header that fits is read back. -/
theorem decode_encode_of_fits
    (fits : (UnitHeader.ofContent version content).encode.length < Bytes.limit 4) :
    decode identity (encode version content) = .ok content := by
  have limit : Bytes.limit 4 < 2 ^ 64 := by decide
  have short : (Bytes.ofString version).length < 2 ^ 64 := by
    simp only [UnitHeader.ofContent, UnitHeader.encode, UnitHeader.encodeText,
      List.length_append] at fits
    omega
  exact (decode_framed fits).mpr
    ⟨rfl, _, UnitHeader.decode?_encode content short, rfl, rfl, rfl⟩

theorem decode_encode (identity : String) (content : Bytes)
    (hv : version.toList.length < 2 ^ 20) :
    decode identity (encode version content) = .ok content := by
  have short := UnitHeader.length_encode_le version content
  have limit : Bytes.limit 4 = 4294967296 := by decide
  exact decode_encode_of_fits (by omega)

/-- A file from which some content is read: the area in front of it begins with a header, which has
the hash of the content. -/
inductive Holds : Bytes → Bytes → Prop
  | mk {front rest content : Bytes} {header : UnitHeader}
      (size : (front ++ rest).length < Bytes.limit 4) (spelled : UnitHeader.Spells front header)
      (magic : header.magic = Bytes.ofString "TRCX") (format : header.format = 1)
      (checksum : header.checksum = ContentHash.ofBytes content) :
      Holds (framed (front ++ rest) content) content

/-- Different identities are stored at different places. -/
theorem unitPath_injective (h : Identity.IsNormal identity) (ho : Identity.IsNormal other)
    (hp : Place.named (store.unitPath identity) = Place.named (store.unitPath other)) :
    identity = other := by
  unfold unitPath at hp
  rw [Place.named_descend_of_isNormal h, Place.named_descend_of_isNormal ho] at hp
  exact h.eq_of_segments ho (List.append_cancel_left hp)

theorem changes_write (h : Runs (store.write identity content) v u w) :
    Workspace.Changes {Place.named (store.unitPath identity)} v w ∧
      w.read (store.unitPath identity) = .ok (encode store.version content) := by
  unfold write at h
  extract_lets path rest at h
  have final : ∀ s, Runs (rest ()) s u w → Workspace.Changes {Place.named path} s w ∧
      w.read path = .ok (encode store.version content) := by
    intro s h
    exact Workspace.changes_write (Action.change_iff.mp h)
  split at h
  next =>
    obtain ⟨_, s, hc, h⟩ := Runs.bind_iff.mp h
    obtain ⟨change, hr⟩ := final s h
    exact ⟨((Action.changes_createDirectories hc).mono (by simp)).trans change, hr⟩
  next => exact final v h

theorem changes_remove (h : Runs (store.remove identity) v u w) :
    Workspace.Changes {Place.named (store.unitPath identity)} v w := by
  unfold remove at h
  rcases Action.clear_iff.mp h with h | ⟨_, rfl⟩
  · exact (Workspace.changes_remove h).1
  · exact .refl _ _

theorem clears_clear (h : Runs store.clear v u w) :
    Workspace.Clears {place | Place.named store.root <+: place} v w := by
  unfold clear at h
  rcases Action.clear_iff.mp h with h | ⟨_, rfl⟩
  · exact Workspace.clears_removeTree h
  · exact .refl _ _

end UnitStore

end MethodTrace
