import MethodTrace.Proofs.ReadyWorkspaces

/-!
Incremental runs over archives leave what clean runs leave.

What carries from run to run is that the manifest has the fingerprints of some units and the output
is what a clean build of these units writes. The tasks of a run turn it into what a clean build of
its own units writes.
-/

namespace MethodTrace

namespace Invocation

open Detection

variable {invocation : Invocation} {filter : TagFilter} {old units : ArchivedUnits}
  {contents : Set Bytes} {changes : InputChanges} {assembly : Assembly} {u v w : Workspace}
  {report : RunReport}

/-- Fingerprints tell apart the contents of two lots of units under the same identities. -/
def ToldApart (old units : ArchivedUnits) : Prop :=
  ∀ (identity : String) (held now : ArchivedUnit), old[identity]? = some held →
    units[identity]? = some now →
    ContentHash.ofBytes held.content = ContentHash.ofBytes now.content →
    held.content = now.content

theorem scan_of_read {path : String} {found : List ArchiveMember}
    (h : ∀ bytes, u.read path = .ok bytes → v.read path = .ok bytes) (hs : scan u path = .ok found) :
    scan v path = .ok found := by
  unfold scan Archive.ofFile at hs ⊢
  obtain ⟨archive, ha, hm⟩ := Except.bind_eq_ok_iff.mp hs
  obtain ⟨bytes, hb, he⟩ := Except.bind_eq_ok_iff.mp (Except.mapError_eq_ok_iff.mp ha)
  have read := h bytes (Except.mapError_eq_ok_iff.mp hb)
  refine Except.bind_eq_ok_iff.mpr ⟨archive, Except.mapError_eq_ok_iff.mpr ?_, hm⟩
  exact Except.bind_eq_ok_iff.mpr ⟨bytes, Except.mapError_eq_ok_iff.mpr read, he⟩

/-- What archives give depends only on their bytes. -/
theorem scans_of_reads {scans : List (List ArchiveMember)} {archives : List String}
    (h : ∀ path ∈ archives, ∀ bytes, u.read path = .ok bytes → v.read path = .ok bytes)
    (hs : archives.mapM (scan u) = .ok scans) : archives.mapM (scan v) = .ok scans := by
  induction archives generalizing scans with
  | nil => exact hs
  | cons path archives ih =>
    rw [List.mapM_cons] at hs ⊢
    obtain ⟨found, hp, hs⟩ := Except.bind_eq_ok_iff.mp hs
    obtain ⟨others, ho, hs⟩ := Except.bind_eq_ok_iff.mp hs
    refine Except.bind_eq_ok_iff.mpr ⟨found, scan_of_read (h path (by simp)) hp, ?_⟩
    exact Except.bind_eq_ok_iff.mpr ⟨others, ih (fun p hm => h p (by simp [hm])) ho, hs⟩

/-- All contents of members of the archives are among some. -/
def MembersIn (invocation : Invocation) (contents : Set Bytes) (w : Workspace) : Prop :=
  ∀ path ∈ invocation.archives, ∀ found, scan w path = .ok found → ∀ member ∈ found,
    member.content ∈ contents

theorem content_mem_of_scans {scans : List (List ArchiveMember)} {identity : String}
    {held : ArchivedUnit} (members : invocation.MembersIn contents v)
    (hs : invocation.archives.mapM (scan v) = .ok scans)
    (hu : (archivedUnits scans)[identity]? = some held) : held.content ∈ contents := by
  obtain ⟨found, hf, member, hm, _, he⟩ := exists_member_of_archivedUnits hu
  obtain ⟨path, hp, hscan⟩ := forall₂_exists_left (Except.mapM_eq_ok_iff.mp hs) hf
  exact he ▸ members path hp found hscan member hm

/-- An invocation without inputs. -/
def withoutInputs : Invocation where
  archives := []
  directories := []
  changes := .unknown
  intermediate := "m"
  output := "o"
  settings := { hooks := ⟨"T", "b", "e"⟩ }

/-- The filter of an invocation without inputs. -/
def noFilter : TagFilter := ⟨[], [], true⟩

theorem checkedFilter_withoutInputs : withoutInputs.checkedFilter = .ok noFilter := by cbv

theorem detect_withoutInputs {cache : Cache} {full : Bool}
    (hc : changes = .unknown ∨ changes = .listed []) (hp : full = true ∨ cache.fingerprints = ∅) :
    detect v (withoutInputs.withChanges changes) cache full = .ok ⟨{}, ∅⟩ := by
  have loose : looseUnits v (withoutInputs.withChanges changes) full = .ok [] := by
    rcases hc with rfl | rfl
    · rfl
    · cases full with
      | true => rfl
      | false => rfl
  have none : withUncovered v (withoutInputs.withChanges changes).directories {} = {} :=
    withUncovered_nil v {}
  rw [detect_of_no_archives rfl hp loose, firstOfEach, withLoose_nil, none]

/-- The bytes of an archive without entries. -/
def noEntries : Bytes := Archive.endRecord 0 0 0

/-- A workspace with nothing but the directory for what is kept. -/
def bare : Workspace := Workspace.empty.insert ["m"] .directory

theorem ready_bare : bare.Ready := by
  have free {place : Place} (h : bare.node? place = none) : bare.node? place ≠ some .directory := by
    simp [h]
  exact ⟨by cbv, free (by cbv), free (by cbv), free (by cbv), free (by cbv)⟩

end Invocation

end MethodTrace
