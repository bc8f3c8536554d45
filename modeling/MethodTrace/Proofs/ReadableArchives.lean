import MethodTrace.Proofs.Assemblies

/-!
Archives that can be read back from what a writer has made of them.

A writer takes every entry whose lengths fit into their fields, and a reader finds all of them again.
But a reader also takes the greatest value of a field, and a mark before the last record, for signs of
the 64-bit format, and a writer avoids neither. These are the only archives that are not read back.
-/

namespace MethodTrace

namespace ArchiveEntry

theorem length_centralRecord (entry : ArchiveEntry) (offset : Nat) :
    (entry.centralRecord offset).length = 46 + entry.nameBytes.length := by
  simp only [centralRecord, List.length_append, Bytes.length_littleEndian, length_sharedFields]

/-- An entry in the directory ends with the length of its name, zeros, its place and its name. -/
theorem exists_centralRecord_eq (entry : ArchiveEntry) (offset : Nat) :
    ∃ front : Bytes, front.length = 28 ∧ entry.centralRecord offset = front
      ++ (Bytes.littleEndian 2 entry.nameBytes.length ++ (List.replicate 12 0
      ++ (Bytes.littleEndian 4 offset ++ entry.nameBytes))) := by
  refine ⟨Bytes.littleEndian 4 Archive.centralSignature ++ Bytes.littleEndian 2 20
    ++ Bytes.littleEndian 2 entry.versionNeeded ++ Bytes.littleEndian 2 entry.nameFlags
    ++ Bytes.littleEndian 2 entry.method.toNat ++ timeStamp
    ++ Bytes.littleEndian 4 entry.checksum.toNat ++ Bytes.littleEndian 4 entry.stored.length
    ++ Bytes.littleEndian 4 entry.size.toNat, ?_, ?_⟩
  · simp [timeStamp]
  · have zeros : (List.replicate 12 0 : Bytes) = Bytes.littleEndian 2 0 ++ (Bytes.littleEndian 2 0
        ++ (Bytes.littleEndian 2 0 ++ (Bytes.littleEndian 2 0 ++ Bytes.littleEndian 4 0))) := by
      decide
    rw [zeros]
    simp only [centralRecord, sharedFields, List.append_assoc]

/-- What a reader finds where it looks for the mark of the 64-bit format, behind an entry that is the
last one of its directory: the mark can only be there as a part of the place and the name. -/
theorem take_drop_centralRecord (entry : ArchiveEntry) (offset : Nat) :
    ((entry.centralRecord offset).drop (26 + entry.nameBytes.length)).take 4
        = Bytes.littleEndian 4 Archive.zip64Signature ↔
      16 ≤ entry.nameBytes.length ∧ ((Bytes.littleEndian 4 offset ++ entry.nameBytes).drop
        (entry.nameBytes.length - 16)).take 4 = Bytes.littleEndian 4 Archive.zip64Signature := by
  obtain ⟨front, length, cut⟩ := entry.exists_centralRecord_eq offset
  rw [cut]
  generalize entry.nameBytes = name
  have mark : Bytes.littleEndian 4 Archive.zip64Signature = [0x50, 0x4b, 6, 7] := by decide
  by_cases long : 16 ≤ name.length
  · have behind : 26 + name.length = front.length + (14 + (name.length - 16)) := by omega
    rw [behind, ← List.drop_drop, List.drop_left, ← List.append_assoc (Bytes.littleEndian 2 _),
      ← List.drop_drop, List.drop_left' (by simp)]
    simp [long]
  · -- A shorter name lets the mark begin before the place, where there is a zero against it.
    simp only [long, false_and, iff_false, mark]
    generalize Bytes.littleEndian 4 offset ++ name = tail
    generalize name.length = n at long ⊢
    intro h
    have third : (Bytes.littleEndian 2 n ++ (List.replicate 12 0 ++ tail))[n]? = some 6 := by
      have at2 := congrArg (fun bytes : Bytes => bytes[2]?) h
      rw [List.getElem?_take_of_lt (by decide), List.getElem?_drop,
        List.getElem?_append_right (by omega)] at at2
      have place : 26 + n + 2 - front.length = n := by omega
      rwa [place] at at2
    have first (hn : 2 ≤ n) :
        (Bytes.littleEndian 2 n ++ (List.replicate 12 0 ++ tail))[n - 2]? = some 0x50 := by
      have at0 := congrArg (fun bytes : Bytes => bytes[0]?) h
      rw [List.getElem?_take_of_lt (by decide), List.getElem?_drop,
        List.getElem?_append_right (by omega)] at at0
      have place : 26 + n + 0 - front.length = n - 2 := by omega
      rwa [place] at at0
    interval_cases n <;> simp [Bytes.littleEndian, List.replicate] at third first

end ArchiveEntry

namespace Archive

theorem centralDirectory_concat (front : Archive) (last : ArchiveEntry) (offset : Nat) :
    centralDirectory offset (front ++ [last]) = centralDirectory offset front
      ++ last.centralRecord (offset + (front.flatMap ArchiveEntry.localRecord).length) := by
  induction front generalizing offset with
  | nil => simp [centralDirectory]
  | cons entry front ih =>
    simp only [List.cons_append, centralDirectory, ih, List.append_assoc, List.flatMap_cons,
      List.length_append, ArchiveEntry.length_localRecord, Nat.add_assoc]

/-- Whether the place and the name of the last entry make a mark of the 64-bit format twenty bytes
before their end. -/
def endsMarked (archive : Archive) : Bool :=
  match archive.getLast? with
  | none => false
  | some last =>
    16 ≤ last.nameBytes.length
      && ((Bytes.littleEndian 4 (archive.dropLast.flatMap ArchiveEntry.localRecord).length
        ++ last.nameBytes).drop (last.nameBytes.length - 16)).take 4
          == Bytes.littleEndian 4 zip64Signature

theorem endsMarked_concat (front : Archive) (last : ArchiveEntry) :
    endsMarked (front ++ [last]) = true ↔ 16 ≤ last.nameBytes.length ∧
      ((Bytes.littleEndian 4 (front.flatMap ArchiveEntry.localRecord).length
        ++ last.nameBytes).drop (last.nameBytes.length - 16)).take 4
          = Bytes.littleEndian 4 zip64Signature := by
  rw [endsMarked, List.getLast?_concat, List.dropLast_concat]
  simp only [Bool.and_eq_true, decide_eq_true_eq, beq_iff_eq]

/-- Nothing but the last entry can put a mark before the last record. -/
theorem hasZip64Marker_toBytes (archive : Archive) :
    hasZip64Marker archive.toBytes archive.endOffset = archive.endsMarked := by
  rcases List.eq_nil_or_concat' archive with rfl | ⟨front, last, split⟩
  · rfl
  have record := last.length_centralRecord (front.flatMap ArchiveEntry.localRecord).length
  have directory : centralDirectory 0 archive = centralDirectory 0 front
      ++ last.centralRecord (front.flatMap ArchiveEntry.localRecord).length := by
    rw [split, centralDirectory_concat, Nat.zero_add]
  have place : archive.endOffset
      = (archive.flatMap ArchiveEntry.localRecord ++ centralDirectory 0 front).length
        + (46 + last.nameBytes.length) := by
    rw [endOffset, directory, ← List.append_assoc, List.length_append, record]
  have behind : ∃ rest, archive.toBytes.drop (archive.endOffset - 20)
      = (last.centralRecord (front.flatMap ArchiveEntry.localRecord).length).drop
          (26 + last.nameBytes.length) ++ rest := by
    have back : archive.endOffset - 20
        = (archive.flatMap ArchiveEntry.localRecord ++ centralDirectory 0 front).length
          + (26 + last.nameBytes.length) := by omega
    rw [back, ← List.drop_drop, toBytes, directory, ← List.append_assoc, List.append_assoc,
      List.drop_left, List.drop_append_of_le_length (by omega)]
    exact ⟨_, rfl⟩
  obtain ⟨rest, behind⟩ := behind
  have reach : 20 ≤ archive.endOffset := by omega
  rw [hasZip64Marker, behind, List.take_append_of_le_length (by rw [List.length_drop]; omega)]
  have own := endsMarked_concat front last
  rw [← split] at own
  rw [Bool.eq_iff_iff, own]
  simp only [Bool.and_eq_true, decide_eq_true_eq, reach, true_and, beq_iff_eq]
  exact last.take_drop_centralRecord _

/-- An archive that is taken for one of the 64-bit format: for a mark behind its last entry, or for
the greatest value of a field. -/
def SeemsWide (archive : Archive) : Prop :=
  archive.endsMarked = true ∨ archive.length = 0xffff
    ∨ (centralDirectory 0 archive).length = 0xffffffff
    ∨ (archive.flatMap ArchiveEntry.localRecord).length = 0xffffffff
    ∨ ∃ entry ∈ archive, entry.size = 0xffffffff

instance (archive : Archive) : Decidable archive.SeemsWide :=
  inferInstanceAs (Decidable (_ ∨ _))

variable {archive : Archive} {source : String}

theorem mapM_readBack (methods : ∀ entry ∈ archive, entry.method = 0 ∨ entry.method = 8) :
    archive.mapM readBack = if ∃ entry ∈ archive, entry.size = 0xffffffff then
      .error (.unsupported .zip64) else .ok archive := by
  induction archive with
  | nil => rfl
  | cons entry archive ih =>
    have rest := ih fun other ho => methods other (List.mem_cons_of_mem _ ho)
    have known : ¬(Compression.ofMethod? entry.method).isNone = true := by
      rcases methods entry List.mem_cons_self with method | method <;> rw [method] <;> decide
    rw [List.mapM_cons, rest, readBack]
    by_cases wide : entry.size = 0xffffffff
    · have there : ∃ other ∈ entry :: archive, other.size = 0xffffffff :=
        ⟨entry, List.mem_cons_self, wide⟩
      rw [if_pos wide, if_pos there]
      rfl
    · have same : (∃ other ∈ entry :: archive, other.size = 0xffffffff)
          ↔ ∃ other ∈ archive, other.size = 0xffffffff := by simp [wide]
      rw [if_neg wide, if_neg known]
      simp only [same]
      split <;> rfl

/-- An archive is read back from its bytes unless it is taken for one of the 64-bit format. -/
theorem ofBytes_toBytes (fits : archive.Fits)
    (methods : ∀ entry ∈ archive, entry.method = 0 ∨ entry.method = 8) :
    ofBytes source archive.toBytes = if archive.SeemsWide then
      .error (.fault source (.unsupported .zip64)) else .ok archive := by
  rw [ofBytes, entries_toBytes fits, hasZip64Marker_toBytes, mapM_readBack methods]
  by_cases fields : archive.endsMarked = true ∨ archive.length = 0xffff
      ∨ (centralDirectory 0 archive).length = 0xffffffff
      ∨ (archive.flatMap ArchiveEntry.localRecord).length = 0xffffffff
  · have wide : archive.SeemsWide := by
      unfold SeemsWide
      tauto
    rw [if_pos fields, if_pos wide]
    rfl
  · have same : archive.SeemsWide ↔ ∃ entry ∈ archive, entry.size = 0xffffffff := by
      unfold SeemsWide
      tauto
    rw [if_neg fields]
    simp only [same]
    split <;> rfl

end Archive

namespace ArchiveEntry

/-- Stored content is what it was, as long as its length can be told. -/
theorem content_ofContent {settings : ArchiveSettings} {name : String} {content : Bytes}
    (stored : settings.compression = .stored) (short : content.length < UInt32.size) :
    (ofContent settings name content).content = .ok content := by
  have size : (UInt32.ofNat content.length).toNat = content.length :=
    UInt32.toNat_ofNat_of_lt' short
  simp only [ArchiveEntry.content, ofContent, stored, Compression.method, Compression.ofMethod?,
    Compression.pack, Compression.unpack?, size, if_true, ne_eq, not_true_eq_false, if_false]
  rfl

theorem method_ofContent (settings : ArchiveSettings) (name : String) (content : Bytes) :
    (ofContent settings name content).method = 0 ∨ (ofContent settings name content).method = 8 := by
  unfold ofContent
  cases settings.compression
  · exact .inl rfl
  · exact .inr rfl

end ArchiveEntry

namespace ArchiveWriter

/-- A writer after a call to add an entry; it is as it was if the call is rejected. -/
def perform (writer : ArchiveWriter) (call : String × PendingEntry) : ArchiveWriter :=
  match Assembly.writeEntry writer call with
  | .ok next => next
  | .error _ => writer

/-- The calls that are accepted if they are made one after another. -/
def accepted (writer : ArchiveWriter) : List (String × PendingEntry) → List (String × PendingEntry)
  | [] => []
  | call :: calls =>
    match Assembly.writeEntry writer call with
    | .ok next => call :: next.accepted calls
    | .error _ => writer.accepted calls

variable {writer next : ArchiveWriter} {calls : List (String × PendingEntry)}
  {call : String × PendingEntry}

/-- Rejected calls leave no trace: the accepted ones alone lead to the same writer. -/
theorem foldlM_accepted (writer : ArchiveWriter) (calls : List (String × PendingEntry)) :
    (writer.accepted calls).foldlM Assembly.writeEntry writer = .ok (calls.foldl perform writer) := by
  induction calls generalizing writer with
  | nil => rfl
  | cons call calls ih =>
    rw [List.foldl_cons, accepted, perform]
    cases h : Assembly.writeEntry writer call with
    | error => exact ih writer
    | ok next =>
      rw [List.foldlM_cons, h]
      exact ih next

theorem exists_of_mem_accepted (h : call ∈ writer.accepted calls) :
    call ∈ calls ∧ ∃ before next, Assembly.writeEntry before call = .ok next := by
  induction calls generalizing writer with
  | nil => cases h
  | cons first calls ih =>
    rw [accepted] at h
    split at h
    · next next hn =>
      rcases List.mem_cons.mp h with rfl | h
      · exact ⟨List.mem_cons_self, writer, next, hn⟩
      · exact (ih h).imp_left (List.mem_cons_of_mem _)
    · exact (ih h).imp_left (List.mem_cons_of_mem _)

theorem length_lt_of_addContent {name : String} {content : Bytes}
    (h : writer.addContent name content = .ok next) : content.length < UInt32.size ∧
      writer.add (.ofContent writer.settings name content) = .ok next := by
  unfold addContent at h
  dsimp only at h
  split at h
  · cases h
  · exact ⟨by omega, h⟩

end ArchiveWriter

open ArchiveWriter in
/-- An archive that calls have made, some of them rejected, is read back as the entries of the
accepted ones, unless it is taken for one of the 64-bit format. -/
theorem ofBytes_finish {settings : ArchiveSettings} {path source : String}
    {calls : List (String × PendingEntry)} {bytes : Bytes}
    (methods : ∀ name entry, (name, PendingEntry.carried entry) ∈ calls →
      entry.method = 0 ∨ entry.method = 8)
    (finished : (calls.foldl perform (start path settings)).finish = .ok bytes) :
    let accepted := (start path settings).accepted calls
    let archive : Archive := accepted.map fun (name, pending) => pending.entry settings name
    Archive.ofBytes source bytes = (if archive.SeemsWide then
        .error (.fault source (.unsupported .zip64)) else .ok archive) ∧
      accepted.foldlM Assembly.writeEntry (start path settings) >>= finish = .ok bytes ∧
      (settings.compression = .stored → ∀ name content, (name, .fresh content) ∈ accepted →
        (ArchiveEntry.ofContent settings name content).content = .ok content) := by
  intro accepted archive
  have alone := foldlM_accepted (start path settings) calls
  obtain ⟨held, _⟩ := (holds_start path settings).foldlM alone
  obtain ⟨rfl, fits⟩ := held.finish finished
  have known : ∀ entry ∈ archive, entry.method = 0 ∨ entry.method = 8 := by
    intro entry he
    obtain ⟨⟨name, pending⟩, hp, rfl⟩ := List.mem_map.mp he
    cases pending with
    | carried entry => exact methods name entry (exists_of_mem_accepted hp).1
    | fresh content => exact ArchiveEntry.method_ofContent settings name content
  refine ⟨Archive.ofBytes_toBytes fits known, ?_, ?_⟩
  · exact Except.bind_eq_ok_iff.mpr ⟨_, alone, finished⟩
  · intro stored name content hc
    obtain ⟨_, before, next, hw⟩ := exists_of_mem_accepted hc
    exact ArchiveEntry.content_ofContent stored (length_lt_of_addContent hw).1

theorem length_ofString_replicate (n : Nat) :
    (Bytes.ofString (String.ofList (List.replicate n 'a'))).length = n := by
  rw [Bytes.ofString_eq_flatMap, String.toList_ofList, List.length_flatMap, List.map_replicate,
    List.sum_replicate, String.length_utf8EncodeChar]
  exact Nat.mul_one n

/-- Calls to add two entries, and between them one of a name. -/
def sampleCalls (name : String) : List (String × PendingEntry) :=
  [("b", .fresh [0x61]), (name, .fresh []), ("a", .carried ⟨"a", 8, 0, 0, [3, 0]⟩)]

def sampleArchive : Archive :=
  [.ofContent {} "b" [0x61], ⟨"a", 8, 0, 0, [3, 0]⟩]

theorem method_sampleCalls {name other : String} {entry : ArchiveEntry}
    (h : (other, PendingEntry.carried entry) ∈ sampleCalls name) :
    entry.method = 0 ∨ entry.method = 8 := by
  simp only [sampleCalls, List.mem_cons, List.not_mem_nil, Prod.mk.injEq, reduceCtorEq,
    and_false, false_or, or_false, PendingEntry.carried.injEq] at h
  exact .inr (by rw [h.2])

open ArchiveWriter in
theorem finish_sampleCalls {name : String} (long : 65536 ≤ (Bytes.ofString name).length) :
    ((sampleCalls name).foldl perform (start "x.jar" {})).finish = .ok sampleArchive.toBytes ∧
    (start "x.jar" {}).accepted (sampleCalls name)
      = [("b", .fresh [0x61]), ("a", .carried ⟨"a", 8, 0, 0, [3, 0]⟩)] := by
  have rejected (writer : ArchiveWriter) :
      ∃ e, Assembly.writeEntry writer (name, .fresh []) = .error e := by
    cases h : Assembly.writeEntry writer (name, .fresh []) with
    | error e => exact ⟨e, rfl⟩
    | ok next =>
      have added : writer.addContent name [] = .ok next := h
      have fits := (fits_of_add (length_lt_of_addContent added).2).name
      exact absurd long (Nat.not_le.mpr fits)
  have first : Assembly.writeEntry (start "x.jar" {}) ("b", .fresh [0x61])
      = .ok ⟨"x.jar", {}, [.ofContent {} "b" [0x61]], 32⟩ := by cbv
  have last : Assembly.writeEntry ⟨"x.jar", {}, [.ofContent {} "b" [0x61]], 32⟩
      ("a", .carried ⟨"a", 8, 0, 0, [3, 0]⟩)
      = .ok ⟨"x.jar", {}, sampleArchive.reverse, 65⟩ := by cbv
  obtain ⟨e, middle⟩ := rejected ⟨"x.jar", {}, [.ofContent {} "b" [0x61]], 32⟩
  refine ⟨?_, ?_⟩
  · rw [sampleCalls, List.foldl_cons, List.foldl_cons, List.foldl_cons, List.foldl_nil]
    simp only [perform, first, middle, last]
    cbv
  · simp only [sampleCalls, accepted, first, middle, last]

/-- A name that is too long for its length to be told. -/
def longName : String :=
  String.ofList (List.replicate 65536 'a')

theorem length_longName : (Bytes.ofString longName).length = 65536 :=
  length_ofString_replicate 65536

open ArchiveWriter in
theorem ofBytes_finish_sampleCalls :
    (∀ other entry, (other, PendingEntry.carried entry) ∈ sampleCalls longName →
      entry.method = 0 ∨ entry.method = 8) ∧
    ((sampleCalls longName).foldl perform (start "x.jar" {})).finish = .ok sampleArchive.toBytes ∧
    (start "x.jar" {}).accepted (sampleCalls longName)
      = [("b", .fresh [0x61]), ("a", .carried ⟨"a", 8, 0, 0, [3, 0]⟩)] ∧
    Archive.ofBytes "y.jar" sampleArchive.toBytes = .ok sampleArchive := by
  have methods (other : String) (entry : ArchiveEntry)
      (h : (other, PendingEntry.carried entry) ∈ sampleCalls longName) := method_sampleCalls h
  obtain ⟨finished, accepted⟩ := finish_sampleCalls length_longName.ge
  have read := (@ofBytes_finish _ _ "y.jar" _ _ methods finished).1
  rw [accepted] at read
  have narrow : ¬sampleArchive.SeemsWide := by decide +kernel
  exact ⟨methods, finished, accepted, read.trans (if_neg narrow)⟩

/-- A name with the mark of the 64-bit format at the place where it is looked for. -/
def markedName : String :=
  "PK\u0006\u0007aaaaaaaaaaaaaaaa"

open ArchiveWriter in
theorem not_ofBytes_finish : ¬∀ (settings : ArchiveSettings) (path source : String)
    (calls : List (String × PendingEntry)) (bytes : Bytes),
    (∀ name entry, (name, PendingEntry.carried entry) ∈ calls →
      entry.method = 0 ∨ entry.method = 8) →
    (calls.foldl perform (start path settings)).finish = .ok bytes →
    Archive.ofBytes source bytes = .ok (((start path settings).accepted calls).map
      fun (name, pending) => pending.entry settings name) := by
  intro h
  have finished : ([(markedName, PendingEntry.fresh [0x61])].foldl perform (start "" {})).finish
      = .ok (Archive.toBytes [.ofContent {} markedName [0x61]]) := by cbv
  have wide : Archive.ofBytes "" (Archive.toBytes [.ofContent {} markedName [0x61]])
      = .error (.fault "" (.unsupported .zip64)) := by cbv
  cases wide.symm.trans (h {} "" "" _ _ (by simp) finished)

end MethodTrace
