import MethodTrace.Archive.Writer
import MethodTrace.Proofs.Runs
import MethodTrace.Proofs.Utf8

/-!
Archives read back from the bytes that a writer makes of them.
-/

namespace MethodTrace

theorem Bytes.littleEndian_inj {width m n : Nat} (hm : m < Bytes.limit width)
    (hn : n < Bytes.limit width)
    (h : Bytes.littleEndian width m = Bytes.littleEndian width n) : m = n := by
  have read := congrArg Bytes.ofLittleEndian h
  rwa [Bytes.ofLittleEndian_littleEndian, Bytes.ofLittleEndian_littleEndian, Nat.mod_eq_of_lt hm,
    Nat.mod_eq_of_lt hn] at read

namespace ArchiveEntry

theorem length_sharedFields (entry : ArchiveEntry) : entry.sharedFields.length = 26 := by
  simp [sharedFields, timeStamp]

theorem length_localRecord (entry : ArchiveEntry) :
    entry.localRecord.length = entry.recordSize := by
  simp only [localRecord, recordSize, List.length_append, Bytes.length_littleEndian,
    length_sharedFields]

end ArchiveEntry

namespace ArchiveReader

variable {α β : Type} {first second bytes : Bytes} {a : α}

/-- What a reader makes of some bytes, wherever they stand and whatever is behind them: a value for
which it has taken just these bytes, or a fault. -/
def Reads (reader : ArchiveReader α) (bytes : Bytes) (outcome : Except ArchiveFault α) : Prop :=
  ∀ offset rest, reader.run ⟨offset, bytes ++ rest⟩
    = (fun a => (a, ⟨offset + bytes.length, rest⟩)) <$> outcome

theorem Reads.bindM {reader : ArchiveReader α} {next : α → ArchiveReader β}
    {outcome : Except ArchiveFault α} {result : α → Except ArchiveFault β}
    (h : Reads reader first outcome) (hn : ∀ a, Reads (next a) second (result a)) :
    Reads (reader >>= next) (first ++ second) (outcome >>= result) := by
  intro offset rest
  rw [StateT.run_bind, List.append_assoc, h]
  cases outcome with
  | error fault => rfl
  | ok a =>
    rw [List.length_append, ← Nat.add_assoc]
    exact hn a _ _

theorem Reads.bind {reader : ArchiveReader α} {next : α → ArchiveReader β}
    {outcome : Except ArchiveFault β} (h : Reads reader first (.ok a))
    (hn : Reads (next a) second outcome) : Reads (reader >>= next) (first ++ second) outcome := by
  intro offset rest
  rw [StateT.run_bind, List.append_assoc, h, List.length_append, ← Nat.add_assoc]
  exact hn _ _

theorem Reads.pure : Reads (pure a : ArchiveReader α) [] (.ok a) :=
  fun _ _ => rfl

theorem Reads.bind_pure {reader : ArchiveReader α} {f : α → β} (h : Reads reader bytes (.ok a)) :
    Reads (reader >>= fun value => Pure.pure (f value)) bytes (.ok (f a)) := by
  rw [← List.append_nil bytes]
  exact h.bind .pure

theorem Reads.throw_bind {fault : ArchiveFault} {next : α → ArchiveReader β} :
    Reads (throw fault >>= next) bytes (.error fault) :=
  fun _ _ => rfl

theorem Reads.liftM_bind {read : Except ArchiveFault α} {next : α → ArchiveReader β}
    {outcome : Except ArchiveFault β} (h : read = .ok a) (hn : Reads (next a) bytes outcome) :
    Reads (liftM read >>= next) bytes outcome := by
  subst h
  exact hn

theorem reads_take {count : Nat} (h : bytes.length = count) :
    Reads (take count) bytes (.ok bytes) := by
  intro offset rest
  subst h
  change (do
    let taken := (bytes ++ rest).take bytes.length
    if taken.length < bytes.length then throw (.malformed (.truncated offset))
    set (ArchiveCursor.mk (offset + bytes.length) ((bytes ++ rest).drop bytes.length))
    return taken : ArchiveReader Bytes).run ⟨offset, bytes ++ rest⟩ = _
  simp only [List.take_left, List.drop_left, Nat.lt_irrefl, if_false]
  rfl

theorem reads_skip {count : Nat} (h : bytes.length = count) : Reads (skip count) bytes (.ok ()) :=
  (reads_take h).bind_pure

theorem reads_number {width n : Nat} (h : n < Bytes.limit width) :
    Reads (number width) (Bytes.littleEndian width n) (.ok n) := by
  have taken : Reads (number width) (Bytes.littleEndian width n)
      (.ok (Bytes.ofLittleEndian (Bytes.littleEndian width n))) :=
    (reads_take (Bytes.length_littleEndian width n)).bind_pure
  rwa [Bytes.ofLittleEndian_littleEndian, Nat.mod_eq_of_lt h] at taken

/-- What a reader makes of an archive from an offset on. -/
theorem Reads.runAt {reader : ArchiveReader α} {archive rest : Bytes} {offset : Nat}
    {outcome : Except ArchiveFault α} (h : Reads reader bytes outcome)
    (hd : archive.drop offset = bytes ++ rest) : reader.runAt archive offset = outcome := by
  rw [ArchiveReader.runAt, hd, h]
  cases outcome <;> rfl

end ArchiveReader

namespace Archive

open ArchiveReader

/-- The bytes of a whole archive. -/
def toBytes (archive : Archive) : Bytes :=
  archive.flatMap ArchiveEntry.localRecord ++ centralDirectory 0 archive
    ++ endRecord archive.length (centralDirectory 0 archive).length
      (archive.flatMap ArchiveEntry.localRecord).length

/-- An entry whose lengths fit into the fields for them. -/
structure EntryFits (entry : ArchiveEntry) : Prop where
  name : entry.nameBytes.length < UInt16.size
  stored : entry.stored.length < UInt32.size

/-- An archive whose numbers fit into the fields for them. -/
structure Fits (archive : Archive) : Prop where
  entries : ∀ entry ∈ archive, EntryFits entry
  count : archive.length < UInt16.size
  records : (archive.flatMap ArchiveEntry.localRecord).length < UInt32.size
  directory : (centralDirectory 0 archive).length < UInt32.size

theorem reads_storedContent {entry : ArchiveEntry} (fits : EntryFits entry) :
    Reads (storedContent entry.stored.length) entry.localRecord (.ok entry.stored) := by
  have name : entry.nameBytes.length < Bytes.limit 2 := fits.name
  have cut : entry.localRecord = Bytes.littleEndian 4 localSignature
      ++ ((Bytes.littleEndian 2 entry.versionNeeded ++ Bytes.littleEndian 2 entry.nameFlags
        ++ Bytes.littleEndian 2 entry.method.toNat ++ ArchiveEntry.timeStamp
        ++ Bytes.littleEndian 4 entry.checksum.toNat ++ Bytes.littleEndian 4 entry.stored.length
        ++ Bytes.littleEndian 4 entry.size.toNat)
      ++ (Bytes.littleEndian 2 entry.nameBytes.length
      ++ (Bytes.littleEndian 2 0 ++ (entry.nameBytes ++ entry.stored)))) := by
    simp only [ArchiveEntry.localRecord, ArchiveEntry.sharedFields, List.append_assoc]
  rw [cut]
  unfold storedContent
  refine (reads_number (by decide)).bind ?_
  rw [if_neg (by simp)]
  refine (reads_skip (by simp [ArchiveEntry.timeStamp])).bind ?_
  refine (reads_number name).bind ((reads_number (by decide)).bind ?_)
  exact (reads_skip rfl).bind (reads_take rfl)

/-- What is read back for an entry: the entry itself, unless its size is the mark of the 64-bit format
or its method is not known. -/
def readBack (entry : ArchiveEntry) : Except ArchiveFault ArchiveEntry :=
  if entry.size = 0xffffffff then .error (.unsupported .zip64)
  else if (Compression.ofMethod? entry.method).isNone then
    .error (.unsupported (.method entry.method entry.name))
  else .ok entry

theorem eq_of_readBack {entry found : ArchiveEntry} (h : readBack entry = .ok found) :
    entry = found := by
  unfold readBack at h
  split at h
  · cases h
  split at h
  · cases h
  · exact Except.ok.inj h

theorem reads_entry {archive rest : Bytes} {entry : ArchiveEntry} {offset : Nat}
    (fits : EntryFits entry) (ho : offset + entry.recordSize < UInt32.size)
    (hd : archive.drop offset = entry.localRecord ++ rest) :
    Reads (Archive.entry archive) (entry.centralRecord offset) (readBack entry) := by
  rw [ArchiveEntry.recordSize] at ho
  have name : entry.nameBytes.length < Bytes.limit 2 := fits.name
  have stored : entry.stored.length < Bytes.limit 4 := fits.stored
  have place : offset < Bytes.limit 4 := show offset < UInt32.size by omega
  have cut : entry.centralRecord offset = Bytes.littleEndian 4 centralSignature
      ++ ((Bytes.littleEndian 2 20 ++ Bytes.littleEndian 2 entry.versionNeeded)
      ++ (Bytes.littleEndian 2 entry.nameFlags
      ++ (Bytes.littleEndian 2 entry.method.toNat
      ++ (ArchiveEntry.timeStamp
      ++ (Bytes.littleEndian 4 entry.checksum.toNat
      ++ (Bytes.littleEndian 4 entry.stored.length
      ++ (Bytes.littleEndian 4 entry.size.toNat
      ++ (Bytes.littleEndian 2 entry.nameBytes.length
      ++ (Bytes.littleEndian 2 0 ++ (Bytes.littleEndian 2 0
      ++ ((Bytes.littleEndian 2 0 ++ Bytes.littleEndian 2 0 ++ Bytes.littleEndian 4 0)
      ++ (Bytes.littleEndian 4 offset ++ (entry.nameBytes ++ []))))))))))))) := by
    simp only [ArchiveEntry.centralRecord, ArchiveEntry.sharedFields, List.append_assoc,
      List.append_nil]
  have flags : entry.nameFlags < Bytes.limit 2 ∧ entry.nameFlags % 2 = 0 := by
    unfold ArchiveEntry.nameFlags
    split <;> decide
  rw [cut]
  unfold Archive.entry
  refine (reads_number (by decide)).bind ?_
  rw [if_neg (by simp)]
  refine (reads_skip (by simp)).bind ((reads_number flags.1).bind ?_)
  refine (reads_number entry.method.toNat_lt).bind ?_
  refine (reads_skip (by simp [ArchiveEntry.timeStamp])).bind ?_
  refine (reads_number entry.checksum.toNat_lt).bind ((reads_number stored).bind ?_)
  refine (reads_number entry.size.toNat_lt).bind ((reads_number name).bind ?_)
  refine (reads_number (by decide)).bind ((reads_number (by decide)).bind ?_)
  refine (reads_skip (by simp)).bind ((reads_number place).bind ((reads_take rfl).bind ?_))
  rw [ArchiveEntry.nameBytes, Bytes.toString?_ofString]
  dsimp only
  rw [pure_bind, ← List.nil_append []]
  refine (reads_skip (rfl : ([] : Bytes).length = 0 + 0)).bind ?_
  unfold readBack
  rw [UInt16.ofNat_toNat, UInt32.ofNat_toNat, UInt32.ofNat_toNat]
  by_cases wide : entry.size = 0xffffffff
  · rw [if_pos (.inr (.inl (congrArg UInt32.toNat wide))), if_pos wide]
    exact .throw_bind
  have marks : ¬(entry.stored.length = 0xffffffff ∨ entry.size.toNat = 0xffffffff
      ∨ offset = 0xffffffff) := by
    have size : entry.size.toNat ≠ 0xffffffff := fun h => wide (UInt32.toNat_inj.mp h)
    change offset + (30 + entry.nameBytes.length + entry.stored.length) < 4294967296 at ho
    omega
  rw [if_neg marks, if_neg (by omega : ¬entry.nameFlags % 2 = 1), if_neg wide]
  split
  · exact .throw_bind
  · exact .liftM_bind ((reads_storedContent fits).runAt hd) .pure

/-- The entries of an archive are read from its directory, behind as many entries as there are
before them. -/
theorem reads_mapM_entry {bytes tail : Bytes} {before entries : Archive}
    (fits : ∀ entry ∈ entries, EntryFits entry)
    (hb : bytes = (before ++ entries).flatMap ArchiveEntry.localRecord ++ tail)
    (ho : ((before ++ entries).flatMap ArchiveEntry.localRecord).length < UInt32.size) :
    Reads ((List.replicate entries.length ()).mapM fun _ => Archive.entry bytes)
      (centralDirectory (before.flatMap ArchiveEntry.localRecord).length entries)
      (entries.mapM readBack) := by
  induction entries generalizing before with
  | nil => exact .pure
  | cons entry entries ih =>
    have drop : bytes.drop (before.flatMap ArchiveEntry.localRecord).length
        = entry.localRecord ++ (entries.flatMap ArchiveEntry.localRecord ++ tail) := by
      rw [hb, List.flatMap_append, List.append_assoc, List.drop_left, List.flatMap_cons,
        List.append_assoc]
    have offset : (before.flatMap ArchiveEntry.localRecord).length + entry.recordSize
        < UInt32.size := by
      rw [List.flatMap_append, List.length_append, List.flatMap_cons, List.length_append,
        ArchiveEntry.length_localRecord] at ho
      omega
    have shift : before ++ entry :: entries = (before ++ [entry]) ++ entries := by simp
    have next : (before.flatMap ArchiveEntry.localRecord).length + entry.recordSize
        = ((before ++ [entry]).flatMap ArchiveEntry.localRecord).length := by
      simp [List.flatMap_append, ArchiveEntry.length_localRecord]
    rw [List.length_cons, List.replicate_succ, List.mapM_cons, List.mapM_cons, centralDirectory,
      next]
    refine (reads_entry (fits entry (by simp)) offset drop).bindM fun found => ?_
    rw [← List.append_nil (centralDirectory _ entries)]
    exact (ih (fun e he => fits e (by simp [he])) (shift ▸ hb) (shift ▸ ho)).bindM fun _ => .pure

theorem not_isEndRecord_of_short {rest : Bytes} (h : rest.length < endLength) :
    isEndRecord rest = false := by
  simp only [isEndRecord, Bool.and_eq_false_iff, decide_eq_false_iff_not]
  right
  omega

theorem lastEndRecord?_of_short {first offset : Nat} {found : Option Nat} {bytes : Bytes}
    (h : bytes.length < endLength) : lastEndRecord? first offset found bytes = found := by
  induction bytes generalizing offset with
  | nil => rfl
  | cons byte rest ih =>
    rw [lastEndRecord?, not_isEndRecord_of_short h, Bool.and_false]
    exact ih (by simp at h; omega)

/-- A record that ends where the archive does is the last one. -/
theorem lastEndRecord?_append {first offset : Nat} {found : Option Nat} {front tail : Bytes}
    (hr : isEndRecord tail = true) (hl : tail.length = endLength)
    (ho : first ≤ offset + front.length) :
    lastEndRecord? first offset found (front ++ tail) = some (offset + front.length) := by
  induction front generalizing offset found with
  | nil =>
    cases tail with
    | nil => cases hl
    | cons byte tail =>
      rw [List.nil_append, lastEndRecord?, hr, lastEndRecord?_of_short (by simp at hl; omega)]
      simp at ho
      simp [ho]
  | cons byte front ih =>
    rw [List.cons_append, lastEndRecord?, ih (by simp at ho; omega)]
    simp
    omega

theorem length_endRecord (count size offset : Nat) :
    (endRecord count size offset).length = endLength := by
  simp [endRecord, endLength]

theorem isEndRecord_endRecord (count size offset : Nat) :
    isEndRecord (endRecord count size offset) = true := by
  have head : (endRecord count size offset).take 4 = Bytes.littleEndian 4 endSignature := by
    simp only [endRecord, List.append_assoc]
    exact List.take_left' (by simp)
  have comment : (endRecord count size offset).drop 20 = Bytes.littleEndian 2 0 := by
    rw [endRecord]
    exact List.drop_left' (by simp)
  have value : Bytes.ofLittleEndian ((Bytes.littleEndian 2 0).take 2) = 0 := by decide
  simp only [isEndRecord, head, comment, value, length_endRecord]
  simp

theorem endOffset?_toBytes (archive : Archive) :
    endOffset? archive.toBytes = some (archive.flatMap ArchiveEntry.localRecord
      ++ centralDirectory 0 archive).length := by
  unfold endOffset? toBytes
  rw [lastEndRecord?_append (isEndRecord_endRecord _ _ _) (length_endRecord _ _ _)]
  · simp
  · rw [List.length_append, length_endRecord]
    omega

theorem reads_directory {count size offset : Nat} (hc : count < UInt16.size)
    (hs : size < UInt32.size) (ho : offset < UInt32.size) :
    Reads directory (Bytes.littleEndian 2 0 ++ (Bytes.littleEndian 2 0
      ++ (Bytes.littleEndian 2 count ++ (Bytes.littleEndian 2 count
      ++ (Bytes.littleEndian 4 size ++ (Bytes.littleEndian 4 offset ++ []))))))
      (if count = 0xffff ∨ size = 0xffffffff ∨ offset = 0xffffffff then
        .error (.unsupported .zip64) else .ok ⟨count, offset⟩) := by
  unfold directory
  refine (reads_number (by decide)).bind ((reads_number (by decide)).bind ?_)
  refine (reads_number hc).bind ((reads_number hc).bind ?_)
  refine (reads_number hs).bind ((reads_number ho).bind ?_)
  rw [if_neg (by simp)]
  split
  · exact .throw_bind
  · exact .pure

/-- Numbers of one width in front of some bytes are the same where all the bytes are. -/
theorem littleEndian_append_inj {width m n : Nat} {first second : Bytes}
    (hm : m < Bytes.limit width) (hn : n < Bytes.limit width)
    (h : Bytes.littleEndian width m ++ first = Bytes.littleEndian width n ++ second) :
    m = n ∧ first = second := by
  obtain ⟨numbers, rest⟩ := List.append_inj h (by simp)
  exact ⟨Bytes.littleEndian_inj hm hn numbers, rest⟩

/-- The record of an entry tells where it ends. -/
theorem localRecord_append_inj {entry other : ArchiveEntry} {first second : Bytes}
    (he : EntryFits entry) (ho : EntryFits other)
    (h : entry.localRecord ++ first = other.localRecord ++ second) :
    entry = other ∧ first = second := by
  have stored : entry.stored.length < Bytes.limit 4 := he.stored
  have stored' : other.stored.length < Bytes.limit 4 := ho.stored
  have name : entry.nameBytes.length < Bytes.limit 2 := he.name
  have name' : other.nameBytes.length < Bytes.limit 2 := ho.name
  simp only [ArchiveEntry.localRecord, ArchiveEntry.sharedFields, List.append_assoc] at h
  obtain ⟨_, h⟩ := List.append_inj h rfl
  obtain ⟨_, h⟩ := List.append_inj h (by simp)
  obtain ⟨_, h⟩ := List.append_inj h (by simp)
  obtain ⟨method, h⟩ := littleEndian_append_inj entry.method.toNat_lt other.method.toNat_lt h
  obtain ⟨_, h⟩ := List.append_inj h rfl
  obtain ⟨checksum, h⟩ :=
    littleEndian_append_inj entry.checksum.toNat_lt other.checksum.toNat_lt h
  obtain ⟨length, h⟩ := littleEndian_append_inj stored stored' h
  obtain ⟨size, h⟩ := littleEndian_append_inj entry.size.toNat_lt other.size.toNat_lt h
  obtain ⟨nameLength, h⟩ := littleEndian_append_inj name name' h
  obtain ⟨_, h⟩ := List.append_inj h rfl
  obtain ⟨names, h⟩ := List.append_inj h nameLength
  obtain ⟨contents, rest⟩ := List.append_inj h length
  have text := congrArg Bytes.toString? names
  rw [ArchiveEntry.nameBytes, ArchiveEntry.nameBytes, Bytes.toString?_ofString,
    Bytes.toString?_ofString] at text
  refine ⟨?_, rest⟩
  cases entry
  cases other
  simp only [ArchiveEntry.mk.injEq]
  exact ⟨Option.some.inj text, UInt16.toNat_inj.mp method, UInt32.toNat_inj.mp checksum,
    UInt32.toNat_inj.mp size, contents⟩

theorem flatMap_localRecord_inj {archive other : Archive}
    (ha : ∀ entry ∈ archive, EntryFits entry) (ho : ∀ entry ∈ other, EntryFits entry)
    (h : archive.flatMap ArchiveEntry.localRecord = other.flatMap ArchiveEntry.localRecord) :
    archive = other := by
  have nonempty (entry : ArchiveEntry) (rest : Bytes) : entry.localRecord ++ rest ≠ [] := by
    intro hn
    have := congrArg List.length hn
    rw [List.length_append, ArchiveEntry.length_localRecord, ArchiveEntry.recordSize] at this
    simp at this
  induction archive generalizing other with
  | nil =>
    cases other with
    | nil => rfl
    | cons entry other =>
      rw [List.flatMap_cons] at h
      exact absurd h.symm (nonempty _ _)
  | cons entry archive ih =>
    cases other with
    | nil =>
      rw [List.flatMap_cons] at h
      exact absurd h (nonempty _ _)
    | cons entry' other =>
      rw [List.flatMap_cons, List.flatMap_cons] at h
      obtain ⟨rfl, rest⟩ := localRecord_append_inj (ha _ (by simp)) (ho _ (by simp)) h
      rw [ih (fun e he => ha e (by simp [he])) (fun e he => ho e (by simp [he])) rest]

/-- Archives with the same bytes are the same. -/
theorem toBytes_inj {archive other : Archive} (ha : Fits archive) (ho : Fits other)
    (h : archive.toBytes = other.toBytes) : archive = other := by
  obtain ⟨front, last⟩ := List.append_inj' h (by rw [length_endRecord, length_endRecord])
  obtain ⟨last, _⟩ := List.append_inj' last rfl
  obtain ⟨_, offset⟩ := List.append_inj' last (by simp)
  have lengths := Bytes.littleEndian_inj ha.records ho.records offset
  exact flatMap_localRecord_inj ha.entries ho.entries (List.append_inj front lengths).1

/-- The offset of the record at the end. -/
def endOffset (archive : Archive) : Nat :=
  (archive.flatMap ArchiveEntry.localRecord ++ centralDirectory 0 archive).length

/-- What is read from the bytes of an archive: what is read back for its entries, unless the record at
the end has a mark of the 64-bit format in one of its fields or before it. -/
theorem entries_toBytes {archive : Archive} (fits : Fits archive) : entries archive.toBytes =
    if hasZip64Marker archive.toBytes archive.endOffset = true ∨ archive.length = 0xffff
      ∨ (centralDirectory 0 archive).length = 0xffffffff
      ∨ (archive.flatMap ArchiveEntry.localRecord).length = 0xffffffff
    then .error (.unsupported .zip64) else archive.mapM readBack := by
  have cut (count size offset : Nat) : endRecord count size offset
      = Bytes.littleEndian 4 endSignature ++ ((Bytes.littleEndian 2 0 ++ (Bytes.littleEndian 2 0
        ++ (Bytes.littleEndian 2 count ++ (Bytes.littleEndian 2 count
        ++ (Bytes.littleEndian 4 size ++ (Bytes.littleEndian 4 offset ++ []))))))
        ++ Bytes.littleEndian 2 0) := by
    simp only [endRecord, List.append_assoc, List.append_nil]
  have last : archive.toBytes.drop (archive.endOffset + 4)
        = (Bytes.littleEndian 2 0 ++ (Bytes.littleEndian 2 0
        ++ (Bytes.littleEndian 2 archive.length ++ (Bytes.littleEndian 2 archive.length
        ++ (Bytes.littleEndian 4 (centralDirectory 0 archive).length
        ++ (Bytes.littleEndian 4 (archive.flatMap ArchiveEntry.localRecord).length ++ []))))))
        ++ Bytes.littleEndian 2 0 := by
    rw [endOffset, ← List.drop_drop, toBytes, List.drop_left, cut, List.drop_left' (by simp)]
  have listed : archive.toBytes.drop (archive.flatMap ArchiveEntry.localRecord).length
      = centralDirectory 0 archive ++ endRecord archive.length (centralDirectory 0 archive).length
        (archive.flatMap ArchiveEntry.localRecord).length := by
    rw [toBytes, List.append_assoc, List.drop_left]
  have directory := (reads_directory fits.count fits.directory fits.records).runAt last
  have all := (@reads_mapM_entry archive.toBytes _ [] archive fits.entries
    (by rw [toBytes, List.append_assoc]; rfl) fits.records).runAt listed
  unfold entries
  rw [endOffset?_toBytes]
  dsimp only
  rw [← endOffset]
  by_cases marked : hasZip64Marker archive.toBytes archive.endOffset = true
  · rw [if_pos marked, if_pos (.inl marked)]
    rfl
  · rw [if_neg marked, directory]
    split
    · next fields => rw [if_pos (.inr fields)]; rfl
    · next fields => rw [if_neg (not_or.mpr ⟨marked, fields⟩)]; exact all

/-- What is read from the bytes of an archive is the archive. -/
theorem eq_of_entries_toBytes {archive read : Archive} (fits : Fits archive)
    (h : entries archive.toBytes = .ok read) : read = archive := by
  rw [entries_toBytes fits] at h
  split at h
  · cases h
  have same := (Except.mapM_eq_ok_iff.mp h).imp fun _ _ hb => eq_of_readBack hb
  exact (List.forall₂_eq_eq_eq ▸ same : archive = read).symm

/-- An archive holds the third byte of the mark of its last record. -/
theorem five_mem_of_entries {bytes : Bytes} {read : Archive} (h : entries bytes = .ok read) :
    5 ∈ bytes := by
  have record {rest : Bytes} (h : isEndRecord rest = true) : 5 ∈ rest := by
    simp only [isEndRecord, Bool.and_eq_true, beq_iff_eq] at h
    apply List.mem_of_mem_take (i := 4)
    rw [h.1]
    decide
  have search : ∀ (first offset last : Nat) (bytes : Bytes),
      lastEndRecord? first offset none bytes = some last → 5 ∈ bytes := by
    intro first offset last bytes
    induction bytes generalizing offset with
    | nil => intro h; cases h
    | cons byte rest ih =>
      intro h
      cases here : isEndRecord (byte :: rest) with
      | true => exact record here
      | false =>
        rw [lastEndRecord?, here, Bool.and_false] at h
        exact List.mem_cons_of_mem _ (ih _ h)
  unfold entries at h
  split at h
  · cases h
  next last found => exact search _ _ last bytes found

end Archive

end MethodTrace
