import MethodTrace.Code.Frame
import MethodTrace.Proofs.BoundaryTables

/-!
Frame tables that are read as they have been written.

A frame is written as a difference to the one before, in the shortest form that there is for it, and
is read from any of them. The step to its offset has no sign: a table is read again if and only if
its frames stand in ascending order.
-/

namespace MethodTrace

open Layout

namespace VerificationType

variable {code : Decoded} {type : VerificationType}

/-- A type whose label, if it has one, lies in code of so many instructions. -/
def Within (size : Nat) : VerificationType → Prop
  | uninitialized label => label ≤ size
  | _ => True

theorem takes_read (h : code.Regular) (hw : type.Within code.instructions.size) :
    (read code).Takes (type.write code.offsets) type := by
  unfold read
  cases type with
  | top => exact (Reader.takes_byte 0).bind (.pure _)
  | int => exact (Reader.takes_byte 1).bind (.pure _)
  | float => exact (Reader.takes_byte 2).bind (.pure _)
  | double => exact (Reader.takes_byte 3).bind (.pure _)
  | long => exact (Reader.takes_byte 4).bind (.pure _)
  | null => exact (Reader.takes_byte 5).bind (.pure _)
  | uninitializedThis => exact (Reader.takes_byte 6).bind (.pure _)
  | object classRef => exact (Reader.takes_byte 7).bind (Reader.takes_u16 classRef).bind_pure
  | uninitialized label =>
    obtain ⟨word, offset_eq, offset⟩ := Reader.takes_length_u16 (h.offset_lt hw)
    have lands := Reader.takes_lift (offset_eq ▸ h.labelAt hw)
    have bytes : (uninitialized label).write code.offsets
        = [8] ++ (Bytes.bigEndian 2 (offsetAt code.offsets label) ++ []) := by
      simp [write, offsetAt]
    refine .congr ?_ bytes
    exact (Reader.takes_byte 8).bind (offset.bind lands.bind_pure)

theorem read_yields (h : code.Ascending) : (read code).Yields (Within code.instructions.size) := by
  refine .bind fun tag => ?_
  split
  case h_9 =>
    exact .bind fun offset => .bind_of (.lift fun label => h.labelAt_le_size) fun label hl => .pure hl
  case h_8 => exact .bind fun classRef => .pure trivial
  case h_10 => exact .throw _
  all_goals exact .pure trivial

end VerificationType

namespace Frame

variable {code : Decoded} {previous locals stack : List VerificationType}

/-- Locals and a stack for which there is a form after other locals. -/
inductive HasForm (previous locals stack : List VerificationType) : Prop
  | same (locals_eq : locals = previous) (stack_le : stack.length ≤ 1)
  | longer (extends_previous : previous <+: locals) (length_le : locals.length ≤ previous.length + 3)
    (stack_eq : stack = [])
  | shorter (extended : locals <+: previous) (length_le : previous.length ≤ locals.length + 3)
    (stack_eq : stack = [])
  | full (locals_lt : locals.length < UInt16.size) (stack_lt : stack.length < UInt16.size)

theorem HasForm.map (h : HasForm previous locals stack)
    (f : VerificationType → VerificationType) :
    HasForm (previous.map f) (locals.map f) (stack.map f) := by
  cases h with
  | same locals_eq stack_le =>
    rw [locals_eq]
    exact .same rfl (by rwa [List.length_map])
  | longer extends_previous length_le stack_eq =>
    rw [stack_eq]
    exact .longer (extends_previous.map f) (by rwa [List.length_map, List.length_map]) rfl
  | shorter extended length_le stack_eq =>
    rw [stack_eq]
    exact .shorter (extended.map f) (by rwa [List.length_map, List.length_map]) rfl
  | full locals_lt stack_lt =>
    exact .full (by rwa [List.length_map]) (by rwa [List.length_map])

/-- Lists that fit into no short form are written at length. -/
theorem HasForm.full_of_not (h : HasForm previous locals stack)
    (same : stack.length ≤ 1 → locals ≠ previous)
    (longer : ¬(stack = [] ∧ previous.length < locals.length ∧
      locals.length ≤ previous.length + 3 ∧ previous <+: locals))
    (shorter : ¬(stack = [] ∧ locals.length < previous.length ∧
      previous.length ≤ locals.length + 3 ∧ locals <+: previous)) :
    locals.length < UInt16.size ∧ stack.length < UInt16.size := by
  cases h with
  | same locals_eq stack_le => exact absurd locals_eq (same stack_le)
  | longer extends_previous length_le stack_eq =>
    rcases Nat.lt_or_eq_of_le extends_previous.length_le with lt | eq
    · exact absurd ⟨stack_eq, lt, length_le, extends_previous⟩ longer
    · exact absurd (extends_previous.eq_of_length eq).symm (same (by simp [stack_eq]))
  | shorter extended length_le stack_eq =>
    rcases Nat.lt_or_eq_of_le extended.length_le with lt | eq
    · exact absurd ⟨stack_eq, lt, length_le, extended⟩ shorter
    · exact absurd (extended.eq_of_length eq) (same (by simp [stack_eq]))
  | full locals_lt stack_lt => exact ⟨locals_lt, stack_lt⟩

section Forms

variable (h : code.Regular) {step : UInt16} {item : VerificationType}

theorem toUInt8_small (hs : step < 64) : step.toUInt8.toNat = step.toNat := by
  rw [UInt16.lt_iff_toNat_lt] at hs
  change step.toNat < 64 at hs
  rw [UInt16.toNat_toUInt8]
  omega

theorem takes_same (hs : step < 64) :
    (readForm code locals step.toUInt8).Takes [] (step, locals, []) := by
  have small := toUInt8_small hs
  have low : step.toUInt8 < 64 := by
    rw [UInt8.lt_iff_toNat_lt, small]
    exact UInt16.lt_iff_toNat_lt.mp hs
  have step_eq : step.toUInt8.toUInt16 = step :=
    UInt16.toNat_inj.mp (by rw [UInt8.toNat_toUInt16, small])
  rw [readForm, if_pos low, step_eq]
  exact .pure _

include h

theorem takes_item (hs : step < 64) (hi : item.Within code.instructions.size) :
    (readForm code locals (64 + step.toUInt8)).Takes (item.write code.offsets)
      (step, locals, [item]) := by
  have small := toUInt8_small hs
  have bound : step.toNat < 64 := UInt16.lt_iff_toNat_lt.mp hs
  have form : (64 + step.toUInt8).toNat = 64 + step.toNat := by
    rw [UInt8.toNat_add, small]
    change (64 + step.toNat) % 256 = _
    omega
  have low : ¬64 + step.toUInt8 < 64 := by
    rw [UInt8.lt_iff_toNat_lt, form]
    exact Nat.not_lt.mpr (Nat.le_add_right 64 _)
  have high : 64 + step.toUInt8 < 128 := by
    rw [UInt8.lt_iff_toNat_lt, form]
    change _ < 128
    omega
  have step_eq : (64 + step.toUInt8).toUInt16 - 64 = step := by
    apply UInt16.toNat_inj.mp
    rw [UInt16.toNat_sub, UInt8.toNat_toUInt16, form]
    change (65536 - 64 + (64 + step.toNat)) % 65536 = _
    omega
  rw [readForm, if_neg low, if_pos high, step_eq]
  exact (VerificationType.takes_read h hi).bind_pure

theorem takes_itemStep (hi : item.Within code.instructions.size) :
    (readForm code locals 247).Takes (Bytes.ofUInt16 step ++ item.write code.offsets)
      (step, locals, [item]) :=
  (Reader.takes_u16 step).bind (VerificationType.takes_read h hi).bind_pure

omit h in
theorem takes_shorter {removed : Nat} (hr : 0 < removed ∧ removed ≤ 3)
    (hl : removed ≤ locals.length) :
    (readForm code locals (UInt8.ofNat (251 - removed))).Takes (Bytes.ofUInt16 step)
      (step, locals.take (locals.length - removed), []) := by
  have removed_eq : 251 - (UInt8.ofNat (251 - removed)).toNat = removed := by
    rw [UInt8.toNat_ofNat']
    omega
  obtain rfl | rfl | rfl : removed = 1 ∨ removed = 2 ∨ removed = 3 := by omega
  all_goals
    rw [readForm, if_neg (by decide), if_neg (by decide), if_neg (by decide), if_neg (by decide),
      if_pos (by decide)]
    dsimp only
    rw [removed_eq, if_neg (Nat.not_lt.mpr hl)]
    exact (Reader.takes_u16 step).bind_pure

theorem takes_types {types : List VerificationType}
    (ht : ∀ type ∈ types, type.Within code.instructions.size) :
    (Reader.times types.length (VerificationType.read code)).Takes
      (types.flatMap (·.write code.offsets)) types := by
  have all := Reader.takes_times (f := id) fun type hm => VerificationType.takes_read h (ht type hm)
  rwa [List.map_id] at all

theorem takes_longer {added : List VerificationType} (ha : added.length ≤ 3)
    (ht : ∀ type ∈ added, type.Within code.instructions.size) :
    (readForm code locals (UInt8.ofNat (251 + added.length))).Takes
      (Bytes.ofUInt16 step ++ added.flatMap (·.write code.offsets))
      (step, locals ++ added, []) := by
  have count : (UInt8.ofNat (251 + added.length)).toNat - 251 = added.length := by
    rw [UInt8.toNat_ofNat']
    omega
  have types := takes_types h ht
  generalize added.length = number at ha count types
  obtain rfl | rfl | rfl | rfl : number = 0 ∨ number = 1 ∨ number = 2 ∨ number = 3 := by omega
  all_goals
    rw [readForm, if_neg (by decide), if_neg (by decide), if_neg (by decide), if_neg (by decide),
      if_neg (by decide), if_pos (by decide), count]
    exact (Reader.takes_u16 step).bind types.bind_pure

theorem takes_full (hl : ∀ type ∈ locals, type.Within code.instructions.size)
    (hs : ∀ type ∈ stack, type.Within code.instructions.size)
    (locals_lt : locals.length < UInt16.size) (stack_lt : stack.length < UInt16.size) :
    (readForm code previous 255).Takes
      (Bytes.ofUInt16 step ++ (Bytes.counted (·.write code.offsets) locals
        ++ Bytes.counted (·.write code.offsets) stack)) (step, locals, stack) :=
  (Reader.takes_u16 step).bind
    ((Reader.takes_counted locals_lt fun type hm => VerificationType.takes_read h (hl type hm)).bind
      (Reader.takes_counted stack_lt fun type hm =>
        VerificationType.takes_read h (hs type hm)).bind_pure)

/-- A frame is read after other locals in the form in which it is written. -/
theorem takes_write {frame : Frame} (hf : HasForm previous frame.locals frame.stack)
    (hl : ∀ type ∈ frame.locals, type.Within code.instructions.size)
    (hs : ∀ type ∈ frame.stack, type.Within code.instructions.size) :
    (Reader.u8 >>= readForm code previous).Takes (frame.write code.offsets previous step)
      (step, frame.locals, frame.stack) := by
  unfold write
  extract_lets types known count
  split
  · next stack_eq same =>
    rw [stack_eq, beq_iff_eq.mp same]
    split
    · next hlt => exact (Reader.takes_byte _).bind (takes_same hlt)
    · have step_only := @takes_longer _ previous h step [] (by simp) (by simp)
      rw [List.flatMap_nil, List.append_nil, List.append_nil] at step_only
      exact (Reader.takes_byte 251).bind step_only
  · next item stack_eq same =>
    have hi : item.Within code.instructions.size := hs item (by simp [stack_eq])
    rw [stack_eq, beq_iff_eq.mp same]
    split
    · next hlt => exact (Reader.takes_byte _).bind (takes_item h hlt hi)
    · exact (Reader.takes_byte 247).bind (takes_itemStep h hi)
  · next empty single =>
    simp only [Bool.and_eq_true, List.isEmpty_iff, decide_eq_true_eq, List.isPrefixOf_iff_prefix,
      and_assoc]
    split
    · next longer =>
      obtain ⟨stack_eq, _, few, added, locals_eq⟩ := longer
      have ha : ∀ type ∈ added, type.Within code.instructions.size := fun type hm =>
        hl type (by rw [← locals_eq]; exact List.mem_append_right _ hm)
      have number : count - known = added.length := by
        simp only [count, known, ← locals_eq, List.length_append]
        omega
      have rest : frame.locals.drop known = added := by
        rw [← locals_eq]
        exact List.drop_left
      have read := @takes_longer _ previous h step added (by omega) ha
      rw [number, rest, stack_eq, ← locals_eq]
      exact (Reader.takes_byte _).bind read
    · next not_longer =>
      split
      · next shorter =>
        obtain ⟨stack_eq, fewer, few, extended⟩ := shorter
        have removed : known - (known - count) = count := by omega
        have read := @takes_shorter code previous step (known - count) (by omega) (Nat.sub_le _ _)
        have kept : previous.take count = frame.locals := (List.prefix_iff_eq_take.mp extended).symm
        rw [show previous.length = known from rfl, removed, kept] at read
        rw [stack_eq]
        exact (Reader.takes_byte _).bind read
      · next not_shorter =>
        have same (short : frame.stack.length ≤ 1) : frame.locals ≠ previous := by
          intro locals_eq
          rcases hstack : frame.stack with _ | ⟨item, _ | ⟨other, rest⟩⟩
          · exact empty hstack (beq_iff_eq.mpr locals_eq)
          · exact single item hstack (beq_iff_eq.mpr locals_eq)
          · simp [hstack] at short
        obtain ⟨locals_lt, stack_lt⟩ := hf.full_of_not same not_longer not_shorter
        have read := @takes_full _ previous _ _ h step hl hs locals_lt stack_lt
        refine .congr ((Reader.takes_byte 255).bind read) ?_
        simp [Bytes.counted, types, count]

end Forms

/-- The step from an offset to another one, as it is written. -/
def stepWord (next offset : Nat) : UInt16 :=
  UInt16.ofNat (((offset : Int) - next) % 65536).toNat

theorem stepWord_toNat {next offset : Nat} (hn : next ≤ UInt16.size) (ho : offset < UInt16.size) :
    (stepWord next offset).toNat =
      if next ≤ offset then offset - next else offset + UInt16.size - next := by
  change next ≤ 65536 at hn
  change offset < 65536 at ho
  rw [stepWord, UInt16.toNat_ofNat']
  change _ = if next ≤ offset then offset - next else offset + 65536 - next
  split <;> omega

/-- A frame that lies in code of so many instructions. -/
structure Within (size : Nat) (frame : Frame) : Prop where
  label : frame.label ≤ size
  locals : ∀ type ∈ frame.locals, type.Within size
  stack : ∀ type ∈ frame.stack, type.Within size

section Steps

variable (h : code.Regular) {frame : Frame} {next : Nat}
  (hf : HasForm previous frame.locals frame.stack) (hw : frame.Within code.instructions.size)
  (hn : next ≤ UInt16.size)
include h hf hw hn

theorem readNext_onPart (extent : Nat) (rest : Bytes) :
    (readNext code ⟨next, previous⟩).onPart extent
      (frame.write code.offsets previous (stepWord next (offsetAt code.offsets frame.label)) ++ rest)
      = if next ≤ offsetAt code.offsets frame.label then
          .ok ((frame, ⟨offsetAt code.offsets frame.label + 1, frame.locals⟩), rest)
        else .error (.code (.notBoundary (offsetAt code.offsets frame.label + UInt16.size))) := by
  unfold readNext
  rw [← bind_assoc]
  refine (takes_write h hf hw.locals hw.stack).onPart_bind ?_
  dsimp only
  rw [stepWord_toNat hn (h.offset_lt hw.label)]
  split
  · next forward =>
    rw [Nat.add_sub_cancel' forward]
    exact @Reader.Takes.onPart_bind _ _ _ [] _ _ _ _ _ (Reader.takes_lift (h.labelAt hw.label)) rfl
  · next backward =>
    have behind : next + (offsetAt code.offsets frame.label + UInt16.size - next)
        = offsetAt code.offsets frame.label + UInt16.size := by omega
    rw [behind, h.labelAt_of_size_le (Nat.le_add_left _ _)]
    rfl

end Steps

/-- Frames each of which has a form after the locals of the one before. -/
def HaveForms (previous : List VerificationType) : List Frame → Prop
  | [] => True
  | frame :: frames => HasForm previous frame.locals frame.stack ∧ HaveForms frame.locals frames

/-- Frames that stand in ascending order, from a certain place on. -/
def Ascending (start : Nat) : List Frame → Prop
  | [] => True
  | frame :: frames => start ≤ frame.label ∧ Ascending (frame.label + 1) frames

theorem writeAll_cons (offsets : Array Nat) (next : Nat) (previous : List VerificationType)
    (frame : Frame) (frames : List Frame) : writeAll offsets next previous (frame :: frames)
      = frame.write offsets previous (stepWord next (offsetAt offsets frame.label))
        ++ writeAll offsets ↑(offsetAt offsets frame.label + 1) frame.locals frames := rfl

section Tables

variable (h : code.Regular) {frames : List Frame}
include h

/-- What has been written after a cursor is read if and only if it is in ascending order. -/
theorem readAll_onPart_iff {next start extent : Nat} {before found : List Frame} {rest left : Bytes}
    (hf : HaveForms previous frames) (hw : ∀ frame ∈ frames, frame.Within code.instructions.size)
    (hn : next ≤ UInt16.size) (hstart : ∀ label ≤ code.instructions.size,
      start ≤ label ↔ next ≤ offsetAt code.offsets label) :
    (readAll code frames.length ⟨next, previous⟩ before).onPart extent
        (writeAll code.offsets next previous frames ++ rest) = .ok (found, left) ↔
      Ascending start frames ∧ found = before.reverse ++ frames ∧ left = rest := by
  induction frames generalizing next start previous before with
  | nil =>
    have read : (readAll code 0 ⟨next, previous⟩ before).onPart extent rest
        = .ok (before.reverse, rest) := rfl
    simp only [List.length_nil, writeAll, List.nil_append, read, Except.ok.injEq, Prod.mk.injEq,
      Ascending, true_and, List.append_nil]
    exact and_congr eq_comm eq_comm
  | cons frame frames ih =>
    obtain ⟨form, hf⟩ := hf
    obtain ⟨within, hw⟩ := List.forall_mem_cons.mp hw
    have lt := h.offset_lt within.label
    have later := @ih _ (offsetAt code.offsets frame.label + 1) (frame.label + 1) (frame :: before)
      hf hw lt ?_
    · rw [List.length_cons, readAll, Reader.bind_onPart_iff, writeAll_cons, List.append_assoc,
        readNext_onPart h form within hn, Ascending, hstart _ within.label]
      split
      · next forward =>
        constructor
        · rintro ⟨_, _, first, others⟩
          cases first
          obtain ⟨ascending, rfl, rfl⟩ := later.mp others
          exact ⟨⟨forward, ascending⟩, by simp, rfl⟩
        · rintro ⟨⟨_, ascending⟩, rfl, rfl⟩
          exact ⟨_, _, rfl, later.mpr ⟨ascending, by simp, rfl⟩⟩
      · next backward => simp [backward]
    · intro label hl
      exact h.ascending.lt_iff within.label hl

omit h in
theorem decodeTable_eq_ok_iff {info : Bytes} {initial : List VerificationType}
    {found : List Frame} : decodeTable info initial code = .ok found ↔
      (Reader.u16 >>= fun count => readAll code count.toNat ⟨0, initial⟩ []).onSlice info
        = .ok (found, []) := by
  constructor
  · intro hd
    obtain ⟨⟨frames, rest⟩, hr, hd⟩ := Except.bind_eq_ok_iff.mp hd
    dsimp only at hd
    split at hd
    · cases hd
    · next hrest =>
      cases hd
      rw [Decidable.not_not.mp hrest] at hr
      exact hr
  · intro hr
    exact Except.bind_eq_ok_iff.mpr ⟨_, hr, rfl⟩

/-- A table is read from what is written for frames if and only if they are in ascending order. -/
theorem decodeTable_encodeTable_iff {initial : List VerificationType} {found : List Frame}
    (hf : HaveForms initial frames) (hw : ∀ frame ∈ frames, frame.Within code.instructions.size)
    (hc : frames.length < UInt16.size) :
    decodeTable (encodeTable frames initial code.offsets) initial code = .ok found ↔
      Ascending 0 frames ∧ found = frames := by
  obtain ⟨count, count_eq, counted⟩ := Reader.takes_length_u16 hc
  have all := @readAll_onPart_iff _ _ h _ 0 0 (encodeTable frames initial code.offsets).length [] found
    [] [] hf hw (Nat.zero_le _) fun label _ => by simp
  rw [List.append_nil, count_eq] at all
  rw [decodeTable_eq_ok_iff, Reader.onSlice]
  generalize (encodeTable frames initial code.offsets).length = extent at all ⊢
  rw [encodeTable, @Reader.Takes.onPart_bind _ _ _ _ _ _ _
    (fun count => readAll code count.toNat ⟨0, initial⟩ []) _ counted rfl]
  simpa using all

end Tables

section Read

variable (h : code.Ascending)
include h

theorem readForm_yields (form : UInt8)
    (hl : ∀ type ∈ locals, type.Within code.instructions.size) :
    (readForm code locals form).Yields fun read => HasForm locals read.2.1 read.2.2 ∧
      (∀ type ∈ read.2.1, type.Within code.instructions.size) ∧
      ∀ type ∈ read.2.2, type.Within code.instructions.size := by
  have item := VerificationType.read_yields h
  have single {type : VerificationType} (ht : type.Within code.instructions.size) :
      ∀ other ∈ [type], other.Within code.instructions.size := by
    simpa using ht
  unfold readForm
  refine .ite (fun _ => .pure ⟨.same rfl (by simp), hl, by simp⟩) fun _ => ?_
  refine .ite (fun _ => .bind_of item fun type ht => .pure ⟨.same rfl (by simp), hl, single ht⟩)
    fun _ => ?_
  refine .ite (fun _ => .throw _) fun reserved => ?_
  refine .ite (fun _ => .bind fun step => .bind_of item fun type ht =>
    .pure ⟨.same rfl (by simp), hl, single ht⟩) fun other => ?_
  refine .ite (fun _ => ?_) fun _ => .ite (fun high => ?_) fun _ => ?_
  · dsimp only
    refine .ite (fun _ => .throw_bind _ _) fun enough => .bind fun step => .pure ⟨?_, ?_, by simp⟩
    · refine .shorter (List.take_prefix _ _) ?_ rfl
      have few : 251 - form.toNat ≤ 3 := by
        rw [UInt8.lt_iff_toNat_lt] at reserved
        change ¬form.toNat < 247 at reserved
        have ne : form.toNat ≠ 247 := fun eq => other (UInt8.toNat_inj.mp eq)
        omega
      rw [List.length_take]
      omega
    · exact fun type ht => hl type (List.mem_of_mem_take ht)
  · have added : (Reader.times (form.toNat - 251) (VerificationType.read code)).Yields fun added =>
        added.length = form.toNat - 251 ∧ ∀ type ∈ added, type.Within code.instructions.size :=
      ⟨fun hr => ⟨(Reader.times_yields _ _).of_ok hr, (Reader.times_forall item _).of_ok hr⟩⟩
    refine .bind fun step => .bind_of added fun added ⟨length, within⟩ => .pure ⟨?_, ?_, by simp⟩
    · refine .longer (List.prefix_append _ _) ?_ rfl
      rw [UInt8.lt_iff_toNat_lt] at high
      change form.toNat < 255 at high
      rw [List.length_append]
      omega
    · intro type ht
      rcases List.mem_append.mp ht with ht | ht
      · exact hl type ht
      · exact within type ht
  · have list := Reader.counted_yields item
    refine .bind fun step => .bind_of list fun locals hlocals => .bind_of list fun stack hstack => ?_
    exact .pure ⟨.full hlocals.length hstack.length, hlocals.all, hstack.all⟩

theorem readNext_yields {next : Nat} (hl : ∀ type ∈ previous, type.Within code.instructions.size) :
    (readNext code ⟨next, previous⟩).Yields fun read =>
      HasForm previous read.1.locals read.1.stack ∧ read.1.Within code.instructions.size ∧
        next ≤ offsetAt code.offsets read.1.label ∧
        read.2 = ⟨offsetAt code.offsets read.1.label + 1, read.1.locals⟩ := by
  refine .bind fun form => .bind_of (readForm_yields h form hl) ?_
  rintro ⟨step, locals, stack⟩ ⟨hasForm, hlocals, hstack⟩
  have place : (liftM (code.labelAt (next + step.toNat)) : Reader Label).Yields fun label =>
      label ≤ code.instructions.size ∧ offsetAt code.offsets label = next + step.toNat :=
    .lift fun label hlabel => ⟨h.labelAt_le_size hlabel, Decoded.offsetAt_of_labelAt hlabel⟩
  refine .bind_of place fun label ⟨hlabel, offset⟩ => .pure ?_
  refine ⟨hasForm, ⟨hlabel, hlocals, hstack⟩, ?_, by rw [offset]⟩
  dsimp only
  omega

/-- Frames are read in ascending order and in the forms that there are. -/
theorem readAll_yields {count next start : Nat} {before : List Frame}
    (hl : ∀ type ∈ previous, type.Within code.instructions.size)
    (hstart : ∀ label ≤ code.instructions.size,
      next ≤ offsetAt code.offsets label → start ≤ label) :
    (readAll code count ⟨next, previous⟩ before).Yields fun found => ∃ frames,
      found = before.reverse ++ frames ∧ frames.length = count ∧ HaveForms previous frames ∧
        (∀ frame ∈ frames, frame.Within code.instructions.size) ∧ Ascending start frames := by
  induction count generalizing next start previous before with
  | zero => exact .pure ⟨[], by simp, rfl, trivial, by simp, trivial⟩
  | succ count ih =>
    refine .bind_of (readNext_yields h hl) ?_
    rintro ⟨frame, cursor⟩ ⟨hasForm, within, forward, cursor_eq⟩
    dsimp only at hasForm within forward cursor_eq ⊢
    subst cursor_eq
    refine ⟨fun hr => ?_⟩
    obtain ⟨frames, rfl, length, forms, hw, ascending⟩ :=
      (@ih _ _ (frame.label + 1) _ within.locals fun label hle =>
        (h.lt_iff within.label hle).mpr).of_ok hr
    exact ⟨frame :: frames, by simp, by rw [List.length_cons, length], ⟨hasForm, forms⟩,
      List.forall_mem_cons.mpr ⟨within, hw⟩, hstart _ within.label forward, ascending⟩

end Read

/-- Frames that a table can be made of, in code of so many instructions. -/
structure Tabled (size : Nat) (initial : List VerificationType) (frames : List Frame) : Prop where
  length : frames.length < UInt16.size
  forms : HaveForms initial frames
  within : ∀ frame ∈ frames, frame.Within size
  ascending : Ascending 0 frames

theorem decodeTable_tabled (h : code.Ascending) {info : Bytes} {initial : List VerificationType}
    {frames : List Frame} (hi : ∀ type ∈ initial, type.Within code.instructions.size)
    (hd : decodeTable info initial code = .ok frames) :
    Tabled code.instructions.size initial frames := by
  obtain ⟨count, left, _, hr⟩ := Reader.bind_onPart_iff.mp (decodeTable_eq_ok_iff.mp hd)
  obtain ⟨_, rfl, length, forms, within, ascending⟩ :=
    (@readAll_yields _ _ h _ _ 0 _ hi fun _ _ _ => Nat.zero_le _).of_ok hr
  refine ⟨?_, forms, within, ascending⟩
  rw [length]
  exact count.toNat_lt

section Moves

variable {size size' start : Nat} {frames : List Frame} {f : Label → Label}

theorem HaveForms.map (h : HaveForms previous frames) (f : Label → Label) :
    HaveForms (previous.map (·.mapLabel f)) (frames.map (·.mapLabels f)) := by
  induction frames generalizing previous with
  | nil => trivial
  | cons frame frames ih => exact ⟨h.1.map _, ih h.2⟩

theorem HaveForms.append_full {last : Frame} (h : HaveForms previous frames)
    (hl : last.locals.length < UInt16.size) (hs : last.stack.length < UInt16.size) :
    HaveForms previous (frames ++ [last]) := by
  induction frames generalizing previous with
  | nil => exact ⟨.full hl hs, trivial⟩
  | cons frame frames ih => exact ⟨h.1, ih h.2⟩

theorem Within.map {frame : Frame} (h : frame.Within size) (hf : ∀ label ≤ size, f label ≤ size') :
    (frame.mapLabels f).Within size' := by
  have types {list : List VerificationType} (hl : ∀ type ∈ list, type.Within size) :
      ∀ type ∈ list.map (·.mapLabel f), type.Within size' := by
    intro type ht
    obtain ⟨former, hm, rfl⟩ := List.mem_map.mp ht
    have within := hl former hm
    cases former with
    | uninitialized label => exact hf label within
    | _ => trivial
  exact ⟨hf _ h.label, types h.locals, types h.stack⟩

theorem Ascending.map (h : Ascending start frames) (hw : ∀ frame ∈ frames, frame.label ≤ size)
    (hf : ∀ label other : Nat, label < other → other ≤ size → f label < f other) {start' : Nat}
    (hs : ∀ label ≤ size, start ≤ label → start' ≤ f label) :
    Ascending start' (frames.map (·.mapLabels f)) := by
  induction frames generalizing start start' with
  | nil => trivial
  | cons frame frames ih =>
    obtain ⟨hl, hw⟩ := List.forall_mem_cons.mp hw
    exact ⟨hs _ hl h.1, ih h.2 hw fun label hle lt => hf _ _ lt hle⟩

theorem ascending_append_iff {last : Frame} : Ascending start (frames ++ [last]) ↔
    Ascending start frames ∧ start ≤ last.label ∧ ∀ frame ∈ frames, frame.label < last.label := by
  induction frames generalizing start with
  | nil => simp [Ascending]
  | cons frame frames ih =>
    rw [List.cons_append, Ascending, Ascending, ih, List.forall_mem_cons]
    constructor
    · rintro ⟨first, rest, lt, later⟩
      exact ⟨⟨first, rest⟩, Nat.le_trans first (Nat.le_of_lt lt), lt, later⟩
    · rintro ⟨⟨first, rest⟩, _, lt, later⟩
      exact ⟨first, rest, lt, later⟩

/-- There are not more frames than places for them. -/
theorem Ascending.length_le (h : Ascending start frames) (hw : ∀ frame ∈ frames, frame.label ≤ size)
    (hs : start ≤ size + 1) : start + frames.length ≤ size + 1 := by
  induction frames generalizing start with
  | nil => exact hs
  | cons frame frames ih =>
    obtain ⟨hl, hw⟩ := List.forall_mem_cons.mp hw
    have rest := ih h.2 hw (Nat.succ_le_succ hl)
    have first := h.1
    rw [List.length_cons]
    omega

end Moves

end Frame

end MethodTrace
