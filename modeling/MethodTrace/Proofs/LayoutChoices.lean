import MethodTrace.Proofs.LayoutRounds

/-!
Choices of jumps to widen under which instructions can be laid out, and when a layout finds one.

Widening a jump moves every offset behind it back and none forward, and yet it may shorten a distance:
where a switch stands between a branch and its target, its padding can take up what the branch has
moved by. That makes two bytes at most, however many jumps are widened. A choice that leaves them to
such branches is one that a layout comes to, or it comes to one that widens less.
-/

namespace MethodTrace

open Layout

namespace Instruction

/-- Whether an instruction is padded to a place where its operands are aligned. -/
def isSwitch : Instruction → Bool
  | tableSwitch _ _ _ | lookupSwitch _ _ => true
  | plain _ _ | branch _ _ => false

/-- An offset, and where an even number of bytes has moved it. -/
structure Moved (offset later : Nat) : Prop where
  le : offset ≤ later
  even : (later - offset) % 2 = 0

variable {insn widened : Instruction} {offset later : Nat}

/-- A wide jump is two bytes longer than a narrow one. -/
theorem Widens.size_cases (h : Widens insn widened) :
    widened = insn ∨ insn.isSwitch = false ∧ ∀ offset later : Nat,
      insn.size offset = 3 ∧ widened.size later = 5 := by
  cases h with
  | same => exact .inl rfl
  | jump target form =>
    rcases wideForm?_eq_some form with ⟨rfl, rfl⟩ | ⟨rfl, rfl⟩
    · exact .inr ⟨rfl, fun _ _ => ⟨rfl, rfl⟩⟩
    · exact .inr ⟨rfl, fun _ _ => ⟨rfl, rfl⟩⟩

/-- Only a switch has a size that depends on its place. -/
theorem size_eq_of_not_isSwitch (h : insn.isSwitch = false) (offset later : Nat) :
    insn.size offset = insn.size later := by
  cases insn with
  | plain => rfl
  | branch => rfl
  | tableSwitch => cases h
  | lookupSwitch => cases h

/-- A switch ends a fixed number of bytes behind the next place where its operands are aligned. -/
theorem exists_size_of_isSwitch (h : insn.isSwitch = true) :
    ∃ operands, ∀ offset : Nat, insn.size offset = 4 - offset % 4 + operands := by
  cases insn with
  | plain => cases h
  | branch => cases h
  | tableSwitch fallback low all =>
    refine ⟨12 + 4 * all.length, fun offset => ?_⟩
    simp only [size, padding]
    omega
  | lookupSwitch fallback pairs =>
    refine ⟨8 + 8 * pairs.length, fun offset => ?_⟩
    simp only [size, padding]
    omega

theorem Widens.moved (h : Widens insn widened) (hm : Moved offset later) :
    Moved (offset + insn.size offset) (later + widened.size later) := by
  obtain ⟨le, even⟩ := hm
  rcases h.size_cases with rfl | ⟨_, sizes⟩
  · cases hs : widened.isSwitch with
    | false =>
      have same := size_eq_of_not_isSwitch hs offset later
      exact ⟨by omega, by omega⟩
    | true =>
      obtain ⟨operands, sized⟩ := exists_size_of_isSwitch hs
      rw [sized, sized]
      exact ⟨by omega, by omega⟩
  · obtain ⟨narrow, wide⟩ := sizes offset later
    exact ⟨by omega, by omega⟩

/-- Behind an instruction no more is lost of what stood before it than does not make up four bytes. -/
theorem Widens.shift_div_le (h : Widens insn widened) (hm : Moved offset later) :
    (later - offset) / 4
      ≤ (later + widened.size later - (offset + insn.size offset)) / 4 := by
  obtain ⟨le, even⟩ := hm
  rcases h.size_cases with rfl | ⟨_, sizes⟩
  · cases hs : widened.isSwitch with
    | false =>
      have same := size_eq_of_not_isSwitch hs offset later
      omega
    | true =>
      obtain ⟨operands, sized⟩ := exists_size_of_isSwitch hs
      rw [sized, sized]
      omega
  · obtain ⟨narrow, wide⟩ := sizes offset later
    omega

theorem Widens.shift_le (h : Widens insn widened) (hm : Moved offset later)
    (hs : insn.isSwitch = false) :
    later - offset ≤ later + widened.size later - (offset + insn.size offset) := by
  obtain ⟨le, even⟩ := hm
  rcases h.size_cases with rfl | ⟨_, sizes⟩
  · have same := size_eq_of_not_isSwitch hs offset later
    omega
  · obtain ⟨narrow, wide⟩ := sizes offset later
    omega

theorem Widens.antisymm (h : Widens insn widened) (h' : Widens widened insn) : widened = insn := by
  rcases h.size_cases with same | ⟨_, sizes⟩
  · exact same
  · rcases h'.size_cases with same | ⟨_, others⟩
    · exact same.symm
    · have narrow := (sizes 0 0).1
      have wide := (others 0 0).2
      omega

end Instruction

namespace Layout

variable {instructions now chosen : Array Instruction} {label target first last : Nat}

theorem Widened.getElem? (h : Widened now chosen) (hl : label < now.size) :
    ∃ insn widened, now[label]? = some insn ∧ chosen[label]? = some widened ∧
      insn.Widens widened := by
  obtain ⟨widened, hw, hs⟩ := h.widens label _ (Array.getElem?_eq_getElem hl)
  exact ⟨_, widened, Array.getElem?_eq_getElem hl, hw, hs⟩

/-- No offset is moved forward, and none by an odd number of bytes. -/
theorem Widened.moved (h : Widened now chosen) (hl : label ≤ now.size) :
    Instruction.Moved (offsetAt (offsetsOf now) label) (offsetAt (offsetsOf chosen) label) := by
  induction label with
  | zero =>
    rw [(spaced_offsetsOf now).start, (spaced_offsetsOf chosen).start]
    exact ⟨le_rfl, rfl⟩
  | succ label ih =>
    obtain ⟨insn, widened, hn, hc, hw⟩ := h.getElem? hl
    rw [(spaced_offsetsOf now).step label insn hn, (spaced_offsetsOf chosen).step label widened hc]
    exact hw.moved (ih (Nat.le_of_succ_le hl))

/-- The bytes by which the offset of a label has moved. -/
def shift (now chosen : Array Instruction) (label : Nat) : Nat :=
  offsetAt (offsetsOf chosen) label - offsetAt (offsetsOf now) label

theorem Widened.offsetAt_add_shift (h : Widened now chosen) (hl : label ≤ now.size) :
    offsetAt (offsetsOf now) label + shift now chosen label
      = offsetAt (offsetsOf chosen) label :=
  Nat.add_sub_of_le (h.moved hl).le

theorem Widened.shift_div_le (h : Widened now chosen) (hle : first ≤ last) (hl : last ≤ now.size) :
    shift now chosen first / 4 ≤ shift now chosen last / 4 := by
  induction last, hle using Nat.le_induction with
  | base => exact le_rfl
  | succ last hle ih =>
    obtain ⟨insn, widened, hn, hc, hw⟩ := h.getElem? hl
    refine (ih (Nat.le_of_succ_le hl)).trans ?_
    unfold shift
    rw [(spaced_offsetsOf now).step last insn hn, (spaced_offsetsOf chosen).step last widened hc]
    exact hw.shift_div_le (h.moved (Nat.le_of_succ_le hl))

/-- A distance over labels of which none is a switch loses nothing. -/
theorem Widened.shift_le (h : Widened now chosen) (hle : first ≤ last) (hl : last ≤ now.size)
    (plain : ∀ between insn, first ≤ between → between < last → now[between]? = some insn →
      insn.isSwitch = false) : shift now chosen first ≤ shift now chosen last := by
  induction last, hle using Nat.le_induction with
  | base => exact le_rfl
  | succ last hle ih =>
    obtain ⟨insn, widened, hn, hc, hw⟩ := h.getElem? hl
    have before := ih (Nat.le_of_succ_le hl) fun between insn hf hb =>
      plain between insn hf (Nat.lt_succ_of_lt hb)
    refine before.trans ?_
    unfold shift
    rw [(spaced_offsetsOf now).step last insn hn, (spaced_offsetsOf chosen).step last widened hc]
    exact hw.shift_le (h.moved (Nat.le_of_succ_le hl)) (plain last insn hle (Nat.lt_succ_self last) hn)

/-- An offset is moved by the jumps before it only. -/
theorem shift_eq_zero (h : Widened now chosen) (hl : label ≤ now.size)
    (same : ∀ before < label, chosen[before]? = now[before]?) : shift now chosen label = 0 := by
  have equal : offsetAt (offsetsOf chosen) label = offsetAt (offsetsOf now) label := by
    induction label with
    | zero => rw [(spaced_offsetsOf now).start, (spaced_offsetsOf chosen).start]
    | succ label ih =>
      obtain ⟨insn, widened, hn, hc, hw⟩ := h.getElem? hl
      have before := ih (Nat.le_of_succ_le hl) fun other ho => same other (Nat.lt_succ_of_lt ho)
      have found := same label (Nat.lt_succ_self label)
      rw [hn] at found
      rw [(spaced_offsetsOf now).step label insn hn, (spaced_offsetsOf chosen).step label insn found,
        before]
  rw [shift, equal, Nat.sub_self]

theorem Widened.shift_le_add_two (h : Widened now chosen) (hle : first ≤ last)
    (hl : last ≤ now.size) : shift now chosen first ≤ shift now chosen last + 2 := by
  have quarters := h.shift_div_le hle hl
  -- What is lost is less than four bytes, and an even number of them.
  have even := (h.moved (hle.trans hl)).even
  unfold shift at quarters ⊢
  omega

/-- A distance with a switch in it that a jump before it has moved. -/
structure Padded (instructions chosen : Array Instruction) (first last : Nat) : Prop where
  jump : ∃ before < first, chosen[before]? ≠ instructions[before]?
  switch : ∃ between insn, first ≤ between ∧ between < last ∧
    instructions[between]? = some insn ∧ insn.isSwitch = true

theorem Widened.shift_le_of_not_padded (h : Widened now chosen) (hle : first ≤ last)
    (hl : last ≤ now.size) (apart : ¬Padded now chosen first last) :
    shift now chosen first ≤ shift now chosen last := by
  by_cases moved : ∃ before < first, chosen[before]? ≠ now[before]?
  · refine h.shift_le hle hl fun between insn hf hb hi => ?_
    rw [← Bool.not_eq_true]
    exact fun switch => apart ⟨moved, between, insn, hf, hb, hi, switch⟩
  · have same : ∀ before < first, chosen[before]? = now[before]? := by simpa using moved
    rw [shift_eq_zero h (hle.trans hl) same]
    exact Nat.zero_le _

/-- What is widened later does not count for more than all that is widened. -/
theorem Padded.of_widened (before : Widened instructions now) (after : Widened now chosen)
    (hl : last ≤ instructions.size) (h : Padded now chosen first last) :
    Padded instructions chosen first last := by
  obtain ⟨⟨place, hp, moved⟩, between, insn, hf, hb, hi, switch⟩ := h
  constructor
  · refine ⟨place, hp, fun same => moved ?_⟩
    obtain ⟨former, insn, ho, hn, hw⟩ := before.getElem? (by omega : place < instructions.size)
    obtain ⟨_, hc, hw'⟩ := after.widens place insn hn
    rw [hc, ho] at same
    cases same
    rw [hc, hn, hw.antisymm hw']
  · obtain ⟨former, _, ho, hn, hw⟩ := before.getElem? (by omega : between < instructions.size)
    rw [hi] at hn
    cases hn
    cases hw with
    | same => exact ⟨between, insn, hf, hb, ho, switch⟩
    | jump => cases switch

/-- A branch reaches its target before what is widened if it does so afterwards, with two bytes to
spare for a switch. -/
theorem Widened.reaches (h : Widened now chosen) (hl : label ≤ now.size) (ht : target ≤ now.size)
    (reach : -32768 ≤ delta (offsetsOf chosen) label target ∧
      delta (offsetsOf chosen) label target ≤ 32767)
    (room : Padded now chosen (min label target) (max label target) →
      -32766 ≤ delta (offsetsOf chosen) label target ∧
        delta (offsetsOf chosen) label target ≤ 32765) :
    -32768 ≤ delta (offsetsOf now) label target ∧ delta (offsetsOf now) label target ≤ 32767 := by
  have source := h.offsetAt_add_shift hl
  have goal := h.offsetAt_add_shift ht
  have chosen_eq : delta (offsetsOf chosen) label target
    = (offsetAt (offsetsOf chosen) target : Int) - offsetAt (offsetsOf chosen) label := rfl
  have now_eq : delta (offsetsOf now) label target
    = (offsetAt (offsetsOf now) target : Int) - offsetAt (offsetsOf now) label := rfl
  rcases le_total label target with hle | hle
  · rw [min_eq_left hle, max_eq_right hle] at room
    have order := (spaced_offsetsOf now).le hle ht
    have slack := h.shift_le_add_two hle ht
    by_cases padded : Padded now chosen label target
    · have := room padded
      omega
    · have := h.shift_le_of_not_padded hle ht padded
      omega
  · rw [min_eq_right hle, max_eq_left hle] at room
    have order := (spaced_offsetsOf now).le hle hl
    have slack := h.shift_le_add_two hle hl
    by_cases padded : Padded now chosen target label
    · have := room padded
      omega
    · have := h.shift_le_of_not_padded hle hl padded
      omega

/-- A choice of jumps to widen under which instructions can be laid out. -/
structure Choice (instructions chosen : Array Instruction) : Prop where
  widened : Widened instructions chosen
  short : total chosen ≤ maxCodeLength
  reaches : ∀ (label : Nat) opcode target, chosen[label]? = some (.branch opcode target) →
    opcode.isShortBranch = true →
      -32768 ≤ delta (offsetsOf chosen) label target ∧
        delta (offsetsOf chosen) label target ≤ 32767

/-- A choice is found to be one by a pass over it that widens nothing. -/
theorem Choice.of_pass {offsets : Array Nat} (widened : Widened instructions chosen)
    (spread : offsetsOf chosen = offsets) (short : offsets.back?.getD 0 ≤ maxCodeLength)
    (settled : pass offsets chosen = .ok chosen) : Choice instructions chosen := by
  subst spread
  refine ⟨widened, short, fun label opcode target hi narrow => ?_⟩
  have fits := pass_settled settled (Nat.lt_irrefl _) label _ hi
  simpa [overflows, narrow, fitsShort] using fits

theorem Widened.set (label : Nat) {insn wide : Instruction} (hi : instructions[label]? = some insn)
    (hw : insn.Widens wide) : Widened instructions (instructions.setIfInBounds label wide) := by
  refine ⟨Array.size_setIfInBounds, fun other found hf => ?_⟩
  rw [Array.getElem?_setIfInBounds]
  split
  · next same =>
    subst same
    cases hf.symm.trans hi
    rw [if_pos (Array.getElem?_eq_some_iff.mp hi).1]
    exact ⟨wide, rfl, hw⟩
  · exact ⟨found, hf, .same found⟩

/-- Two bytes are left to every short branch with a switch on its way that a widened jump has moved. -/
def Roomy (instructions chosen : Array Instruction) : Prop :=
  ∀ (label : Nat) opcode target, chosen[label]? = some (.branch opcode target) →
    opcode.isShortBranch = true →
    Padded instructions chosen (min label target) (max label target) →
      -32766 ≤ delta (offsetsOf chosen) label target ∧
        delta (offsetsOf chosen) label target ≤ 32765

/-- A pass fails only at an instruction that cannot be widened. -/
theorem exists_pass {offsets : Array Nat} (h : ∀ (label : Nat) insn, now[label]? = some insn →
    ∃ next, widen offsets insn label = .ok next) : ∃ next, pass offsets now = .ok next := by
  have each : ∀ pair ∈ now.toList.zipIdx, ∃ next, widen offsets pair.1 pair.2 = .ok next := by
    rintro ⟨insn, label⟩ hi
    rw [List.mem_zipIdx_iff_getElem?, Array.getElem?_toList] at hi
    exact h label insn hi
  obtain ⟨list, hl⟩ := Except.exists_mapM_eq_ok_iff.mpr each
  exact ⟨list.toArray, Except.bind_eq_ok_iff.mpr ⟨list, hl, rfl⟩⟩

section Passes

variable {insn : Instruction}
  (targets : ∀ insn ∈ instructions, ∀ t ∈ insn.targets, t ≤ instructions.size)
  (choice : Choice instructions chosen) (roomy : Roomy instructions chosen)
  (before : Widened instructions now) (after : Widened now chosen)

include targets choice roomy before after

/-- A branch that is left short by the choice reaches in every round on the way to it. -/
theorem Choice.reaches_now {opcode : Opcode} (hn : now[label]? = some (.branch opcode target))
    (hc : chosen[label]? = some (.branch opcode target)) (short : opcode.isShortBranch = true) :
    -32768 ≤ delta (offsetsOf now) label target ∧ delta (offsetsOf now) label target ≤ 32767 := by
  have hl : label < now.size := (Array.getElem?_eq_some_iff.mp hn).1
  have size := before.size
  have ht : target ≤ now.size :=
    before.targets_le targets (Array.mem_of_getElem? hn) target (List.mem_singleton_self target)
  refine after.reaches hl.le ht (choice.reaches label opcode target hc short) fun padded => ?_
  exact roomy label opcode target hc short (padded.of_widened before after (by omega))

/-- An instruction is not widened further than it has been chosen to be. -/
theorem Choice.widen_ok (hn : now[label]? = some insn) :
    ∃ next wide, widen (offsetsOf now) insn label = .ok next ∧ chosen[label]? = some wide ∧
      next.Widens wide := by
  obtain ⟨wide, hc, hw⟩ := after.widens label insn hn
  cases ho : overflows (offsetsOf now) label insn with
  | false => exact ⟨insn, wide, widen_of_reaches ho, hc, hw⟩
  | true =>
    cases hw with
    | jump target form =>
      refine ⟨_, _, ?_, hc, .same _⟩
      rw [widen, if_pos ho]
      simp only [form]
    | same =>
      cases insn with
      | branch opcode target =>
        rw [overflows, Bool.and_eq_true] at ho
        have fits := Choice.reaches_now targets choice roomy before after hn hc ho.1
        simp [fitsShort, fits] at ho
      | plain => cases ho
      | tableSwitch => cases ho
      | lookupSwitch => cases ho

theorem Choice.pass_ok :
    ∃ next, pass (offsetsOf now) now = .ok next ∧ Widened next chosen := by
  have each := fun (label : Nat) insn (hn : now[label]? = some insn) =>
    Choice.widen_ok targets choice roomy before after hn
  obtain ⟨next, passed⟩ : ∃ next, pass (offsetsOf now) now = .ok next := by
    refine exists_pass fun label insn hn => ?_
    obtain ⟨next, _, hw, _⟩ := each label insn hn
    exact ⟨next, hw⟩
  obtain ⟨size, all⟩ := pass_widen passed
  refine ⟨next, passed, after.size.trans size.symm, fun label insn hi => ?_⟩
  have lt : label < now.size := size ▸ (Array.getElem?_eq_some_iff.mp hi).1
  obtain ⟨widened, hw, found⟩ := all label _ (Array.getElem?_eq_getElem lt)
  obtain ⟨_, wide, hn, hc, hs⟩ := each label _ (Array.getElem?_eq_getElem lt)
  rw [hi] at hw
  cases hw
  cases found.symm.trans hn
  exact ⟨wide, hc, hs⟩

/-- A layout that starts on the way to a choice does not leave it. -/
theorem Choice.layout_ok :
    ∃ result, layout now = .ok result ∧ Widened result.instructions chosen := by
  -- Every round is between the given instructions and the choice, and so is no longer than the latter.
  fun_induction layout now with
  | case1 now offsets all long =>
    have moved := (after.moved le_rfl).le
    have short := choice.short
    rw [total_eq, after.size] at short
    have all_eq : all = offsetAt (offsetsOf now) now.size := total_eq now
    omega
  | case2 now offsets all short e fails =>
    obtain ⟨next, passed, _⟩ := Choice.pass_ok targets choice roomy before after
    cases fails.symm.trans passed
  | case3 now offsets all short next widens fewer ih =>
    obtain ⟨_, passed, rest⟩ := Choice.pass_ok targets choice roomy before after
    cases widens.symm.trans passed
    exact ih (before.trans (pass_widened widens)) rest
  | case4 now => exact ⟨_, rfl, after⟩

end Passes

end Layout

/-- Instructions are laid out if there is a choice for them with two bytes left where a widened jump
moves a switch, and no jump is then widened that the choice leaves short. -/
theorem layout_of_choice {instructions chosen : Array Instruction}
    (targets : ∀ insn ∈ instructions, ∀ t ∈ insn.targets, t ≤ instructions.size)
    (choice : Choice instructions chosen) (roomy : Roomy instructions chosen) :
    ∃ result, layout instructions = .ok result ∧ Widened result.instructions chosen :=
  choice.layout_ok targets roomy (.refl instructions) choice.widened

/-- A jump over a conditional branch over a switch. -/
def paddedBranch : Array Instruction :=
  #[.branch Opcode.goto 4, .branch 0x99 3, .tableSwitch 3 0 [3, 3], filler, .plain 0xb1 []]

def paddedBranchChosen : Array Instruction :=
  #[.branch Opcode.gotoW 4, .branch 0x99 3, .tableSwitch 3 0 [3, 3], filler, .plain 0xb1 []]

theorem offsetsOf_paddedBranchChosen :
    offsetsOf paddedBranchChosen = #[0, 5, 8, 32, 40033, 40034] := by
  simp only [offsetsOf, offsetsFrom, paddedBranchChosen, size_filler]
  rfl

theorem choice_paddedBranch : Choice paddedBranch paddedBranchChosen := by
  have widened : Widened paddedBranch paddedBranchChosen :=
    Widened.set 0 rfl (.jump 4 (by decide))
  exact .of_pass widened offsetsOf_paddedBranchChosen (by decide) rfl

theorem roomy_paddedBranch : Roomy paddedBranch paddedBranchChosen := by
  intro label opcode target hi short _
  rw [offsetsOf_paddedBranchChosen]
  match label with
  | 0 =>
    cases hi
    cases short
  | 1 =>
    cases hi
    decide
  | 2 => cases hi
  | 3 => cases hi
  | 4 => cases hi
  | _ + 5 => cases hi

theorem layout_of_choice_paddedBranch :
    (∀ insn ∈ paddedBranch, ∀ t ∈ insn.targets, t ≤ paddedBranch.size) ∧
      Choice paddedBranch paddedBranchChosen ∧ Roomy paddedBranch paddedBranchChosen ∧
      Padded paddedBranch paddedBranchChosen 1 3 ∧
      ∃ result, layout paddedBranch = .ok result ∧
        Widened result.instructions paddedBranchChosen := by
  have targets : ∀ insn ∈ paddedBranch, ∀ t ∈ insn.targets, t ≤ paddedBranch.size := by
    simp [paddedBranch, filler, Instruction.targets, -List.reduceReplicate]
  have padded : Padded paddedBranch paddedBranchChosen 1 3 := by
    refine ⟨⟨0, by decide, ?_⟩, 2, .tableSwitch 3 0 [3, 3], by decide, by decide, rfl, rfl⟩
    intro same
    cases same
  exact ⟨targets, choice_paddedBranch, roomy_paddedBranch, padded,
    layout_of_choice targets choice_paddedBranch roomy_paddedBranch⟩

def hugeSwitch : Instruction :=
  .tableSwitch 15 0 (List.replicate 8185 15)

theorem size_hugeSwitch (offset : Nat) : hugeSwitch.size offset = 32756 - offset % 4 := by
  rw [hugeSwitch, Instruction.size, List.length_replicate, Instruction.padding]
  omega

/-- A branch over a switch that reaches its target only if the jump before it is widened. -/
def paddedApart : Array Instruction :=
  #[.plain 0x03 [], .branch 0x99 3, .branch Opcode.goto 15, .plain 0x03 [], .branch 0x99 15,
    .plain 0x03 [], hugeSwitch, .plain 0x00 [], .plain 0x00 [], .plain 0x00 [], .plain 0x00 [],
    .plain 0x00 [], .plain 0x00 [], .plain 0x00 [], .plain 0x00 [], .plain 0xb1 []]

def paddedApartChosen : Array Instruction :=
  #[.plain 0x03 [], .branch 0x99 3, .branch Opcode.gotoW 15, .plain 0x03 [], .branch 0x99 15,
    .plain 0x03 [], hugeSwitch, .plain 0x00 [], .plain 0x00 [], .plain 0x00 [], .plain 0x00 [],
    .plain 0x00 [], .plain 0x00 [], .plain 0x00 [], .plain 0x00 [], .plain 0xb1 []]

theorem offsetsOf_paddedApart :
    offsetsOf paddedApart = #[0, 1, 4, 7, 8, 11, 12, 32768, 32769, 32770, 32771, 32772, 32773,
      32774, 32775, 32776, 32777] := by
  simp only [offsetsOf, offsetsFrom, paddedApart, size_hugeSwitch]
  rfl

theorem offsetsOf_paddedApartChosen :
    offsetsOf paddedApartChosen = #[0, 1, 4, 9, 10, 13, 14, 32768, 32769, 32770, 32771, 32772,
      32773, 32774, 32775, 32776, 32777] := by
  simp only [offsetsOf, offsetsFrom, paddedApartChosen, size_hugeSwitch]
  rfl

theorem choice_paddedApart : Choice paddedApart paddedApartChosen := by
  have widened : Widened paddedApart paddedApartChosen :=
    Widened.set 2 rfl (.jump 15 (by decide))
  exact .of_pass widened offsetsOf_paddedApartChosen (by decide) rfl

/-- The first round finds the branch too short, and what it has widened is not looked at again. -/
theorem layout_paddedApart :
    layout paddedApart = .error (.tooLarge (.conditionalSpan 0x99 32768)) := by
  have stuck : pass #[0, 1, 4, 7, 8, 11, 12, 32768, 32769, 32770, 32771, 32772, 32773, 32774,
      32775, 32776, 32777] paddedApart = .error (.tooLarge (.conditionalSpan 0x99 32768)) := rfl
  rw [← offsetsOf_paddedApart] at stuck
  have short : total paddedApart ≤ maxCodeLength := by
    rw [total, offsetsOf_paddedApart]
    decide
  exact (Rounds.stuck short stuck).layout_eq

theorem not_layout_of_choice :
    ¬∀ instructions chosen : Array Instruction,
      (∀ insn ∈ instructions, ∀ t ∈ insn.targets, t ≤ instructions.size) →
        Choice instructions chosen → ∃ result, layout instructions = .ok result := by
  intro all
  have targets : ∀ insn ∈ paddedApart, ∀ t ∈ insn.targets, t ≤ paddedApart.size := by
    simp [paddedApart, hugeSwitch, Instruction.targets, -List.reduceReplicate]
  obtain ⟨result, laid⟩ := all paddedApart paddedApartChosen targets choice_paddedApart
  cases laid.symm.trans layout_paddedApart

end MethodTrace
