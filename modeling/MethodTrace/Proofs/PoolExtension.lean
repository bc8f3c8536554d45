import MethodTrace.ClassFile.ConstantPool
import MethodTrace.Proofs.ModifiedUtf8
import MethodTrace.Proofs.Runs

/-!
Pools only ever grow at their end, and what a step has looked for is found under the number that it
returns, then and in every later pool.
-/

namespace MethodTrace

/-- Whether a constant fills one slot, as all do that are ever added to a pool. -/
def Constant.isNarrow : Constant → Bool
  | unusable | long _ | double _ => false
  | _ => true

namespace ConstantPool

/-- A pool that has grown out of another one. -/
structure Extends (pool later : ConstantPool) : Prop where
  keeps : pool.slots.toList <+: later.slots.toList
  size : later.size ≤ max pool.size 65535
  narrow : ∀ constant ∈ later.slots.toList.drop pool.size, constant.isNarrow = true

variable {pool later : ConstantPool} {index : UInt16} {constant : Constant}

theorem Extends.refl (pool : ConstantPool) : Extends pool pool := by
  refine ⟨List.prefix_rfl, Nat.le_max_left _ _, ?_⟩
  rw [ConstantPool.size, ← Array.length_toList, List.drop_length]
  simp

theorem Extends.trans {last : ConstantPool} (h : Extends pool later) (h' : Extends later last) :
    Extends pool last := by
  refine ⟨h.keeps.trans h'.keeps, ?_, ?_⟩
  · have h1 := h.size
    have h2 := h'.size
    omega
  · obtain ⟨added, ha⟩ := h'.keeps
    have fewer : pool.size ≤ later.slots.toList.length := h.keeps.length_le
    have rest := h'.narrow
    rw [← ha, show later.size = later.slots.toList.length from rfl, List.drop_left] at rest
    rw [← ha, List.drop_append_of_le_length fewer]
    intro constant hc
    rcases List.mem_append.mp hc with hc | hc
    · exact h.narrow constant hc
    · exact rest constant hc

theorem Extends.get? (h : Extends pool later) (hg : pool.get? index = some constant) :
    later.get? index = some constant := by
  obtain ⟨added, ha⟩ := h.keeps
  unfold ConstantPool.get? at hg ⊢
  rw [← Array.getElem?_toList] at hg ⊢
  rw [← ha]
  exact List.getElem?_append_left (List.getElem?_eq_some_iff.mp hg).1 ▸ hg

theorem utf8_eq_ok_iff {text : String} : pool.utf8 index = .ok text ↔
    ∃ bytes, pool.get? index = some (.utf8 bytes) ∧ ModifiedUtf8.decode bytes = text := by
  unfold utf8
  split
  · next bytes hg => simp [hg]
  · next hn =>
    constructor
    · intro h
      cases h
    · rintro ⟨bytes, hg, _⟩
      exact absurd hg (hn bytes)

theorem className_eq_ok_iff {text : String} : pool.className index = .ok text ↔
    ∃ name, pool.get? index = some (.classRef name) ∧ pool.utf8 name = .ok text := by
  unfold className
  split
  · next name hg => simp [hg]
  · next hn =>
    constructor
    · intro h
      cases h
    · rintro ⟨name, hg, _⟩
      exact absurd hg (hn name)

theorem nameAndType_eq_ok_iff {texts : String × String} : pool.nameAndType index = .ok texts ↔
    ∃ name descriptor, pool.get? index = some (.nameAndType name descriptor) ∧
      pool.utf8 name = .ok texts.1 ∧ pool.utf8 descriptor = .ok texts.2 := by
  unfold nameAndType
  split
  · next name descriptor hg =>
    simp only [Except.bind_eq_ok_iff, Except.pure_eq_ok_iff, hg, Option.some.injEq,
      Constant.nameAndType.injEq]
    constructor
    · rintro ⟨a, ha, b, hb, rfl⟩
      exact ⟨name, descriptor, ⟨rfl, rfl⟩, ha, hb⟩
    · rintro ⟨_, _, ⟨rfl, rfl⟩, ha, hb⟩
      exact ⟨_, ha, _, hb, rfl⟩
  · next hn =>
    constructor
    · intro h
      cases h
    · rintro ⟨name, descriptor, hg, _⟩
      exact absurd hg (hn name descriptor)

theorem resolveMember_eq_ok_iff {owner member : UInt16} {found : MemberRef} :
    pool.resolveMember owner member = .ok found ↔
      pool.className owner = .ok found.owner ∧
      pool.nameAndType member = .ok (found.name, found.descriptor) := by
  unfold resolveMember
  simp only [Except.bind_eq_ok_iff, Except.pure_eq_ok_iff]
  constructor
  · rintro ⟨⟨name, descriptor⟩, hm, text, ho, rfl⟩
    exact ⟨ho, hm⟩
  · rintro ⟨ho, hm⟩
    exact ⟨_, hm, _, ho, rfl⟩

theorem Extends.utf8 {text : String} (h : Extends pool later) (ht : pool.utf8 index = .ok text) :
    later.utf8 index = .ok text := by
  obtain ⟨bytes, hg, hb⟩ := utf8_eq_ok_iff.mp ht
  exact utf8_eq_ok_iff.mpr ⟨bytes, h.get? hg, hb⟩

theorem Extends.className {text : String} (h : Extends pool later)
    (ht : pool.className index = .ok text) : later.className index = .ok text := by
  obtain ⟨name, hg, hn⟩ := className_eq_ok_iff.mp ht
  exact className_eq_ok_iff.mpr ⟨name, h.get? hg, h.utf8 hn⟩

theorem Extends.nameAndType {texts : String × String} (h : Extends pool later)
    (ht : pool.nameAndType index = .ok texts) : later.nameAndType index = .ok texts := by
  obtain ⟨name, descriptor, hg, hn, hd⟩ := nameAndType_eq_ok_iff.mp ht
  exact nameAndType_eq_ok_iff.mpr ⟨name, descriptor, h.get? hg, h.utf8 hn, h.utf8 hd⟩

theorem Extends.resolveMember {owner member : UInt16} {found : MemberRef}
    (h : Extends pool later) (hr : pool.resolveMember owner member = .ok found) :
    later.resolveMember owner member = .ok found := by
  obtain ⟨ho, hm⟩ := resolveMember_eq_ok_iff.mp hr
  exact resolveMember_eq_ok_iff.mpr ⟨h.className ho, h.nameAndType hm⟩

/-- A number that once meant a member means it in every later pool. -/
theorem Extends.memberRef {found : MemberRef} (h : Extends pool later)
    (hr : pool.memberRef index = .ok found) : later.memberRef index = .ok found := by
  unfold ConstantPool.memberRef at hr ⊢
  split at hr
  · next hg => rw [h.get? hg]; exact h.resolveMember hr
  · next hg => rw [h.get? hg]; exact h.resolveMember hr
  · next hg => rw [h.get? hg]; exact h.resolveMember hr
  · cases hr

section Steps

variable {α β : Type}

/-- Steps that do nothing to a pool but let it grow. -/
structure Grows (steps : Extend α) : Prop where
  of_runs : ∀ {pool result later}, Runs steps pool result later → Extends pool later

theorem Grows.bind {steps : Extend α} {next : α → Extend β} (h : Grows steps)
    (hn : ∀ a, Grows (next a)) : Grows (steps >>= next) := by
  refine ⟨fun hr => ?_⟩
  obtain ⟨a, between, hs, hr⟩ := Runs.bind_iff.mp hr
  exact (h.of_runs hs).trans ((hn a).of_runs hr)

theorem Grows.pure (a : α) : Grows (pure a : Extend α) := by
  refine ⟨fun hr => ?_⟩
  obtain ⟨_, rfl⟩ := Runs.pure_iff.mp hr
  exact .refl _

theorem Grows.get : Grows (get : Extend ConstantPool) := by
  refine ⟨fun hr => ?_⟩
  obtain ⟨_, rfl⟩ := Runs.get_iff.mp hr
  exact .refl _

theorem Grows.ofExcept (e : Except ClassFileError α) :
    Grows (MonadExcept.ofExcept e : Extend α) := by
  refine ⟨fun hr => ?_⟩
  obtain ⟨_, rfl⟩ := Runs.ofExcept_iff.mp hr
  exact .refl _

theorem Grows.adapt {steps : Extend α} (f : ClassFileError → ClassFileError) (h : Grows steps) :
    Grows (ExceptT.adapt f steps) :=
  ⟨fun hr => h.of_runs (Runs.adapt_iff.mp hr)⟩

theorem Grows.ite {c : Prop} [Decidable c] {steps other : Extend α} (h : Grows steps)
    (ho : Grows other) : Grows (if c then steps else other) := by
  split
  · exact h
  · exact ho

theorem Grows.mapM {f : α → Extend β} (h : ∀ a, Grows (f a)) (as : List α) :
    Grows (as.mapM f) := by
  induction as with
  | nil =>
    rw [List.mapM_nil]
    exact .pure _
  | cons a as ih =>
    rw [List.mapM_cons]
    exact .bind (h a) fun _ => .bind ih fun _ => .pure _

/-- The steps for the members of a list are taken one after the other, in pools that grow. -/
theorem Grows.mapM_runs {f : α → Extend β} (h : ∀ a, Grows (f a)) {as : List α} {bs : List β}
    (hr : Runs (as.mapM f) pool bs later) :
    List.Forall₂ (fun a b => ∃ before after, Extends pool before ∧ Runs (f a) before b after ∧
      Extends after later) as bs := by
  induction as generalizing pool bs with
  | nil =>
    rw [(Runs.mapM_nil_iff.mp hr).1]
    exact .nil
  | cons a as ih =>
    obtain ⟨b, between, rest, hb, hrest, rfl⟩ := Runs.mapM_cons_iff.mp hr
    refine .cons ⟨pool, between, .refl _, hb, (Grows.mapM h as).of_runs hrest⟩ ?_
    refine (ih hrest).imp fun a b => ?_
    rintro ⟨before, after, hbefore, hrun, hafter⟩
    exact ⟨before, after, ((h _).of_runs hb).trans hbefore, hrun, hafter⟩

/-- A pool whose numbers all fit into two bytes. -/
def Numbered (pool : ConstantPool) : Prop :=
  pool.size ≤ UInt16.size

instance : Decidable pool.Numbered :=
  inferInstanceAs (Decidable (pool.size ≤ UInt16.size))

theorem Extends.numbered (h : Extends pool later) (hp : pool.Numbered) : later.Numbered := by
  have hs := h.size
  change pool.size ≤ 65536 at hp
  change later.size ≤ 65536
  omega

theorem append_runs (h : Runs (append constant) pool index later) :
    pool.size < 65535 ∧ index = UInt16.ofNat pool.size ∧ later = ⟨pool.slots.push constant⟩ := by
  unfold append at h
  have hr := Runs.get_bind_iff.mp h
  dsimp only at hr
  split at hr
  · obtain ⟨_, _, ht, _⟩ := Runs.bind_iff.mp hr
    exact (Runs.throw_iff.mp ht).elim
  · next hsize =>
    obtain ⟨_, t, hs, hr⟩ := Runs.bind_iff.mp hr
    have ht := Runs.set_iff.mp hs
    obtain ⟨rfl, rfl⟩ := Runs.pure_iff.mp hr
    exact ⟨by omega, rfl, ht⟩

theorem append_extends (hc : constant.isNarrow = true)
    (h : Runs (append constant) pool index later) : Extends pool later := by
  obtain ⟨hsize, rfl, rfl⟩ := append_runs h
  refine ⟨by simp, ?_, ?_⟩
  · change (pool.slots.push constant).size ≤ _
    rw [Array.size_push]
    change pool.size + 1 ≤ _
    omega
  · simp [size, hc]

theorem append_get? (h : Runs (append constant) pool index later) :
    later.get? index = some constant := by
  obtain ⟨hsize, rfl, rfl⟩ := append_runs h
  have hn : (UInt16.ofNat pool.size).toNat = pool.slots.size := by
    rw [UInt16.toNat_ofNat']
    change pool.size % 65536 = pool.size
    omega
  rw [ConstantPool.get?, hn, Array.getElem?_push_size]

theorem find?_get? (hp : pool.Numbered) (h : pool.find? constant = some index) :
    pool.get? index = some constant := by
  obtain ⟨i, hi, rfl⟩ := Option.map_eq_some_iff.mp h
  obtain ⟨hlt, heq, _⟩ := Array.findIdx?_eq_some_iff_getElem.mp hi
  have hn : (UInt16.ofNat i).toNat = i := by
    rw [UInt16.toNat_ofNat']
    have : pool.slots.size ≤ 65536 := hp
    omega
  unfold ConstantPool.get?
  rw [hn, Array.getElem?_eq_getElem hlt, beq_iff_eq.mp heq]

theorem grows_findOrAppend (hc : constant.isNarrow = true) : Grows (findOrAppend constant) := by
  refine .bind .get fun pool => ?_
  split
  · exact .pure _
  · exact ⟨append_extends hc⟩

theorem findOrAppend_runs (hp : pool.Numbered)
    (h : Runs (findOrAppend constant) pool index later) : later.get? index = some constant := by
  unfold findOrAppend at h
  have hr := Runs.get_bind_iff.mp h
  split at hr
  · next i hi =>
    obtain ⟨rfl, rfl⟩ := Runs.pure_iff.mp hr
    exact find?_get? hp hi
  · exact append_get? hr

theorem find?_eq (pool : ConstantPool) (constant : Constant) : pool.find? constant
    = (pool.slots.toList.findIdx? (· == constant)).map UInt16.ofNat := by
  rw [find?, ← List.findIdx?_toArray, Array.toArray_toList]

/-- A constant keeps the number under which it is first found. -/
theorem Extends.find? (h : Extends pool later) (hf : pool.find? constant = some index) :
    later.find? constant = some index := by
  rw [find?_eq] at hf ⊢
  obtain ⟨i, hi, rfl⟩ := Option.map_eq_some_iff.mp hf
  rw [h.keeps.findIdx?_eq_some hi]
  rfl

theorem find?_of_append (hn : pool.find? constant = none)
    (h : Runs (append constant) pool index later) : later.find? constant = some index := by
  obtain ⟨hsize, rfl, rfl⟩ := append_runs h
  have fresh : pool.slots.findIdx? (· == constant) = none := Option.map_eq_none_iff.mp hn
  rw [find?, Array.findIdx?_push, fresh]
  simp [size]

/-- Steps that, once they have run, find what they need in every later pool. -/
structure Settles (steps : Extend α) : Prop where
  of_runs : ∀ {pool result later last}, Runs steps pool result later → Extends later last →
    Runs steps last result last

theorem Settles.bind {steps : Extend α} {next : α → Extend β} (h : Settles steps)
    (hg : ∀ a, Grows (next a)) (hn : ∀ a, Settles (next a)) : Settles (steps >>= next) := by
  refine ⟨fun hr hext => ?_⟩
  obtain ⟨a, between, hs, hr⟩ := Runs.bind_iff.mp hr
  exact Runs.bind_iff.mpr
    ⟨a, _, h.of_runs hs (((hg a).of_runs hr).trans hext), (hn a).of_runs hr hext⟩

theorem Settles.pure (a : α) : Settles (pure a : Extend α) := by
  refine ⟨fun hr _ => ?_⟩
  obtain ⟨rfl, _⟩ := Runs.pure_iff.mp hr
  exact Runs.pure_iff.mpr ⟨rfl, rfl⟩

theorem Settles.ofExcept (e : Except ClassFileError α) :
    Settles (MonadExcept.ofExcept e : Extend α) :=
  ⟨fun hr _ => Runs.ofExcept_iff.mpr ⟨(Runs.ofExcept_iff.mp hr).1, rfl⟩⟩

theorem Settles.ite {c : Prop} [Decidable c] {steps other : Extend α} (h : Settles steps)
    (ho : Settles other) : Settles (if c then steps else other) := by
  split
  · exact h
  · exact ho

theorem Settles.mapM {f : α → Extend β} (hg : ∀ a, Grows (f a)) (h : ∀ a, Settles (f a))
    (as : List α) : Settles (as.mapM f) := by
  induction as with
  | nil =>
    rw [List.mapM_nil]
    exact .pure _
  | cons a as ih =>
    rw [List.mapM_cons]
    exact .bind (h a) (fun _ => .bind (Grows.mapM hg as) fun _ => .pure _)
      fun _ => .bind ih (fun _ => .pure _) fun _ => .pure _

theorem settles_findOrAppend (constant : Constant) : Settles (findOrAppend constant) := by
  refine ⟨fun {pool result later last} hr hext => Runs.get_bind_iff.mpr ?_⟩
  have found : later.find? constant = some result := by
    have hr := Runs.get_bind_iff.mp hr
    split at hr
    · next i hi =>
      obtain ⟨rfl, rfl⟩ := Runs.pure_iff.mp hr
      exact hi
    · next hn => exact find?_of_append hn hr
  rw [hext.find? found]
  exact Runs.pure_iff.mpr ⟨rfl, rfl⟩

theorem grows_utf8Index (text : String) : Grows (utf8Index text) :=
  grows_findOrAppend rfl

theorem utf8Index_runs {text : String} (hp : pool.Numbered)
    (h : Runs (utf8Index text) pool index later) : later.utf8 index = .ok text :=
  utf8_eq_ok_iff.mpr ⟨_, findOrAppend_runs hp h, ModifiedUtf8.decode_encode text⟩

theorem grows_classIndex (name : String) : Grows (classIndex name) :=
  .bind (grows_utf8Index name) fun _ => grows_findOrAppend rfl

theorem settles_classIndex (name : String) : Settles (classIndex name) :=
  .bind (settles_findOrAppend _) (fun _ => grows_findOrAppend rfl) fun _ => settles_findOrAppend _

theorem classIndex_runs {name : String} (hp : pool.Numbered)
    (h : Runs (classIndex name) pool index later) : later.className index = .ok name := by
  obtain ⟨text, between, ht, hr⟩ := Runs.bind_iff.mp h
  have hb := (grows_utf8Index name).of_runs ht
  have hl := (grows_findOrAppend rfl).of_runs hr
  exact className_eq_ok_iff.mpr
    ⟨text, findOrAppend_runs (hb.numbered hp) hr, hl.utf8 (utf8Index_runs hp ht)⟩

theorem grows_stringIndex (text : String) : Grows (stringIndex text) :=
  .bind (grows_utf8Index text) fun _ => grows_findOrAppend rfl

theorem stringIndex_runs {text : String} (hp : pool.Numbered)
    (h : Runs (stringIndex text) pool index later) :
    ∃ spelled, later.get? index = some (.string spelled) ∧ later.utf8 spelled = .ok text := by
  obtain ⟨spelled, between, ht, hr⟩ := Runs.bind_iff.mp h
  have hb := (grows_utf8Index text).of_runs ht
  have hl := (grows_findOrAppend rfl).of_runs hr
  exact ⟨spelled, findOrAppend_runs (hb.numbered hp) hr, hl.utf8 (utf8Index_runs hp ht)⟩

theorem grows_methodrefIndex (method : MemberRef) : Grows (methodrefIndex method) :=
  .bind (grows_classIndex _) fun _ => .bind (grows_utf8Index _) fun _ =>
    .bind (grows_utf8Index _) fun _ => .bind (grows_findOrAppend rfl) fun _ => grows_findOrAppend rfl

/-- The number of a method reference leads back to the method. -/
theorem methodrefIndex_runs {method : MemberRef} (hp : pool.Numbered)
    (h : Runs (methodrefIndex method) pool index later) :
    later.memberRef index = .ok method := by
  obtain ⟨owner, s, ho, h⟩ := Runs.bind_iff.mp h
  obtain ⟨name, t, hn, h⟩ := Runs.bind_iff.mp h
  obtain ⟨descriptor, u, hd, h⟩ := Runs.bind_iff.mp h
  obtain ⟨member, v, hm, h⟩ := Runs.bind_iff.mp h
  have hs := (grows_classIndex _).of_runs ho
  have ht := (grows_utf8Index _).of_runs hn
  have hu := (grows_utf8Index _).of_runs hd
  have hv := (grows_findOrAppend rfl).of_runs hm
  have hl := (grows_findOrAppend rfl).of_runs h
  have hps := hs.numbered hp
  have hpt := ht.numbered hps
  have hpu := hu.numbered hpt
  have hpair : v.nameAndType member = .ok (method.name, method.descriptor) :=
    nameAndType_eq_ok_iff.mpr ⟨name, descriptor, findOrAppend_runs hpu hm,
      (hu.trans hv).utf8 (utf8Index_runs hps hn), hv.utf8 (utf8Index_runs hpt hd)⟩
  have howner : v.className owner = .ok method.owner :=
    ((ht.trans hu).trans hv).className (classIndex_runs hp ho)
  have hg := findOrAppend_runs (hv.numbered hpu) h
  unfold memberRef
  rw [hg]
  exact resolveMember_eq_ok_iff.mpr ⟨hl.className howner, hl.nameAndType hpair⟩

end Steps

end ConstantPool

end MethodTrace
