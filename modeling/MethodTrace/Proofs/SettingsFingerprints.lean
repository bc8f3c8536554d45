import MethodTrace.Proofs.AnchoredPatterns
import MethodTrace.Proofs.ArchiveBytes
import MethodTrace.Settings

/-!
Fingerprints that identify the settings they are taken of.

What is hashed can be read back: every part stands behind its length, no pattern between anchors is
the word that stands before the patterns that exclude, and sorted lists are equal just when they
hold the same texts as often.
-/

namespace MethodTrace

theorem Bytes.ofString_injective : Function.Injective ofString := by
  intro first second h
  have := toString?_ofString first
  rw [h, toString?_ofString] at this
  exact (Option.some.inj this).symm

namespace ContentHash

/-- Parts whose lengths fit into eight bytes. -/
def Sized (parts : List Bytes) : Prop :=
  ∀ part ∈ parts, part.length < Bytes.limit 8

/-- A framed part is told apart from what is behind it. -/
theorem framed_append_inj {part other rest rest' : Bytes} (hp : part.length < Bytes.limit 8)
    (ho : other.length < Bytes.limit 8) (h : framed part ++ rest = framed other ++ rest') :
    part = other ∧ rest = rest' := by
  unfold framed at h
  rw [List.append_assoc, List.append_assoc] at h
  obtain ⟨lengths, h⟩ := Archive.littleEndian_append_inj hp ho h
  exact List.append_inj h lengths

/-- Lists of parts are told apart by what is hashed of them. -/
theorem flatMap_framed_inj {parts others : List Bytes} (hp : Sized parts) (ho : Sized others)
    (h : parts.flatMap framed = others.flatMap framed) : parts = others := by
  have some (part rest : Bytes) : framed part ++ rest ≠ [] := by
    intro none
    have := congrArg List.length none
    simp [framed] at this
  induction parts generalizing others with
  | nil =>
    cases others with
    | nil => rfl
    | cons other others => exact absurd h.symm (some _ _)
  | cons part parts ih =>
    cases others with
    | nil => exact absurd h (some _ _)
    | cons other others =>
      obtain ⟨rfl, rest⟩ := framed_append_inj (hp part (by simp)) (ho other (by simp)) h
      rw [ih (fun x hx => hp x (by simp [hx])) (fun x hx => ho x (by simp [hx])) rest]

end ContentHash

theorem Pattern.anchored_injective : Function.Injective anchored := by
  intro first second h
  have := congrArg String.toList h
  rw [toList_anchored, toList_anchored, List.append_cancel_left_eq, List.append_cancel_right_eq] at this
  exact String.toList_injective this

theorem Pattern.length_ofString_anchored (text : String) :
    (Bytes.ofString (anchored text)).length = (Bytes.ofString text).length + 6 := by
  rw [Bytes.ofString_eq_flatMap, toList_anchored, List.flatMap_append, List.flatMap_append,
    ← Bytes.ofString_eq_flatMap, ← Bytes.ofString_eq_flatMap, ← Bytes.ofString_eq_flatMap,
    List.length_append, List.length_append]
  have front : (Bytes.ofString "^(?:").length = 4 := by decide +kernel
  have back : (Bytes.ofString ")$").length = 2 := by decide +kernel
  omega

namespace TagFilter

variable {patterns others includes includes' excludes excludes' : List String}
variable {found found' : List Pattern} {filter other : TagFilter}

/-- Compiled patterns keep the texts of rules, between anchors. -/
theorem map_text_of_compileAll (h : compileAll patterns = .ok found) :
    found.map (·.text) = patterns.map Pattern.anchored := by
  have each := Except.mapM_eq_ok_iff.mp h
  clear h
  induction each with
  | nil => rfl
  | @cons text pattern patterns found hp _ ih =>
    have compiled : pattern.text = Pattern.anchored text := by
      split at hp
      next whole hw =>
        cases hp
        obtain ⟨_, _, _, _, _, same⟩ := Pattern.compile?_eq_some_iff.mp hw
        exact same
      next => cases hp
    rw [List.map_cons, List.map_cons, compiled, ih]

/-- Sorted lists of compiled patterns are equal just when the rules give the same patterns as
often. -/
theorem sortedTexts_eq_iff (hf : compileAll patterns = .ok found)
    (hg : compileAll others = .ok found') :
    sortedTexts found = sortedTexts found' ↔ patterns.Perm others := by
  rw [← List.map_perm_map_iff Pattern.anchored_injective]
  unfold sortedTexts
  rw [map_text_of_compileAll hf, map_text_of_compileAll hg]
  constructor
  · intro h
    have perm := List.mergeSort_perm (patterns.map Pattern.anchored) fun a b => !decide (b < a)
    rw [h] at perm
    exact perm.symm.trans (List.mergeSort_perm _ _)
  · intro perm
    exact mergeSort_eq_of_perm id perm fun _ _ _ _ h => h

theorem ofPatterns_eq_ok (h : ofPatterns includes excludes = .ok filter) :
    compileAll includes = .ok filter.includes ∧ compileAll excludes = .ok filter.excludes ∧
      filter.enabled = true := by
  unfold ofPatterns at h
  obtain ⟨found, hi, h⟩ := Except.bind_eq_ok_iff.mp h
  obtain ⟨found', he, h⟩ := Except.bind_eq_ok_iff.mp h
  cases h
  exact ⟨hi, he, rfl⟩

/-- The texts of which the hash of a filter is taken. -/
def texts (filter : TagFilter) : List String :=
  (if filter.enabled then "on" else "off") :: "include" :: sortedTexts filter.includes
    ++ "exclude" :: sortedTexts filter.excludes

/-- What is hashed of a filter. -/
def hashed (filter : TagFilter) : Bytes :=
  (filter.texts.map Bytes.ofString).flatMap ContentHash.framed

theorem fingerprint_eq (filter : TagFilter) :
    filter.fingerprint = ContentHash.ofBytes filter.hashed := rfl

theorem exists_of_mem_sortedTexts {text : String} (h : compileAll patterns = .ok found)
    (ht : text ∈ sortedTexts found) : ∃ pattern ∈ patterns, text = Pattern.anchored pattern := by
  rw [sortedTexts, (List.mergeSort_perm _ _).mem_iff, map_text_of_compileAll h] at ht
  obtain ⟨pattern, hp, same⟩ := List.mem_map.mp ht
  exact ⟨pattern, hp, same.symm⟩

/-- No pattern between anchors is the word that stands before the patterns that exclude. -/
theorem not_mem_sortedTexts (h : compileAll patterns = .ok found) :
    "exclude" ∉ sortedTexts found := by
  intro ht
  obtain ⟨pattern, -, same⟩ := exists_of_mem_sortedTexts h ht
  have := congrArg String.toList same
  rw [Pattern.toList_anchored] at this
  exact absurd (List.cons.inj this).1 (by decide)

/-- The lists of an enabled filter can be read back. -/
theorem texts_ofPatterns_eq_iff (hf : ofPatterns includes excludes = .ok filter)
    (hg : ofPatterns includes' excludes' = .ok other) :
    filter.texts = other.texts ↔ includes.Perm includes' ∧ excludes.Perm excludes' := by
  obtain ⟨hi, he, enabled⟩ := ofPatterns_eq_ok hf
  obtain ⟨hi', he', enabled'⟩ := ofPatterns_eq_ok hg
  rw [← sortedTexts_eq_iff hi hi', ← sortedTexts_eq_iff he he', texts, texts, enabled, enabled',
    List.cons_append, List.cons_append, List.cons_append, List.cons_append, List.cons.injEq,
    List.cons.injEq, List.append_cons_inj_of_notMem (not_mem_sortedTexts hi)
      (not_mem_sortedTexts he)]
  tauto

end TagFilter

namespace Rules

/-- Rules that select alike: none of them is enabled, or both are and have the same patterns as
often in each list. -/
def Alike (rules others : Rules) : Prop :=
  rules.enabled = false ∧ others.enabled = false ∨
    rules.enabled = true ∧ others.enabled = true ∧
      rules.includes.Perm others.includes ∧ rules.excludes.Perm others.excludes

variable {rules others : Rules} {filter other : TagFilter}

theorem toFilter_eq_ok (h : rules.toFilter = .ok filter) :
    rules.enabled = false ∧ filter = .disabled ∨
      rules.enabled = true ∧ TagFilter.ofPatterns rules.includes rules.excludes = .ok filter := by
  unfold toFilter at h
  split at h
  next enabled => exact .inr ⟨enabled, h⟩
  next off =>
    cases h
    exact .inl ⟨Bool.eq_false_iff.mpr off, rfl⟩

theorem texts_eq_iff (hf : rules.toFilter = .ok filter) (hg : others.toFilter = .ok other) :
    filter.texts = other.texts ↔ rules.Alike others := by
  have apart {plain : TagFilter} (on : plain.enabled = true) :
      plain.texts ≠ TagFilter.disabled.texts := by
    intro same
    have := (List.cons.inj same).1
    rw [on] at this
    exact absurd this (by decide)
  obtain ⟨off, rfl⟩ | ⟨on, made⟩ := toFilter_eq_ok hf <;>
    obtain ⟨off', rfl⟩ | ⟨on', made'⟩ := toFilter_eq_ok hg
  · simp [Alike, off, off']
  · simp [Alike, off, on', (apart (TagFilter.ofPatterns_eq_ok made').2.2).symm]
  · simp [Alike, on, off', apart (TagFilter.ofPatterns_eq_ok made).2.2]
  · rw [TagFilter.texts_ofPatterns_eq_iff made made']
    simp [Alike, on, on']

end Rules

namespace Settings

/-- Settings that agree in everything that the output depends on besides the inputs. -/
structure Alike (first second : Settings) : Prop where
  owner : first.hooks.owner = second.hooks.owner
  beginName : first.hooks.beginName = second.hooks.beginName
  endName : first.hooks.endName = second.hooks.endName
  compression : first.archive.compression = second.archive.compression
  level : first.archive.level = second.archive.level
  rules : first.rules.Alike second.rules

/-- The texts that settings are made of. -/
def texts (settings : Settings) : List String :=
  settings.hooks.owner :: settings.hooks.beginName :: settings.hooks.endName ::
    (settings.rules.includes ++ settings.rules.excludes)

/-- Settings with no text that is too long for a memory of 64-bit addresses. -/
def Fits (settings : Settings) : Prop :=
  ∀ text ∈ settings.texts, (Bytes.ofString text).length < 2 ^ 63

/-- The parts of settings of which their hash is taken. -/
def parts (settings : Settings) (filter : TagFilter) : List Bytes :=
  [filter.fingerprint.bytes, Bytes.ofString settings.hooks.owner,
    Bytes.ofString settings.hooks.beginName, Bytes.ofString settings.hooks.endName,
    Bytes.ofString settings.archive.compression.name,
    Bytes.littleEndian 4 settings.archive.level.toNat]

/-- What is hashed of settings. -/
def hashed (settings : Settings) (filter : TagFilter) : Bytes :=
  (settings.parts filter).flatMap ContentHash.framed

theorem fingerprint_eq (settings : Settings) (filter : TagFilter) :
    settings.fingerprint filter = ContentHash.ofBytes (settings.hashed filter) := rfl

variable {settings first second : Settings} {filter other : TagFilter}

theorem sized_parts (fits : settings.Fits) : ContentHash.Sized (settings.parts filter) := by
  have text (name : String) (h : name ∈ settings.texts) :
      (Bytes.ofString name).length < Bytes.limit 8 := (fits name h).trans (by decide)
  intro part h
  simp only [parts, List.mem_cons, List.not_mem_nil, or_false] at h
  rcases h with rfl | rfl | rfl | rfl | rfl | rfl
  · rw [filter.fingerprint.size]
    decide
  · exact text _ (by simp [texts])
  · exact text _ (by simp [texts])
  · exact text _ (by simp [texts])
  · cases settings.archive.compression <;> decide +kernel
  · rw [Bytes.length_littleEndian]
    decide

theorem sized_texts (fits : settings.Fits) (h : settings.rules.toFilter = .ok filter) :
    ContentHash.Sized (filter.texts.map Bytes.ofString) := by
  have pattern {patterns : List String} {found : List Pattern} {text : String}
      (compiled : TagFilter.compileAll patterns = .ok found)
      (within : ∀ name ∈ patterns, name ∈ settings.texts)
      (ht : text ∈ TagFilter.sortedTexts found) : (Bytes.ofString text).length < Bytes.limit 8 := by
    obtain ⟨name, hn, rfl⟩ := TagFilter.exists_of_mem_sortedTexts compiled ht
    have short := fits name (within name hn)
    have limit : 2 ^ 63 + 6 < Bytes.limit 8 := by decide
    rw [Pattern.length_ofString_anchored]
    omega
  have lists : (∀ text ∈ TagFilter.sortedTexts filter.includes,
      (Bytes.ofString text).length < Bytes.limit 8) ∧
      ∀ text ∈ TagFilter.sortedTexts filter.excludes,
        (Bytes.ofString text).length < Bytes.limit 8 := by
    obtain ⟨-, rfl⟩ | ⟨-, made⟩ := Rules.toFilter_eq_ok h
    · simp [TagFilter.disabled, TagFilter.sortedTexts]
    · obtain ⟨hi, he, -⟩ := TagFilter.ofPatterns_eq_ok made
      exact ⟨fun text ht => pattern hi (fun _ hn => by simp [texts, hn]) ht,
        fun text ht => pattern he (fun _ hn => by simp [texts, hn]) ht⟩
  intro part hp
  obtain ⟨text, ht, rfl⟩ := List.mem_map.mp hp
  simp only [TagFilter.texts, List.cons_append, List.mem_cons, List.mem_append] at ht
  rcases ht with rfl | rfl | ht | rfl | ht
  · split <;> decide +kernel
  · decide +kernel
  · exact lists.1 text ht
  · decide +kernel
  · exact lists.2 text ht

theorem parts_eq_iff : first.parts filter = second.parts other ↔
    filter.fingerprint = other.fingerprint ∧ first.hooks.owner = second.hooks.owner ∧
      first.hooks.beginName = second.hooks.beginName ∧
      first.hooks.endName = second.hooks.endName ∧
      first.archive.compression = second.archive.compression ∧
      first.archive.level = second.archive.level := by
  have hashes : filter.fingerprint.bytes = other.fingerprint.bytes ↔
      filter.fingerprint = other.fingerprint := by
    cases filter.fingerprint
    cases other.fingerprint
    rw [ContentHash.mk.injEq]
  have names : first.archive.compression.name = second.archive.compression.name ↔
      first.archive.compression = second.archive.compression := by
    cases first.archive.compression <;> cases second.archive.compression <;> decide
  have levels : Bytes.littleEndian 4 first.archive.level.toNat
      = Bytes.littleEndian 4 second.archive.level.toNat ↔
        first.archive.level = second.archive.level := by
    constructor
    · intro h
      exact UInt32.toNat_inj.mp
        (Bytes.littleEndian_inj (UInt32.toNat_lt _) (UInt32.toNat_lt _) h)
    · intro h
      rw [h]
  simp only [parts, List.cons.injEq, and_true, Bytes.ofString_injective.eq_iff, hashes, names,
    levels]

/-- The fingerprints of settings are equal just when the settings agree in their hooks, in how the
output is written and in the patterns that select, in any order, unless tracing is off. -/
theorem fingerprint_eq_iff (hf : first.rules.toFilter = .ok filter)
    (hg : second.rules.toFilter = .ok other) (fits : first.Fits) (fits' : second.Fits)
    (inj : Set.InjOn ContentHash.ofBytes
      {filter.hashed, first.hashed filter, other.hashed, second.hashed other}) :
    first.fingerprint filter = second.fingerprint other ↔ first.Alike second := by
  have rules : filter.fingerprint = other.fingerprint ↔ first.rules.Alike second.rules := by
    rw [← Rules.texts_eq_iff hf hg, TagFilter.fingerprint_eq, TagFilter.fingerprint_eq]
    constructor
    · intro h
      have same : filter.hashed = other.hashed := inj (by simp) (by simp) h
      have := ContentHash.flatMap_framed_inj (sized_texts fits hf) (sized_texts fits' hg) same
      exact List.map_injective_iff.mpr Bytes.ofString_injective this
    · intro h
      rw [TagFilter.hashed, h, TagFilter.hashed]
  have whole : first.fingerprint filter = second.fingerprint other ↔
      first.parts filter = second.parts other := by
    rw [fingerprint_eq, fingerprint_eq]
    constructor
    · intro h
      have same : first.hashed filter = second.hashed other := inj (by simp) (by simp) h
      exact ContentHash.flatMap_framed_inj (sized_parts fits) (sized_parts fits') same
    · intro h
      rw [hashed, h, hashed]
  rw [whole, parts_eq_iff, rules]
  constructor
  · rintro ⟨rules, owner, beginName, endName, compression, level⟩
    exact ⟨owner, beginName, endName, compression, level, rules⟩
  · intro alike
    exact ⟨alike.rules, alike.owner, alike.beginName, alike.endName, alike.compression, alike.level⟩

/-- The filter with two patterns of one letter each. -/
def filterOfLetters (first second : Char) : TagFilter where
  includes := [first, second].map fun c =>
    ⟨"^(?:" ++ String.singleton c ++ ")$", Pattern.anchoredRegex (.oneOf ⟨[(c.toNat, c.toNat)]⟩)⟩
  excludes := []
  enabled := true

/-- Settings with two patterns, and nothing else that is not left out. -/
def ofLetters (first second : Char) : Settings where
  rules := { includes := [first, second].map String.singleton }

theorem texts_filterOfLetters : (filterOfLetters 'x' 'y').texts
    = ["on", "include", "^(?:x)$", "^(?:y)$", "exclude"] := by cbv

theorem fingerprint_eq_iff_swapped :
    (ofLetters 'x' 'y').fingerprint (filterOfLetters 'x' 'y')
      = (ofLetters 'y' 'x').fingerprint (filterOfLetters 'y' 'x') := by
  have made : (ofLetters 'x' 'y').rules.toFilter = .ok (filterOfLetters 'x' 'y') := by cbv
  have made' : (ofLetters 'y' 'x').rules.toFilter = .ok (filterOfLetters 'y' 'x') := by cbv
  have alike : (ofLetters 'y' 'x').rules.Alike (ofLetters 'x' 'y').rules :=
    .inr ⟨rfl, rfl, .swap _ _ _, .nil⟩
  have short (settings : Settings) (h : settings.texts ⊆ ["android/os/Trace", "beginSection",
      "endSection", "x", "y"]) : settings.Fits := by
    intro text ht
    have := h ht
    simp only [List.mem_cons, List.not_mem_nil, or_false] at this
    rcases this with rfl | rfl | rfl | rfl | rfl <;> decide +kernel
  have same : (filterOfLetters 'y' 'x').hashed = (filterOfLetters 'x' 'y').hashed := by
    rw [TagFilter.hashed, (Rules.texts_eq_iff made' made).mpr alike, TagFilter.hashed]
  have whole : (ofLetters 'y' 'x').hashed (filterOfLetters 'y' 'x')
      = (ofLetters 'x' 'y').hashed (filterOfLetters 'x' 'y') := by
    have hooks : (ofLetters 'y' 'x').hooks = (ofLetters 'x' 'y').hooks := rfl
    have archive : (ofLetters 'y' 'x').archive = (ofLetters 'x' 'y').archive := rfl
    rw [hashed, hashed, parts, parts, TagFilter.fingerprint_eq, TagFilter.fingerprint_eq, same,
      hooks, archive]
  have apart : ContentHash.ofBytes (filterOfLetters 'x' 'y').hashed
      ≠ ContentHash.ofBytes ((ofLetters 'x' 'y').hashed (filterOfLetters 'x' 'y')) := by
    rw [hashed, parts, TagFilter.fingerprint_eq, TagFilter.hashed, texts_filterOfLetters]
    decide +kernel
  have inj : Set.InjOn ContentHash.ofBytes
      {(filterOfLetters 'x' 'y').hashed, (ofLetters 'x' 'y').hashed (filterOfLetters 'x' 'y'),
        (filterOfLetters 'y' 'x').hashed, (ofLetters 'y' 'x').hashed (filterOfLetters 'y' 'x')} := by
    rw [same, whole]
    simp [apart]
  refine (fingerprint_eq_iff made made' ?_ ?_ inj).mpr ?_
  · exact short _ (by decide)
  · exact short _ (by decide)
  · exact ⟨rfl, rfl, rfl, rfl, rfl, .inr ⟨rfl, rfl, .swap _ _ _, .nil⟩⟩

end Settings

end MethodTrace
