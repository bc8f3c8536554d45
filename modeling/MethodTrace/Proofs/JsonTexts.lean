import MethodTrace.Json.Parser
import MethodTrace.Json.Printer
import MethodTrace.Proofs.HashSpellings
import Mathlib

/-!
JSON values read back from the texts that spell them.
-/

namespace MethodTrace.JsonValue

/-- A value without numbers, in which all strings and names spell texts. -/
inductive Plain : JsonValue → Prop
  | null : Plain .null
  | bool (value : Bool) : Plain (.bool value)
  | string (text : String) : Plain (.string (some text))
  | array {items : List JsonValue} (values : ∀ item ∈ items, Plain item) : Plain (.array items)
  | object {members : List (Option String × JsonValue)}
      (names : ∀ member ∈ members, member.1.isSome = true)
      (values : ∀ member ∈ members, Plain member.2) : Plain (.object members)

/-! ### Strings -/

theorem textOfUnits?_map_toNat (chars : List Char) :
    textOfUnits? (chars.map Char.toNat) = some chars := by
  induction chars with
  | nil => rfl
  | cons c chars ih =>
    have valid : c.toNat.isValidChar := c.valid
    have low : ¬(0xd800 ≤ c.toNat ∧ c.toNat < 0xdc00) := by
      rintro ⟨h1, h2⟩
      rcases valid with h | ⟨h, _⟩ <;> omega
    cases chars with
    | nil => simp [textOfUnits?, valid, Char.ofNat_toNat]
    | cons next chars =>
      have pair : ¬(0xd800 ≤ c.toNat ∧ c.toNat < 0xdc00 ∧ 0xdc00 ≤ next.toNat
          ∧ next.toNat < 0xe000) := fun h => low ⟨h.1, h.2.1⟩
      rw [List.map_cons] at ih
      rw [List.map_cons, List.map_cons, textOfUnits?, if_neg pair, if_pos valid, ih]
      simp [Char.ofNat_toNat]

theorem stringUnits?_escapeChar (c : Char) (units : List Nat) (rest : List Char) :
    stringUnits? units (escapeChar c ++ rest) = stringUnits? (c.toNat :: units) rest := by
  unfold escapeChar
  split
  case h_8 _ quote slash _ _ _ _ _ =>
    split
    next control =>
      have small : c.toNat < 32 := UInt32.lt_iff_toNat_lt.mp control
      have digits : ∀ n : Fin 32, Bytes.hexNumber? (Bytes.hexDigits 4 n) = some n.val := by decide
      have number := digits ⟨c.toNat, small⟩
      simp only [Bytes.hexDigits, List.nil_append, List.cons_append] at number ⊢
      rw [stringUnits?, number]
      rfl
    next printable =>
      have plain : ¬(c < ' ' ∨ c = '\\') := fun h => h.elim printable slash
      rw [List.singleton_append, stringUnits?.eq_def]
      split
      case h_5 heq =>
        cases heq
        rw [if_neg plain]
      all_goals simp_all
  all_goals simp [stringUnits?, escapedChar?]

theorem stringUnits?_escaped (chars : List Char) (units : List Nat) (rest : List Char) :
    stringUnits? units (chars.flatMap escapeChar ++ '"' :: rest)
      = some ((chars.map Char.toNat).reverse ++ units, rest) := by
  induction chars generalizing units with
  | nil => rfl
  | cons c chars ih =>
    rw [List.flatMap_cons, List.append_assoc, stringUnits?_escapeChar, ih]
    simp

/-- A text between quotes is read as a string. -/
theorem token?_quoted (text : String) (rest : List Char) :
    token? ((quoted text).toList ++ rest) = some (.scalar (.string (some text)), rest) := by
  have cut : (quoted text).toList ++ rest
      = '"' :: (text.toList.flatMap escapeChar ++ '"' :: rest) := by
    simp [quoted]
  rw [cut, token?, string?, stringUnits?_escaped]
  simp [textOfUnits?_map_toNat]

/-! ### Tokens -/

/-- Texts of which the second is what is left of the first behind some tokens. -/
def Lexes (text : List Char) (tokens : List Token) (rest : List Char) : Prop :=
  ∀ fuel (found : Array Token), text.length < fuel → ∃ remaining, rest.length < remaining ∧
    tokensFrom? fuel found text = tokensFrom? remaining (found ++ tokens.toArray) rest

theorem Lexes.refl (text : List Char) : Lexes text [] text :=
  fun fuel _ h => ⟨fuel, h, by simp⟩

theorem Lexes.trans {text rest final : List Char} {tokens more : List Token}
    (h : Lexes text tokens rest) (h' : Lexes rest more final) :
    Lexes text (tokens ++ more) final := by
  intro fuel found hf
  obtain ⟨middle, hm, he⟩ := h fuel found hf
  obtain ⟨remaining, hr, he'⟩ := h' middle (found ++ tokens.toArray) hm
  refine ⟨remaining, hr, ?_⟩
  rw [he, he']
  simp

theorem Lexes.blank {c : Char} (text : List Char) (h : isBlank c = true) :
    Lexes (c :: text) [] text := by
  intro fuel found hf
  cases fuel with
  | zero => simp at hf
  | succ fuel =>
    refine ⟨fuel + 1, by simp at hf ⊢; omega, ?_⟩
    simp only [tokensFrom?, List.dropWhile_cons, h, if_true]
    simp

theorem Lexes.blanks {blanks : List Char} (text : List Char) (h : ∀ c ∈ blanks, isBlank c = true) :
    Lexes (blanks ++ text) [] text := by
  induction blanks with
  | nil => exact .refl text
  | cons c blanks ih =>
    exact (Lexes.blank _ (h c (by simp))).trans (ih fun c hc => h c (by simp [hc]))

theorem Lexes.token {c : Char} {text rest : List Char} {token : Token} (hb : isBlank c = false)
    (ht : token? (c :: text) = some (token, rest)) (hl : rest.length ≤ text.length) :
    Lexes (c :: text) [token] rest := by
  intro fuel found hf
  cases fuel with
  | zero => simp at hf
  | succ fuel =>
    refine ⟨fuel, by simp at hf; omega, ?_⟩
    simp only [tokensFrom?, List.dropWhile_cons, hb, Bool.false_eq_true, if_false]
    rw [ht]
    simp

/-! ### Values -/

/-- Texts and states of the reader of which the second follow the first. -/
def Reads (text : List Char) (before : Parse) (rest : List Char) (after : Parse) : Prop :=
  ∃ tokens, Lexes text tokens rest ∧ tokens.foldlM Parse.step? before = some after

variable {text rest final : List Char} {before middle after : Parse} {outer : List Container}

theorem Reads.trans (h : Reads text before rest middle) (h' : Reads rest middle final after) :
    Reads text before final after := by
  obtain ⟨tokens, hl, hp⟩ := h
  obtain ⟨more, hl', hp'⟩ := h'
  refine ⟨tokens ++ more, hl.trans hl', ?_⟩
  rw [List.foldlM_append, hp]
  exact hp'

theorem Reads.of_blanks {blanks : List Char} (h : ∀ c ∈ blanks, isBlank c = true)
    (h' : Reads text before rest after) : Reads (blanks ++ text) before rest after := by
  obtain ⟨tokens, hl, hp⟩ := h'
  exact ⟨tokens, (Lexes.blanks text h).trans hl, hp⟩

theorem Reads.newline (h : Reads text before rest after) :
    Reads ('\n' :: text) before rest after :=
  @Reads.of_blanks text rest before after ['\n'] (List.forall_mem_singleton.mpr rfl) h

theorem Reads.token {c : Char} {token : Token} (hb : isBlank c = false)
    (ht : token? (c :: text) = some (token, rest)) (hl : rest.length ≤ text.length)
    (hs : before.step? token = some after) : Reads (c :: text) before rest after :=
  ⟨[token], .token hb ht hl, by simp [hs]⟩

theorem Reads.quoted {text : String} (hs : before.step? (.scalar (.string (some text))) = some after) :
    Reads ((quoted text).toList ++ rest) before rest after := by
  have ht := token?_quoted text rest
  have cut : (JsonValue.quoted text).toList ++ rest
      = '"' :: (text.toList.flatMap escapeChar ++ '"' :: rest) := by
    simp [JsonValue.quoted]
  rw [cut] at ht ⊢
  exact .token (by decide) ht (by simp; omega) hs

/-- A state of the reader in which a value may come next. -/
def Takes (parse : Parse) (outer : List Container) : Prop :=
  ∀ token, token ≠ .closeBracket → parse.step? token = Parse.value? outer token

theorem takes_value (outer : List Container) : Takes ⟨.value, outer⟩ outer :=
  fun _ _ => by simp [Parse.step?]

theorem takes_firstItem (outer : List Container) : Takes ⟨.firstItem, outer⟩ (.array [] :: outer) := by
  intro token h
  cases token <;> simp_all [Parse.step?]

theorem prettyItems_eq_map (depth : Nat) (items : List JsonValue) :
    prettyItems depth items = items.map (prettyAt (depth + 1)) := by
  induction items with
  | nil => rfl
  | cons item items ih => rw [prettyItems, ih, List.map_cons]

theorem prettyMembers_eq_map (depth : Nat) (members : List (Option String × JsonValue)) :
    prettyMembers depth members
      = members.map fun member => quotedOrEmpty member.1 ++ ": " ++ prettyAt (depth + 1) member.2 := by
  induction members with
  | nil => rfl
  | cons member members ih => rw [prettyMembers, ih, List.map_cons]

theorem isBlank_of_mem_indent {depth : Nat} {c : Char} (h : c ∈ (indent depth).toList) :
    isBlank c = true := by
  simp only [indent, String.toList_ofList, List.mem_replicate] at h
  rw [h.2]
  rfl

section Lines

variable {α γ : Type} {text : α → String} (add : γ → α → γ) (container : γ → Container)
  (Ready : Parse → γ → Prop)

/-- Lines with a comma after each but the last are read into a container one by one. -/
theorem reads_lines (depth : Nat) {items : List α} (hne : items ≠ [])
    (each : ∀ item ∈ items, ∀ (held : γ) (before : Parse) (rest : List Char), Ready before held →
      Reads ((text item).toList ++ rest) before rest ⟨.more (container (add held item)), outer⟩)
    (next : ∀ held, ∃ after, Parse.more? (container held) outer .comma = some after ∧
      Ready after held)
    {held : γ} (ready : Ready before held) :
    Reads ((",\n".intercalate (items.map fun item => indent depth ++ text item)).toList ++ rest)
      before rest ⟨.more (container (items.foldl add held)), outer⟩ := by
  induction items generalizing before held with
  | nil => exact absurd rfl hne
  | cons item items ih =>
    have first := fun rest => each item (by simp) held before rest ready
    cases items with
    | nil =>
      simp only [List.map_cons, List.map_nil, String.intercalate_singleton, String.toList_append,
        List.append_assoc, List.foldl_cons, List.foldl_nil]
      exact .of_blanks (fun c => isBlank_of_mem_indent) (first rest)
    | cons second items =>
      obtain ⟨after, hc, hr⟩ := next (add held item)
      have others := ih (by simp) (fun i hi => each i (by simp [hi])) hr
      simp only [List.map_cons, String.intercalate_cons_cons, String.toList_append,
        List.append_assoc, List.foldl_cons] at others ⊢
      refine .of_blanks (fun c => isBlank_of_mem_indent) ((first _).trans ?_)
      refine Reads.trans (.token (by decide) rfl (Nat.le_refl _) hc) ?_
      exact .newline others

/-- Lines between two marks are read from the first mark to the last. -/
theorem reads_block (depth : Nat) {items : List α} {first final : String} {opened : Parse}
    (start : γ) (value : γ → JsonValue)
    (opens : ∀ rest, Reads (first.toList ++ rest) before rest opened)
    (closes : ∀ held rest, Reads (final.toList ++ rest) ⟨.more (container held), outer⟩ rest
      (Parse.complete (value held) outer))
    (empty : ∀ rest, Reads (final.toList ++ rest) opened rest
      (Parse.complete (value start) outer))
    (each : ∀ item ∈ items, ∀ (held : γ) (before : Parse) (rest : List Char), Ready before held →
      Reads ((text item).toList ++ rest) before rest ⟨.more (container (add held item)), outer⟩)
    (next : ∀ held, ∃ after, Parse.more? (container held) outer .comma = some after ∧
      Ready after held)
    (ready : Ready opened start) :
    Reads ((block depth first final (items.map text)).toList ++ rest) before rest
      (Parse.complete (value (items.foldl add start)) outer) := by
  unfold block
  split
  next h =>
    have none : items = [] := by simpa using h
    subst none
    rw [String.toList_append, List.append_assoc]
    exact (opens _).trans (empty _)
  next h =>
    have some : items ≠ [] := by simpa using h
    have line : "\n".toList = ['\n'] := rfl
    simp only [List.map_map, Function.comp_def, String.toList_append, List.append_assoc, line,
      List.singleton_append]
    refine (opens _).trans (.newline ?_)
    refine (reads_lines add container Ready (depth + 1) some each next ready).trans (.newline ?_)
    exact .of_blanks (fun c => isBlank_of_mem_indent) (closes _ _)

end Lines

theorem foldl_cons {α : Type} (items held : List α) :
    items.foldl (fun held item => item :: held) held = items.reverse ++ held := by
  induction items generalizing held with
  | nil => rfl
  | cons item items ih => simp [ih]

/-- A state of the reader in which a name may come next. -/
def TakesName (outer : List Container) (parse : Parse)
    (members : List (Option String × JsonValue)) : Prop :=
  ∀ token, token ≠ .closeBrace → parse.step? token = Parse.name? members outer token

theorem takesName_firstName (outer : List Container) :
    TakesName outer ⟨.firstName, outer⟩ [] := by
  intro token h
  cases token <;> simp_all [Parse.step?]

theorem takesName_name (outer : List Container) (members : List (Option String × JsonValue)) :
    TakesName outer ⟨.name members, outer⟩ members :=
  fun _ _ => by simp [Parse.step?]

/-- A value is read from its lines wherever a value may come next. -/
theorem Plain.reads {value : JsonValue} (h : Plain value) (depth : Nat)
    (ready : Takes before outer) :
    Reads ((prettyAt depth value).toList ++ rest) before rest (Parse.complete value outer) := by
  induction h generalizing depth before outer rest with
  | null =>
    rw [prettyAt, compact]
    change Reads ('n' :: 'u' :: 'l' :: 'l' :: rest) before rest _
    exact .token (by decide) rfl (by simp; omega) (ready _ (by simp))
  | bool value =>
    cases value with
    | true =>
      rw [prettyAt, compact, if_pos rfl]
      change Reads ('t' :: 'r' :: 'u' :: 'e' :: rest) before rest _
      exact .token (by decide) rfl (by simp; omega) (ready _ (by simp))
    | false =>
      rw [prettyAt, compact, if_neg Bool.false_ne_true]
      change Reads ('f' :: 'a' :: 'l' :: 's' :: 'e' :: rest) before rest _
      exact .token (by decide) rfl (by simp; omega) (ready _ (by simp))
  | string text =>
    rw [prettyAt, compact]
    exact .quoted (ready _ (by simp))
  | @array items _ ih =>
    have mark (text : List Char) {before after : Parse}
        (h : before.step? .closeBracket = some after) : Reads (']' :: text) before text after :=
      .token (by decide) rfl (Nat.le_refl _) h
    have block := @reads_block rest before outer _ _ (prettyAt (depth + 1))
      (fun held item => item :: held) Container.array
      (fun parse held => Takes parse (.array held :: outer)) depth items "[" "]"
      ⟨.firstItem, outer⟩ [] (fun held => .array held.reverse)
      (fun text => .token (by decide) rfl (Nat.le_refl _) (ready _ (by simp)))
      (fun held text => mark text rfl) (fun text => mark text rfl)
      (fun item hi held before rest hr => ih item hi (depth + 1) hr)
      (fun held => ⟨_, rfl, takes_value _⟩) (takes_firstItem outer)
    rw [prettyAt, prettyItems_eq_map]
    simpa only [foldl_cons, List.append_nil, List.reverse_reverse] using block
  | @object members names _ ih =>
    have mark (text : List Char) {before after : Parse}
        (h : before.step? .closeBrace = some after) : Reads ('\x7d' :: text) before text after :=
      .token (by decide) rfl (Nat.le_refl _) h
    have block := @reads_block rest before outer _ _
      (fun member : Option String × JsonValue =>
        quotedOrEmpty member.1 ++ ": " ++ prettyAt (depth + 1) member.2)
      (fun held member => member :: held) (fun held => Container.object held none)
      (TakesName outer) depth members "\x7b" "\x7d"
      ⟨.firstName, outer⟩ [] (fun held => .object held.reverse)
      (fun text => .token (by decide) rfl (Nat.le_refl _) (ready _ (by simp)))
      (fun held text => mark text rfl) (fun text => mark text rfl)
      (by
        rintro ⟨name, value⟩ hm held before rest hr
        obtain ⟨name, rfl⟩ := Option.isSome_iff_exists.mp (names _ hm)
        simp only [String.toList_append, List.append_assoc]
        refine (Reads.quoted (hr _ (by simp))).trans ?_
        refine Reads.trans (.token (by decide) rfl (Nat.le_refl _) rfl) ?_
        exact @Reads.of_blanks _ _ _ _ [' '] (List.forall_mem_singleton.mpr rfl)
          (ih _ hm (depth + 1) (takes_value _)))
      (fun held => ⟨_, rfl, takesName_name outer held⟩) (takesName_firstName outer)
    rw [prettyAt, prettyMembers_eq_map]
    simpa only [foldl_cons, List.append_nil, List.reverse_reverse] using block

/-- A value is what its lines spell. -/
theorem Plain.parse?_pretty {value : JsonValue} (h : Plain value) :
    parse? value.pretty = some value := by
  obtain ⟨tokens, hl, hp⟩ := @Plain.reads [] Parse.start [] value h 0 (takes_value [])
  rw [List.append_nil] at hl
  obtain ⟨remaining, hr, hf⟩ := hl (value.pretty.length + 1) #[]
    (by simp [pretty, String.length_toList])
  have found : tokens? value.pretty = some tokens := by
    cases remaining with
    | zero => simp at hr
    | succ fuel => simpa [tokens?, tokensFrom?, pretty] using hf
  simp only [parse?, found, Option.bind_eq_bind, Option.bind_some, hp]
  rfl

/-! ### Characters -/

/-- A text without control characters other than ends of lines. -/
def Printable (text : String) : Prop :=
  ∀ c ∈ text.toList, c = '\n' ∨ ' ' ≤ c

theorem Printable.append {first second : String} (h : Printable first) (h' : Printable second) :
    Printable (first ++ second) := by
  intro c hc
  rw [String.toList_append] at hc
  exact (List.mem_append.mp hc).elim (h c) (h' c)

theorem Printable.intercalate {separator : String} {texts : List String}
    (hs : Printable separator) (h : ∀ text ∈ texts, Printable text) :
    Printable (separator.intercalate texts) := by
  induction texts with
  | nil => intro c hc; simp at hc
  | cons first texts ih =>
    cases texts with
    | nil => simpa using h
    | cons second texts =>
      rw [String.intercalate_cons_cons]
      exact ((h first (by simp)).append hs).append (ih fun text ht => h text (by simp [ht]))

theorem printable_quoted (text : String) : Printable (quoted text) := by
  have escaped (c : Char) : ∀ d ∈ escapeChar c, ' ' ≤ d := by
    intro d hd
    unfold escapeChar at hd
    split at hd
    case h_8 =>
      split at hd
      next =>
        have digit (n : Nat) : ' ' ≤ Bytes.hexDigit (n % 16) :=
          le_of_lt (Bytes.printable_hexDigit (Nat.mod_lt n (by omega)))
        simp only [Bytes.hexDigits, List.nil_append, List.cons_append, List.mem_cons,
          List.not_mem_nil, or_false] at hd
        rcases hd with rfl | rfl | rfl | rfl | rfl | rfl
        all_goals first | decide | exact digit _
      next printable =>
        rw [List.mem_singleton] at hd
        rw [hd]
        exact Char.not_lt.mp printable
    all_goals
      simp only [List.mem_cons, List.not_mem_nil, or_false] at hd
      rcases hd with rfl | rfl
      all_goals decide
  intro d hd
  simp only [quoted, String.toList_ofList, List.cons_append, List.mem_cons, List.mem_append,
    List.mem_flatMap, List.not_mem_nil, or_false] at hd
  rcases hd with rfl | ⟨c, _, hd⟩ | rfl
  · exact .inr (by decide)
  · exact .inr (escaped c d hd)
  · exact .inr (by decide)

theorem printable_indent (depth : Nat) : Printable (indent depth) := by
  intro c hc
  simp only [indent, String.toList_ofList, List.mem_replicate] at hc
  rw [hc.2]
  exact .inr (by decide)

theorem Printable.block {first final : String} {lines : List String} (depth : Nat)
    (hf : Printable first) (hl : Printable final) (h : ∀ line ∈ lines, Printable line) :
    Printable (block depth first final lines) := by
  have newline : Printable "\n" := by
    intro c hc
    exact .inl (by simpa using hc)
  have comma : Printable ",\n" := by
    intro c hc
    have : c = ',' ∨ c = '\n' := by simpa using hc
    rcases this with rfl | rfl
    · exact .inr (by decide)
    · exact .inl rfl
  unfold JsonValue.block
  split
  · exact hf.append hl
  · refine ((((hf.append newline).append ?_).append newline).append (printable_indent depth)).append hl
    refine comma.intercalate fun line hm => ?_
    obtain ⟨text, ht, rfl⟩ := List.mem_map.mp hm
    exact (printable_indent _).append (h text ht)

theorem printable_of_all {text : String} (h : text.toList.all (' ' ≤ ·) = true) :
    Printable text :=
  fun c hc => .inr (of_decide_eq_true (List.all_eq_true.mp h c hc))

theorem Plain.printable {value : JsonValue} (h : Plain value) (depth : Nat) :
    Printable (prettyAt depth value) := by
  induction h generalizing depth with
  | null =>
    rw [prettyAt, compact]
    exact printable_of_all (by decide)
  | bool value =>
    rw [prettyAt, compact]
    cases value with
    | true => exact printable_of_all (by decide)
    | false => exact printable_of_all (by decide)
  | string text =>
    rw [prettyAt, compact]
    exact printable_quoted text
  | @array items _ ih =>
    rw [prettyAt, prettyItems_eq_map]
    refine .block depth (printable_of_all (by decide)) (printable_of_all (by decide)) ?_
    intro line hm
    obtain ⟨item, hi, rfl⟩ := List.mem_map.mp hm
    exact ih item hi (depth + 1)
  | @object members names _ ih =>
    rw [prettyAt, prettyMembers_eq_map]
    refine .block depth (printable_of_all (by decide)) (printable_of_all (by decide)) ?_
    intro line hm
    obtain ⟨member, hi, rfl⟩ := List.mem_map.mp hm
    exact ((printable_quoted _).append (printable_of_all (by decide))).append
      (ih member hi (depth + 1))

end MethodTrace.JsonValue
