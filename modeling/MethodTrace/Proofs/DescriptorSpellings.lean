import MethodTrace.ClassFile.Descriptor
import Mathlib

/-!
Which texts are read as method descriptors.

A method descriptor is spelled by the types of its parameters between parentheses and the type of
its result behind them, and no text is spelled in two ways. A reader takes the first closing
parenthesis for the end of the parameters. So it reads all these texts but those in which the class
name of a parameter holds a closing parenthesis; in the class name of a result it may stand.
-/

namespace MethodTrace

/-- Whether a class name can be told from what stands around it. -/
def ElementType.Named : ElementType → Prop
  | object name => name ≠ [] ∧ ';' ∉ name
  | _ => True

def FieldType.Named (type : FieldType) : Prop :=
  type.element.Named

/-- The letters that are types on their own. -/
def ElementType.letters : List Char :=
  ['B', 'C', 'D', 'F', 'I', 'J', 'S', 'Z']

/-- Whether a text is a field type: opening brackets, and then a letter that is a type, or a class
name between an `L` and a semicolon. -/
def FieldType.Spells (text : List Char) : Prop :=
  ∃ (dimensions : Nat) (element : List Char), text = List.replicate dimensions '[' ++ element ∧
    ((∃ letter ∈ ElementType.letters, element = [letter]) ∨
      ∃ name, name ≠ [] ∧ ';' ∉ name ∧ element = 'L' :: name ++ [';'])

/-- Whether a text is a method descriptor with parameters and a result that are given as texts. -/
structure MethodDescriptor.Spells (text : List Char) (params : List (List Char))
    (result : List Char) : Prop where
  text_eq : text = '(' :: params.flatten ++ ')' :: result
  params : ∀ param ∈ params, FieldType.Spells param
  result : result = ['V'] ∨ FieldType.Spells result

section Cuts

variable {stop c : Char} {text front rest : List Char}

theorem takeWhile_ne_append (h : stop ∉ front) :
    (front ++ stop :: rest).takeWhile (· != stop) = front := by
  have inside : ∀ c ∈ front, (c != stop) = true := by
    intro c hc
    exact bne_iff_ne.mpr (ne_of_mem_of_not_mem hc h)
  simp [List.takeWhile_append_of_pos inside]

theorem dropWhile_ne_append (h : stop ∉ front) :
    (front ++ stop :: rest).dropWhile (· != stop) = stop :: rest := by
  have inside : ∀ c ∈ front, (c != stop) = true := by
    intro c hc
    exact bne_iff_ne.mpr (ne_of_mem_of_not_mem hc h)
  simp [List.dropWhile_append_of_pos inside]

/-- A text that holds a character is cut at the first one. -/
theorem eq_takeWhile_append (h : text.dropWhile (· != stop) = c :: rest) :
    text = text.takeWhile (· != stop) ++ stop :: rest := by
  have first : c = stop := by
    have head := List.head?_dropWhile_not (· != stop) text
    rw [h] at head
    simpa using head
  rw [first] at h
  rw [← h, List.takeWhile_append_dropWhile]

theorem not_mem_takeWhile : stop ∉ text.takeWhile (· != stop) := by
  intro mem
  simpa using List.mem_takeWhile_imp mem

end Cuts

namespace ElementType

variable {text rest : List Char} {element : ElementType} {letter : Char}

theorem ofLetter?_eq_some_iff :
    ofLetter? letter = some element ↔ letter ∈ letters ∧ element.render = [letter] := by
  constructor
  · intro h
    unfold ofLetter? at h
    split at h
    all_goals cases h
    all_goals exact ⟨by decide, rfl⟩
  · rintro ⟨hl, hr⟩
    cases element with
    | object name => simp [render] at hr
    | _ => cases hr; rfl

theorem named_of_render (h : element.render = [letter]) : element.Named := by
  cases element with
  | object name => simp [render] at h
  | _ => trivial

/-- What is read of the front of a text is an element type that spells it. -/
theorem parse_eq_some_iff :
    parse text = some (element, rest) ↔ element.Named ∧ text = element.render ++ rest := by
  constructor
  · intro h
    unfold parse at h
    split at h
    · cases h
    · next tail =>
      dsimp only at h
      split at h
      · next c after cut =>
        split at h
        · cases h
        · next hn =>
          cases h
          refine ⟨⟨by simpa using hn, not_mem_takeWhile⟩, ?_⟩
          conv_lhs => rw [eq_takeWhile_append cut]
          simp [render]
      · cases h
    · next c tail _ =>
      obtain ⟨found, hf, same⟩ := Option.map_eq_some_iff.mp h
      cases same
      obtain ⟨_, hr⟩ := ofLetter?_eq_some_iff.mp hf
      exact ⟨named_of_render hr, by rw [hr, List.singleton_append]⟩
  · rintro ⟨named, rfl⟩
    cases element with
    | object name =>
      obtain ⟨nonempty, inside⟩ := named
      have spelled : (object name).render ++ rest = 'L' :: (name ++ ';' :: rest) := by simp [render]
      rw [spelled, parse]
      simp only [takeWhile_ne_append inside, dropWhile_ne_append inside]
      simp [nonempty]
    | _ => rfl

/-- An element type does not begin with a bracket or a parenthesis. -/
theorem exists_render_eq_cons (element : ElementType) :
    ∃ c tail, element.render = c :: tail ∧ c ≠ '[' ∧ c ≠ ')' := by
  cases element with
  | object name => exact ⟨'L', name ++ [';'], rfl, by decide, by decide⟩
  | _ => exact ⟨_, [], rfl, by decide, by decide⟩

end ElementType

namespace FieldType

variable {text rest : List Char} {type : FieldType} {types : List FieldType}

theorem exists_render_eq_cons (type : FieldType) :
    ∃ c tail, type.render = c :: tail ∧ c ≠ ')' := by
  obtain ⟨dimensions, element⟩ := type
  obtain ⟨c, tail, hr, _, hc⟩ := element.exists_render_eq_cons
  cases dimensions with
  | zero => exact ⟨c, tail, hr, hc⟩
  | succ n => exact ⟨'[', List.replicate n '[' ++ element.render, rfl, by decide⟩

/-- What is read of the front of a text is a field type that spells it. -/
theorem parse_eq_some_iff :
    parse text = some (type, rest) ↔ type.Named ∧ text = type.render ++ rest := by
  have opening : text.takeWhile (· == '[')
      = List.replicate (text.takeWhile (· == '[')).length '[' :=
    List.eq_replicate_iff.mpr ⟨rfl, fun c hc => by simpa using List.mem_takeWhile_imp hc⟩
  constructor
  · intro h
    obtain ⟨⟨element, after⟩, hp, same⟩ := Option.bind_eq_some_iff.mp h
    cases same
    obtain ⟨named, cut⟩ := ElementType.parse_eq_some_iff.mp hp
    refine ⟨named, ?_⟩
    rw [render, ← opening, List.append_assoc, ← cut, List.takeWhile_append_dropWhile]
  · rintro ⟨named, rfl⟩
    obtain ⟨dimensions, element⟩ := type
    obtain ⟨c, tail, hr, hc, _⟩ := element.exists_render_eq_cons
    have brackets : ∀ c ∈ List.replicate dimensions '[', (c == '[') = true := by
      intro c hm
      simp [(List.mem_replicate.mp hm).2]
    have spelled : render ⟨dimensions, element⟩ ++ rest
        = List.replicate dimensions '[' ++ (element.render ++ rest) := by simp [render]
    have none : (element.render ++ rest).takeWhile (· == '[') = [] ∧
        (element.render ++ rest).dropWhile (· == '[') = element.render ++ rest := by
      simp [hr, hc]
    have read : ElementType.parse (element.render ++ rest) = some (element, rest) :=
      ElementType.parse_eq_some_iff.mpr ⟨named, rfl⟩
    rw [spelled, parse, List.dropWhile_append_of_pos brackets,
      List.takeWhile_append_of_pos brackets, none.1, none.2, read]
    simp

theorem parse_render (named : type.Named) (rest : List Char) :
    parse (type.render ++ rest) = some (type, rest) :=
  parse_eq_some_iff.mpr ⟨named, rfl⟩

theorem parseAll_eq_some_iff : parseAll text = some type ↔ type.Named ∧ text = type.render := by
  have whole : parseAll text = some type ↔ parse text = some (type, []) := by
    unfold parseAll
    split
    · next found hp => simp [hp]
    · next no => exact ⟨fun h => (nomatch h), fun h => absurd h (no type)⟩
  rw [whole, parse_eq_some_iff, List.append_nil]

theorem length_lt_of_append {c : Char} {tail : List Char} {fuel : Nat}
    (cut : c :: tail = type.render ++ rest) (enough : (c :: tail).length ≤ fuel + 1) :
    rest.length ≤ fuel := by
  obtain ⟨first, after, hr, _⟩ := type.exists_render_eq_cons
  rw [cut, hr, List.cons_append, List.length_cons, List.length_append] at enough
  omega

theorem parseMany_nil {fuel : Nat} :
    parseMany fuel [] = some types ↔ (∀ type ∈ types, type.Named) ∧ [] = types.flatMap render := by
  rw [parseMany]
  cases types with
  | nil => simp
  | cons type more =>
    obtain ⟨c, tail, hr, _⟩ := type.exists_render_eq_cons
    simp [hr]

/-- With enough fuel a text is read as the field types that spell it one after another. -/
theorem parseMany_eq_some_iff {fuel : Nat} (enough : text.length ≤ fuel) :
    parseMany fuel text = some types ↔
      (∀ type ∈ types, type.Named) ∧ text = types.flatMap render := by
  induction fuel generalizing text types with
  | zero =>
    obtain rfl := List.length_eq_zero_iff.mp (Nat.le_zero.mp enough)
    exact parseMany_nil
  | succ fuel ih =>
    cases text with
    | nil => exact parseMany_nil
    | cons c tail =>
      constructor
      · intro h
        obtain ⟨⟨type, rest⟩, hp, h⟩ := Option.bind_eq_some_iff.mp h
        obtain ⟨more, hm, same⟩ := Option.bind_eq_some_iff.mp h
        cases same
        obtain ⟨named, cut⟩ := parse_eq_some_iff.mp hp
        obtain ⟨all, rfl⟩ := (ih (length_lt_of_append cut enough)).mp hm
        exact ⟨List.forall_mem_cons.mpr ⟨named, all⟩, cut⟩
      · rintro ⟨named, cut⟩
        cases types with
        | nil => cases cut
        | cons type more =>
          obtain ⟨first, all⟩ := List.forall_mem_cons.mp named
          rw [List.flatMap_cons] at cut
          have read := (ih (length_lt_of_append cut enough)).mpr ⟨all, rfl⟩
          rw [parseMany, parse_eq_some_iff.mpr ⟨first, cut⟩]
          · simp [read]
          · simp

/-- Field types are just what spells them. -/
theorem spells_iff : Spells text ↔ ∃ type : FieldType, type.Named ∧ text = type.render := by
  constructor
  · rintro ⟨dimensions, element, rfl, ⟨letter, hl, rfl⟩ | ⟨name, nonempty, inside, rfl⟩⟩
    · have some : ∃ element, ElementType.ofLetter? letter = some element := by
        simp only [ElementType.letters, List.mem_cons, List.not_mem_nil, or_false] at hl
        rcases hl with rfl | rfl | rfl | rfl | rfl | rfl | rfl | rfl
        all_goals exact ⟨_, rfl⟩
      obtain ⟨element, he⟩ := some
      obtain ⟨_, hr⟩ := ElementType.ofLetter?_eq_some_iff.mp he
      exact ⟨⟨dimensions, element⟩, ElementType.named_of_render hr, by rw [render, hr]⟩
    · exact ⟨⟨dimensions, .object name⟩, ⟨nonempty, inside⟩, rfl⟩
  · rintro ⟨⟨dimensions, element⟩, named, rfl⟩
    refine ⟨dimensions, element.render, rfl, ?_⟩
    cases element with
    | object name => exact .inr ⟨name, named.1, named.2, rfl⟩
    | _ => exact .inl ⟨_, by decide, rfl⟩

/-- Field types in front of a closing parenthesis are spelled in one way only. -/
theorem flatMap_render_injective {types others : List FieldType} {rest after : List Char}
    (named : ∀ type ∈ types, type.Named) (named' : ∀ type ∈ others, type.Named)
    (same : types.flatMap render ++ ')' :: rest = others.flatMap render ++ ')' :: after) :
    types = others ∧ rest = after := by
  induction types generalizing others with
  | nil =>
    cases others with
    | nil => exact ⟨rfl, List.tail_eq_of_cons_eq same⟩
    | cons other others =>
      obtain ⟨c, tail, hr, hc⟩ := other.exists_render_eq_cons
      rw [List.flatMap_cons, hr] at same
      exact absurd (List.head_eq_of_cons_eq same).symm hc
  | cons type types ih =>
    obtain ⟨first, all⟩ := List.forall_mem_cons.mp named
    cases others with
    | nil =>
      obtain ⟨c, tail, hr, hc⟩ := type.exists_render_eq_cons
      rw [List.flatMap_cons, hr] at same
      exact absurd (List.head_eq_of_cons_eq same) hc
    | cons other others =>
      obtain ⟨first', all'⟩ := List.forall_mem_cons.mp named'
      rw [List.flatMap_cons, List.flatMap_cons, List.append_assoc, List.append_assoc] at same
      have read := parse_render first (types.flatMap render ++ ')' :: rest)
      rw [same, parse_render first'] at read
      obtain ⟨rfl, behind⟩ := Prod.mk.inj (Option.some.inj read)
      obtain ⟨rfl, rfl⟩ := ih all all' behind.symm
      exact ⟨rfl, rfl⟩

end FieldType

namespace MethodDescriptor

variable {text : List Char} {descriptor : MethodDescriptor} {result : Option FieldType}

theorem parseResult_eq_some_iff : parseResult text = some result ↔
    (∀ type ∈ result, type.Named) ∧ text = renderResult result := by
  by_cases void : text = ['V']
  · subst void
    cases result with
    | none => simp [parseResult, renderResult]
    | some type =>
      have other : ¬(type.Named ∧ ['V'] = type.render) := by
        intro h
        cases FieldType.parseAll_eq_some_iff.mpr h
      simpa [parseResult, renderResult] using other
  · rw [parseResult.eq_2 text void, Option.map_eq_some_iff]
    cases result with
    | none => simp [renderResult, void]
    | some type => simp [renderResult, FieldType.parseAll_eq_some_iff]

/-- Whether a descriptor can be read from its spelling: its parts can, and no parameter holds a
closing parenthesis. -/
structure Readable (descriptor : MethodDescriptor) : Prop where
  params : ∀ type ∈ descriptor.params, type.Named
  result : ∀ type ∈ descriptor.result, type.Named
  closed : ')' ∉ descriptor.params.flatMap FieldType.render

theorem parse?_eq_some_iff :
    parse? text = some descriptor ↔ descriptor.Readable ∧ text = descriptor.render := by
  constructor
  · intro h
    unfold parse? at h
    split at h
    · next inner =>
      dsimp only at h
      split at h
      · next c behind cut =>
        obtain ⟨params, hp, h⟩ := Option.bind_eq_some_iff.mp h
        obtain ⟨result, hr, same⟩ := Option.bind_eq_some_iff.mp h
        cases same
        obtain ⟨named, spelled⟩ := (FieldType.parseMany_eq_some_iff le_rfl).mp hp
        obtain ⟨named', rfl⟩ := parseResult_eq_some_iff.mp hr
        refine ⟨⟨named, named', ?_⟩, ?_⟩
        · rw [← spelled]
          exact not_mem_takeWhile
        · rw [render, ← spelled]
          exact congrArg _ (eq_takeWhile_append cut)
      · cases h
    · cases h
  · rintro ⟨⟨named, named', closed⟩, rfl⟩
    obtain ⟨params, result⟩ := descriptor
    have spelled : render ⟨params, result⟩
        = '(' :: (params.flatMap FieldType.render ++ ')' :: renderResult result) := rfl
    have read := (FieldType.parseMany_eq_some_iff le_rfl).mpr ⟨named, rfl⟩
    rw [spelled, parse?]
    simp only [takeWhile_ne_append closed, dropWhile_ne_append closed, read,
      parseResult_eq_some_iff.mpr ⟨named', rfl⟩]
    rfl

theorem spells_result_iff {text : List Char} : text = ['V'] ∨ FieldType.Spells text ↔
    ∃ result : Option FieldType, (∀ type ∈ result, type.Named) ∧ text = renderResult result := by
  constructor
  · rintro (rfl | h)
    · exact ⟨none, by simp, rfl⟩
    · obtain ⟨type, named, rfl⟩ := FieldType.spells_iff.mp h
      exact ⟨some type, by simpa using named, rfl⟩
  · rintro ⟨_ | type, named, rfl⟩
    · exact .inl rfl
    · exact .inr (FieldType.spells_iff.mpr ⟨type, named type rfl, rfl⟩)

/-- The texts of a descriptor's parts are the spellings of types. -/
theorem spells_iff {params : List (List Char)} {result : List Char} :
    Spells text params result ↔ ∃ descriptor : MethodDescriptor,
      (∀ type ∈ descriptor.params, type.Named) ∧ (∀ type ∈ descriptor.result, type.Named) ∧
      descriptor.params.map FieldType.render = params ∧
      renderResult descriptor.result = result ∧ text = descriptor.render := by
  constructor
  · rintro ⟨rfl, hp, hr⟩
    obtain ⟨last, named, rfl⟩ := spells_result_iff.mp hr
    have types : ∃ types : List FieldType, (∀ type ∈ types, type.Named) ∧
        types.map FieldType.render = params := by
      have : Inhabited FieldType := ⟨⟨0, .int⟩⟩
      choose! type spelled using fun param hm => FieldType.spells_iff.mp (hp param hm)
      refine ⟨params.map type, ?_, ?_⟩
      · rw [List.forall_mem_map]
        exact fun param hm => (spelled param hm).1
      · rw [List.map_map]
        exact List.map_congr_left (fun param hm => (spelled param hm).2.symm) |>.trans params.map_id
    obtain ⟨types, all, rfl⟩ := types
    exact ⟨⟨types, last⟩, all, named, rfl, rfl, by rw [render, List.flatMap_def]⟩
  · rintro ⟨⟨types, last⟩, all, named, rfl, rfl, rfl⟩
    refine ⟨by rw [render, List.flatMap_def], ?_, spells_result_iff.mpr ⟨last, named, rfl⟩⟩
    rw [List.forall_mem_map]
    exact fun type hm => FieldType.spells_iff.mpr ⟨type, all type hm, rfl⟩

theorem Spells.unique {params others : List (List Char)} {result other : List Char}
    (h : Spells text params result) (h' : Spells text others other) :
    params = others ∧ result = other := by
  obtain ⟨descriptor, all, _, rfl, rfl, rfl⟩ := spells_iff.mp h
  obtain ⟨descriptor', all', _, rfl, rfl, same⟩ := spells_iff.mp h'
  obtain ⟨types, last⟩ := FieldType.flatMap_render_injective all all' (List.tail_eq_of_cons_eq same)
  exact ⟨congrArg _ types, last⟩

theorem parse_eq_ok_iff {text : String} :
    parse text = .ok descriptor ↔ descriptor.Readable ∧ text.toList = descriptor.render := by
  rw [← parse?_eq_some_iff, parse]
  split
  · next found h => simp [h]
  · next h => simp [h]

/-- A text is read as a method descriptor just when it is one whose parameters hold no closing
parenthesis, and what is read are its parts. It is a descriptor in one way at most, and all else is
reported with the text. -/
theorem parse_eq_ok_iff_spells (text : String) :
    (∀ params result, (∃ descriptor, parse text = .ok descriptor ∧
        descriptor.params.map FieldType.render = params ∧
        renderResult descriptor.result = result) ↔
      Spells text.toList params result ∧ ∀ param ∈ params, ')' ∉ param) ∧
    (parse text = .error (.badDescriptor text) ↔ ∀ params result,
      Spells text.toList params result → ∃ param ∈ params, ')' ∈ param) ∧
    {parts : List (List Char) × List Char | Spells text.toList parts.1 parts.2}.Subsingleton := by
  have ok_iff (params : List (List Char)) (result : List Char) :
      (∃ descriptor, parse text = .ok descriptor ∧
        descriptor.params.map FieldType.render = params ∧
        renderResult descriptor.result = result) ↔
      Spells text.toList params result ∧ ∀ param ∈ params, ')' ∉ param := by
    constructor
    · rintro ⟨descriptor, hp, rfl, rfl⟩
      obtain ⟨⟨all, named, closed⟩, spelled⟩ := parse_eq_ok_iff.mp hp
      refine ⟨spells_iff.mpr ⟨descriptor, all, named, rfl, rfl, spelled⟩, ?_⟩
      rw [List.forall_mem_map]
      exact fun type hm inside => closed (List.mem_flatMap.mpr ⟨type, hm, inside⟩)
    · rintro ⟨spells, closed⟩
      obtain ⟨descriptor, all, named, rfl, rfl, spelled⟩ := spells_iff.mp spells
      refine ⟨descriptor, parse_eq_ok_iff.mpr ⟨⟨all, named, fun inside => ?_⟩, spelled⟩, rfl, rfl⟩
      obtain ⟨type, hm, inside⟩ := List.mem_flatMap.mp inside
      exact closed _ (List.mem_map_of_mem hm) inside
  refine ⟨ok_iff, ?_, ?_⟩
  · constructor
    · intro fails params result spells
      by_contra! closed
      obtain ⟨descriptor, hp, _⟩ := (ok_iff params result).mpr ⟨spells, closed⟩
      rw [fails] at hp
      cases hp
    · intro each
      cases found : parse? text.toList with
      | none => rw [parse, found]
      | some descriptor =>
        have hp : parse text = .ok descriptor := by rw [parse, found]
        obtain ⟨spells, closed⟩ := (ok_iff _ _).mp ⟨descriptor, hp, rfl, rfl⟩
        obtain ⟨param, hm, inside⟩ := each _ _ spells
        exact absurd inside (closed param hm)
  · rintro ⟨params, result⟩ spells ⟨others, other⟩ spells'
    obtain ⟨rfl, rfl⟩ := Spells.unique spells spells'
    rfl

/-- A parameter of a class whose name holds a closing parenthesis is not read. -/
theorem not_parse_eq_ok_iff_spells : ¬∀ text : String, (∃ descriptor, parse text = .ok descriptor) ↔
    ∃ params result, Spells text.toList params result := by
  intro h
  have spells : Spells "(La)b;)V".toList ["La)b;".toList] ['V'] := by
    refine ⟨by decide, ?_, .inl rfl⟩
    rintro param hm
    obtain rfl := List.mem_singleton.mp hm
    exact ⟨0, "La)b;".toList, rfl, .inr ⟨"a)b".toList, by decide, by decide, by decide⟩⟩
  obtain ⟨descriptor, hp⟩ := (h "(La)b;)V").mpr ⟨_, _, spells⟩
  have fails : parse "(La)b;)V" = .error (.badDescriptor "(La)b;)V") := by cbv
  rw [fails] at hp
  cases hp

end MethodDescriptor

end MethodTrace
