import MethodTrace.Proofs.GroupedPatterns
import MethodTrace.Proofs.RegexMatches
import MethodTrace.TagFilter

/-!
Patterns between the anchors of a whole text.

A filter puts the text of a pattern between anchors before the text is read. If the pattern can be
read alone, it stands there as a group of its own, and the filter selects what the pattern matches
as a whole. But a comment at the end of the pattern takes in the closing anchor, and there is less
room for the pattern than it would have alone, so such patterns are refused. And a text that is no
pattern may become one there, if it closes the group and opens another one.
-/

namespace MethodTrace.Pattern

open Scanner

/-- Reads a pattern, however deep it is. -/
def read? (text : String) : Option Tree :=
  (patternRest (text.length + 1) Branches.start [] ⟨text.toList, false, []⟩).map (·.1)

theorem parse?_eq (text : String) : Tree.parse? text
    = (read? text).bind fun tree => if tree.depth ≤ maxDepth then some tree else none := by
  unfold Tree.parse? read?
  rw [Option.bind_map]
  rfl

/-- The group that the anchors of a whole text put around a pattern. -/
def wholeGroup : OpenGroup :=
  ⟨.plain [], ⟨[], [.primitive (.assertion .lineStart)]⟩, false⟩

/-- A pattern between the anchors of a whole text. -/
def anchoredTree (tree : Tree) : Tree :=
  .concatenation [.primitive (.assertion .lineStart), .group (.plain []) tree,
    .primitive (.assertion .lineEnd)]

theorem patternRest_anchored (fuel : Nat) (text : List Char) :
    patternRest (fuel + 2) Branches.start [] ⟨"^(?:".toList ++ text, false, []⟩
      = patternRest fuel Branches.start [wholeGroup] ⟨text, false, []⟩ := rfl

theorem patternRest_closing (fuel : Nat) (last : Branches) {σ : Scan} (h : σ.rest = []) :
    patternRest (fuel + 3) last [wholeGroup] (σ.closed ['$'])
      = some (anchoredTree last.toTree, ⟨[], false, σ.names⟩) := by
  have left : (σ.closed ['$']).skipped.rest = [')', '$'] := by
    rw [skipped_closed_of_nil h, Scan.rest_closed_of_nil h]
  rw [patternRest_close left, skipped_closed_of_nil h]
  rfl

theorem toList_anchored (text : String) :
    (anchored text).toList = "^(?:".toList ++ (text.toList ++ ")$".toList) := by
  simp [anchored]

theorem length_anchored (text : String) : (anchored text).length = text.length + 6 := by
  rw [← String.length_toList, toList_anchored, List.length_append, List.length_append,
    String.length_toList]
  change 4 + (text.length + 2) = _
  omega

theorem read?_anchored_eq (text : String) : read? (anchored text)
    = (patternRest (text.length + 5) Branches.start [wholeGroup]
        (Scan.closed ⟨text.toList, false, []⟩ ['$'])).map (·.1) := by
  rw [read?, toList_anchored, length_anchored]
  exact congrArg (Option.map _) (patternRest_anchored (text.length + 5) _)

theorem read?_append_eq (text : String) : read? (text ++ ")$")
    = (patternRest (text.length + 3) Branches.start []
        (Scan.closed ⟨text.toList, false, []⟩ ['$'])).map (·.1) := by
  unfold read? Scan.closed
  rw [String.toList_append, String.length_append]
  rfl

/-- A pattern at whose end a comment is open: it takes in what would close a group. -/
def EndsInComment (text : String) : Prop :=
  Tree.parse? (text ++ ")$") = Tree.parse? text

/-- A pattern that can be read alone is either read between the anchors as a group, or a comment at
its end takes in the closing anchor. -/
theorem read?_cases {text : String} {tree : Tree} (h : read? text = some tree) :
    (read? (anchored text) = some (anchoredTree tree) ∧ read? (text ++ ")$") = none) ∨
      '#' ∈ text.toList ∧ read? (anchored text) = none ∧ read? (text ++ ")$") = some tree := by
  obtain ⟨⟨_, τ⟩, read, rfl⟩ := Option.map_eq_some_iff.mp h
  have lines : '\n' ∉ ['$'] := by decide
  obtain ⟨left, last, σ, pos, rfl, done, runs⟩ := patternRest_forth lines read
  obtain ⟨left, rfl⟩ := Nat.exists_eq_succ_of_ne_zero pos.ne'
  rw [read?_anchored_eq, read?_append_eq]
  refine runs.imp (fun run => ⟨?_, ?_⟩) fun ⟨mark, run⟩ => ⟨mark, ?_, ?_⟩
  · have whole := run 4 [wholeGroup]
    rw [List.nil_append] at whole
    rw [whole, Nat.succ_add, patternRest_closing (left + 2) last done]
    rfl
  · have alone := run 2 []
    rw [List.nil_append] at alone
    have next : (σ.closed ['$']).skipped.rest = ')' :: ['$'] := by
      rw [skipped_closed_of_nil done, Scan.rest_closed_of_nil done]
    rw [alone, Nat.succ_add, patternRest_unopened next]
    rfl
  · have whole := run 4 [wholeGroup]
    rw [List.nil_append] at whole
    rw [whole, Nat.succ_add, patternRest_nil (skipped_of_nil done)]
    rfl
  · have alone := run 2 []
    rw [List.nil_append] at alone
    rw [alone, Nat.succ_add, patternRest_nil (skipped_of_nil done)]
    rfl

theorem append_paren_cases {text front after : List Char}
    (h : text ++ [')', '$'] = front ++ ')' :: after) :
    text = front ∨ ∃ behind, text = front ++ ')' :: behind := by
  obtain ⟨added, front_eq, tail⟩ | ⟨added, text_eq, tail⟩ := List.append_eq_append_iff.mp h
  · match added, tail with
    | [], _ => exact .inl (by rw [front_eq, List.append_nil])
    | [_], tail => cases tail
    | _ :: _ :: _, tail => simp at tail
  · cases added with
    | nil => exact .inl (by rw [text_eq, List.append_nil])
    | cons c added =>
      obtain ⟨rfl, -⟩ := List.cons.inj tail
      exact .inr ⟨added, text_eq⟩

theorem isSome_read? {text : String} (h : Reads Branches.start [] ⟨text.toList, false, []⟩) :
    (read? text).isSome := by
  obtain ⟨found, reads⟩ := h
  rw [read?, reads _ (by rw [String.length_toList]; exact Nat.lt_succ_self _)]
  rfl

/-- What is a pattern between the anchors is a pattern alone, or the text before one of its closing
parentheses is one. -/
theorem read?_of_anchored {text : String} (h : (read? (anchored text)).isSome) :
    (read? text).isSome ∨ ∃ body behind, text = body ++ ")" ++ behind ∧ (read? body).isSome := by
  rw [read?_anchored_eq, Option.isSome_map] at h
  obtain ⟨⟨tree, τ⟩, read⟩ := Option.isSome_iff_exists.mp h
  rw [← List.nil_append [wholeGroup]] at read
  obtain ⟨after, ⟨front, verbose, names⟩, same, reads⟩ := patternRest_back read
  obtain ⟨cut, rfl, rfl⟩ :
      text.toList ++ [')', '$'] = front ++ ')' :: after ∧ false = verbose ∧ [] = names := by
    simpa [Scan.closed] using same
  obtain same | ⟨behind, text_eq⟩ := append_paren_cases cut
  · subst same
    exact .inl (isSome_read? reads)
  · refine .inr ⟨String.ofList front, String.ofList behind, ?_, isSome_read? ?_⟩
    · rw [← String.toList_inj, text_eq]
      simp
    · rwa [String.toList_ofList]

/-! ### What is matched -/

/-- The expression of a pattern between the anchors of a whole text. -/
def anchoredRegex (regex : Regex) : Regex :=
  .seq (.look .textStart) (.seq regex (.seq (.look .textEnd) .empty))

theorem depth_anchoredTree (tree : Tree) : (anchoredTree tree).depth = tree.depth + 2 := by
  simp [anchoredTree, Tree.depth, Tree.depthAll]

theorem toRegex?_anchoredTree (tree : Tree) : (anchoredTree tree).toRegex? {}
    = (tree.toRegex? {}).map fun found => (anchoredRegex found.1, {}) := by
  have inside : GroupKind.enter {} (.plain []) = {} := rfl
  have start : regexOfPrimitive {} (.assertion .lineStart) = some (.look .textStart) := rfl
  simp only [anchoredTree, Tree.toRegex?, Tree.sequence?, start, Option.bind_eq_bind,
    Option.bind_some, Option.pure_def, inside]
  cases tree.toRegex? {} <;> rfl

theorem footprint_anchoredRegex (regex : Regex) : (anchoredRegex regex).footprint ≤ maxFootprint ↔
    regex.footprint + 2 * stateSize ≤ maxFootprint := by
  by_cases nothing : regex = .empty
  · subst nothing
    decide
  · have sizes : (anchoredRegex regex).footprint = regex.footprint + 2 * stateSize := by
      have one : (anchoredRegex regex).sizes.1 = stateSize + (regex.sizes.1 + stateSize) := by
        cases regex with
        | empty => exact absurd rfl nothing
        | _ => rfl
      rw [Regex.footprint, one, Regex.footprint]
      omega
    rw [sizes]

theorem search_anchoredRegex (regex : Regex) (subject : Subject) :
    (anchoredRegex regex).search subject = true ↔ regex.Matches subject 0 subject.text.size := by
  rw [Regex.search_iff]
  constructor
  · rintro ⟨i, -, j, k, ⟨rfl, start⟩, l, run, m, ⟨rfl, stop⟩, -⟩
    have start : i = 0 := beq_iff_eq.mp start
    have stop : l = subject.text.size := beq_iff_eq.mp stop
    rwa [start, stop] at run
  · intro run
    exact ⟨0, Nat.zero_le _, _, 0, ⟨rfl, rfl⟩, _, run, _, ⟨rfl, beq_self_eq_true _⟩, rfl⟩

/-- A pattern that leaves room for the anchors. -/
structure Roomy (pattern : Pattern) : Prop where
  depth : ∀ tree, Tree.parse? pattern.text = some tree → tree.depth + 2 ≤ maxDepth
  footprint : pattern.regex.footprint + 2 * stateSize ≤ maxFootprint

/-- Whether a pattern matches a tag as a whole. -/
def MatchesWhole (pattern : Pattern) (tag : String) : Prop :=
  pattern.regex.Matches ⟨tag.toList.toArray, wordChars⟩ 0 tag.length

theorem parse?_eq_some_iff {text : String} {tree : Tree} :
    Tree.parse? text = some tree ↔ read? text = some tree ∧ tree.depth ≤ maxDepth := by
  rw [parse?_eq, Option.bind_eq_some_iff]
  constructor
  · rintro ⟨found, read, h⟩
    split at h
    · cases h
      exact ⟨read, ‹_›⟩
    · cases h
  · rintro ⟨read, low⟩
    exact ⟨tree, read, if_pos low⟩

theorem compile?_eq_some_iff {text : String} {pattern : Pattern} : compile? text = some pattern ↔
    ∃ tree flags, Tree.parse? text = some tree ∧ tree.toRegex? {} = some (pattern.regex, flags) ∧
      pattern.regex.footprint ≤ maxFootprint ∧ pattern.text = text := by
  obtain ⟨written, regex⟩ := pattern
  simp only [compile?, Option.bind_eq_bind, Option.bind_eq_some_iff]
  constructor
  · rintro ⟨tree, parsed, ⟨found, flags⟩, meaning, h⟩
    split at h
    · cases h
      exact ⟨tree, flags, parsed, meaning, ‹_›, rfl⟩
    · cases h
  · rintro ⟨tree, flags, parsed, meaning, small, rfl⟩
    exact ⟨tree, parsed, _, meaning, if_pos small⟩

theorem isMatch_anchoredRegex {pattern whole : Pattern}
    (h : whole.regex = anchoredRegex pattern.regex) (tag : String) :
    whole.isMatch tag = true ↔ pattern.MatchesWhole tag := by
  rw [isMatch, h, search_anchoredRegex, MatchesWhole, List.size_toArray, String.length_toList]

theorem compile?_anchored_iff {text : String} {tree : Tree}
    (h : read? (anchored text) = some (anchoredTree tree)) {whole : Pattern} :
    compile? (anchored text) = some whole ↔
      ∃ regex flags, tree.depth + 2 ≤ maxDepth ∧ tree.toRegex? {} = some (regex, flags) ∧
        regex.footprint + 2 * stateSize ≤ maxFootprint ∧
        whole = ⟨anchored text, anchoredRegex regex⟩ := by
  rw [compile?_eq_some_iff]
  constructor
  · rintro ⟨found, flags, parsed, meaning, small, same⟩
    obtain ⟨read, low⟩ := parse?_eq_some_iff.mp parsed
    cases read.symm.trans h
    rw [depth_anchoredTree] at low
    rw [toRegex?_anchoredTree, Option.map_eq_some_iff] at meaning
    obtain ⟨⟨regex, flags'⟩, meaning, same'⟩ := meaning
    obtain ⟨regex_eq, -⟩ := Prod.mk.inj same'
    rw [← regex_eq, footprint_anchoredRegex] at small
    refine ⟨regex, flags', low, meaning, small, ?_⟩
    rw [← same, regex_eq]
  · rintro ⟨regex, flags, low, meaning, small, rfl⟩
    refine ⟨anchoredTree tree, {}, parse?_eq_some_iff.mpr ⟨h, by rwa [depth_anchoredTree]⟩, ?_,
      (footprint_anchoredRegex regex).mpr small, rfl⟩
    rw [toRegex?_anchoredTree, meaning]
    rfl

theorem endsInComment_iff {text : String} {pattern : Pattern} (h : compile? text = some pattern) :
    EndsInComment text ↔ read? (text ++ ")$") = read? text := by
  obtain ⟨tree, flags, parsed, -⟩ := compile?_eq_some_iff.mp h
  obtain ⟨read, low⟩ := parse?_eq_some_iff.mp parsed
  rw [EndsInComment, parsed, read, parse?_eq_some_iff, and_iff_left low]

/-- Without a number sign there is no comment. -/
theorem not_endsInComment {text : String} {pattern : Pattern} (h : compile? text = some pattern)
    (plain : '#' ∉ text.toList) : ¬EndsInComment text := by
  obtain ⟨tree, flags, parsed, -⟩ := compile?_eq_some_iff.mp h
  have read := (parse?_eq_some_iff.mp parsed).1
  obtain ⟨-, behind⟩ | ⟨mark, -⟩ := read?_cases read
  · rw [endsInComment_iff h, behind, read]
    nofun
  · exact absurd mark plain

/-- A pattern is accepted between the anchors unless it ends in a comment or leaves no room for
them, and it keeps its meaning there. -/
theorem compile?_anchored {text : String} {pattern : Pattern} (h : compile? text = some pattern) :
    ((compile? (anchored text)).isSome ↔ ¬EndsInComment text ∧ pattern.Roomy) ∧
      ∀ whole, compile? (anchored text) = some whole →
        whole.regex = anchoredRegex pattern.regex := by
  obtain ⟨tree, flags, parsed, meaning, small, rfl⟩ := compile?_eq_some_iff.mp h
  obtain ⟨read, low⟩ := parse?_eq_some_iff.mp parsed
  obtain ⟨whole, behind⟩ | ⟨-, whole, behind⟩ := read?_cases read
  · have comment : ¬EndsInComment pattern.text := by
      rw [endsInComment_iff h, behind, read]
      nofun
    rw [Option.isSome_iff_exists, and_iff_right comment]
    refine ⟨⟨?_, ?_⟩, ?_⟩
    · rintro ⟨found, compiled⟩
      obtain ⟨regex, flags', room, meaning', small', -⟩ := (compile?_anchored_iff whole).mp compiled
      cases meaning.symm.trans meaning'
      refine ⟨fun other parsed' => ?_, small'⟩
      cases parsed.symm.trans parsed'
      exact room
    · intro room
      exact ⟨_, (compile?_anchored_iff whole).mpr
        ⟨_, flags, room.depth tree parsed, meaning, room.footprint, rfl⟩⟩
    · intro found compiled
      obtain ⟨regex, flags', -, meaning', -, rfl⟩ := (compile?_anchored_iff whole).mp compiled
      cases meaning.symm.trans meaning'
      rfl
  · have comment : EndsInComment pattern.text := by
      rw [endsInComment_iff h, behind, read]
    have unparsed : compile? (anchored pattern.text) = none := by
      unfold compile?
      rw [parse?_eq, whole]
      rfl
    rw [unparsed]
    exact ⟨iff_of_false nofun fun other => other.1 comment, nofun⟩

theorem of_compile?_anchored {text : String} {whole : Pattern}
    (h : compile? (anchored text) = some whole) :
    (compile? text).isSome ∨ ∃ body behind, text = body ++ ")" ++ behind ∧ (read? body).isSome := by
  obtain ⟨_, _, parsed, -⟩ := compile?_eq_some_iff.mp h
  have read := (parse?_eq_some_iff.mp parsed).1
  refine (read?_of_anchored (Option.isSome_of_eq_some read)).imp_left fun alone => ?_
  obtain ⟨tree, alone⟩ := Option.isSome_iff_exists.mp alone
  obtain ⟨closed, -⟩ | ⟨-, unread, -⟩ := read?_cases alone
  · obtain ⟨regex, flags, low, meaning, small, -⟩ := (compile?_anchored_iff closed).mp h
    have compiled : compile? text = some ⟨text, regex⟩ :=
      compile?_eq_some_iff.mpr ⟨tree, flags, parse?_eq_some_iff.mpr ⟨alone, by omega⟩,
        meaning, Nat.le_of_add_right_le small, rfl⟩
    rw [compiled]
    rfl
  · cases unread.symm.trans read

end MethodTrace.Pattern

namespace MethodTrace.TagFilter

open Pattern

theorem compileAll_singleton (text : String) : compileAll [text]
    = match compile? (anchored text) with
      | some whole => .ok [whole]
      | none => .error ⟨text⟩ := by
  rw [compileAll, List.mapM_cons, List.mapM_nil]
  cases compile? (anchored text) <;> rfl

theorem ofPatterns_include_iff {text : String} {filter : TagFilter} :
    ofPatterns [text] [] = .ok filter ↔
      ∃ whole, compile? (anchored text) = some whole ∧ filter = ⟨[whole], [], true⟩ := by
  rw [ofPatterns, compileAll_singleton]
  cases compile? (anchored text) with
  | none => exact iff_of_false nofun (by simp)
  | some whole =>
    change Except.ok _ = Except.ok _ ↔ _
    simp [eq_comm]

theorem ofPatterns_exclude_iff {text : String} {includes : List String} {filter : TagFilter} :
    ofPatterns includes [text] = .ok filter ↔
      ∃ plain whole, ofPatterns includes [] = .ok plain ∧ compile? (anchored text) = some whole ∧
        filter = { plain with excludes := [whole] } := by
  rw [ofPatterns, ofPatterns, compileAll_singleton]
  cases compileAll includes with
  | error fault => exact iff_of_false nofun (by rintro ⟨_, _, ⟨⟩, -⟩)
  | ok includes =>
    cases compile? (anchored text) with
    | none => exact iff_of_false nofun (by simp)
    | some whole =>
      change Except.ok _ = Except.ok _ ↔ ∃ plain found, Except.ok _ = Except.ok plain ∧ _
      simp [eq_comm]

theorem excludes_eq_nil {includes : List String} {filter : TagFilter}
    (h : ofPatterns includes [] = .ok filter) : filter.excludes = [] := by
  cases compiled : compileAll includes with
  | error fault =>
    rw [ofPatterns, compiled] at h
    cases h
  | ok includes =>
    rw [ofPatterns, compiled] at h
    cases h
    rfl

/-- A filter of one pattern selects the tags that the pattern matches as a whole, and one that
excludes a pattern leaves these tags out of what is selected without it. A pattern is accepted in
both places unless it ends in a comment, which takes a number sign, or leaves no room for the
anchors. A text that is no pattern is refused if it has no closing parenthesis, but there are others
that are not. -/
theorem selects_iff_matchesWhole (text : String) :
    (∀ includes, (∃ filter, ofPatterns includes [text] = .ok filter) ↔
      (∃ filter, ofPatterns includes [] = .ok filter) ∧
        ∃ filter, ofPatterns [text] [] = .ok filter) ∧
    ((∃ filter, ofPatterns [text] [] = .ok filter) →
      (compile? text).isSome ∨ ∃ body behind, text = body ++ ")" ++ behind ∧ (read? body).isSome) ∧
    ∀ pattern, compile? text = some pattern →
      ('#' ∉ text.toList → ¬EndsInComment text) ∧
      ((∃ filter, ofPatterns [text] [] = .ok filter) ↔ ¬EndsInComment text ∧ pattern.Roomy) ∧
      (∀ filter, ofPatterns [text] [] = .ok filter → ∀ tag,
        filter.selects tag = true ↔ pattern.MatchesWhole tag) ∧
      ∀ includes filter plain, ofPatterns includes [text] = .ok filter →
        ofPatterns includes [] = .ok plain → ∀ tag,
          filter.selects tag = true ↔ plain.selects tag = true ∧ ¬pattern.MatchesWhole tag := by
  have accepted : (∃ filter, ofPatterns [text] [] = .ok filter) ↔
      ∃ whole, compile? (anchored text) = some whole := by
    simp only [ofPatterns_include_iff]
    constructor
    · rintro ⟨_, whole, compiled, -⟩
      exact ⟨whole, compiled⟩
    · rintro ⟨whole, compiled⟩
      exact ⟨_, whole, compiled, rfl⟩
  refine ⟨fun includes => ?_, fun accept => ?_, fun pattern compiled =>
    ⟨not_endsInComment compiled, ?_, ?_, ?_⟩⟩
  · rw [accepted]
    simp only [ofPatterns_exclude_iff]
    constructor
    · rintro ⟨filter, plain, whole, included, compiled, -⟩
      exact ⟨⟨plain, included⟩, whole, compiled⟩
    · rintro ⟨⟨plain, included⟩, whole, compiled⟩
      exact ⟨_, plain, whole, included, compiled, rfl⟩
  · obtain ⟨whole, compiled⟩ := accepted.mp accept
    exact of_compile?_anchored compiled
  · rw [accepted, ← Option.isSome_iff_exists]
    exact (compile?_anchored compiled).1
  · intro filter made tag
    obtain ⟨whole, anchor, rfl⟩ := ofPatterns_include_iff.mp made
    have regex_eq := (compile?_anchored compiled).2 whole anchor
    rw [← isMatch_anchoredRegex regex_eq]
    simp [selects]
  · intro includes filter plain made included tag
    obtain ⟨found, whole, included', anchor, rfl⟩ := ofPatterns_exclude_iff.mp made
    cases included.symm.trans included'
    have regex_eq := (compile?_anchored compiled).2 whole anchor
    rw [← isMatch_anchoredRegex regex_eq]
    simp only [selects, excludes_eq_nil included, List.any_cons, List.any_nil, Bool.or_false,
      Bool.not_false, Bool.and_true, Bool.and_eq_true, Bool.not_eq_true']
    rw [Bool.not_eq_true]
    tauto

theorem selects_iff_matchesWhole_choice : ∃ pattern filter,
    compile? "a|b" = some pattern ∧ ofPatterns ["a|b"] [] = .ok filter ∧
      filter.selects "b" = true ∧ pattern.MatchesWhole "b" := by
  let choice : Pattern := ⟨"a|b", .either (.oneOf ⟨[(97, 97)]⟩) (.oneOf ⟨[(98, 98)]⟩)⟩
  have compiled : compile? "a|b" = some choice := by cbv
  have roomy : choice.Roomy := by
    refine ⟨fun tree parsed => ?_, by decide⟩
    have depth : (Tree.parse? "a|b").map (·.depth) = some 1 := by cbv
    change Tree.parse? "a|b" = some tree at parsed
    rw [parsed, Option.map_some, Option.some_inj] at depth
    rw [depth]
    decide
  obtain ⟨-, -, selected⟩ := selects_iff_matchesWhole "a|b"
  obtain ⟨plain, accepts, matched, -⟩ := selected choice compiled
  obtain ⟨filter, made⟩ := accepts.mpr ⟨plain (by decide), roomy⟩
  have whole : choice.MatchesWhole "b" := .inr ⟨rfl, 'b', rfl, by decide⟩
  exact ⟨choice, filter, compiled, made, (matched filter made "b").mpr whole, whole⟩

/-- A text that is no pattern may be accepted: this one closes the group and opens another one. -/
theorem not_selects_iff_matchesWhole :
    ¬∀ text, ((∃ filter, ofPatterns [text] [] = .ok filter) ↔ (compile? text).isSome) := by
  intro h
  have accepted : (ofPatterns ["a)|(b"] []).isOk := by cbv
  have unread : compile? "a)|(b" = none := by cbv
  have equivalent := h "a)|(b"
  rw [unread] at equivalent
  cases made : ofPatterns ["a)|(b"] [] with
  | error fault =>
    rw [made] at accepted
    cases accepted
  | ok filter => cases equivalent.mp ⟨filter, made⟩

end MethodTrace.TagFilter
