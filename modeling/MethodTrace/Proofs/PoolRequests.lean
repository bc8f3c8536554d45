import MethodTrace.Proofs.PoolExtension

/-!
Requests to a pool, one after another.

Whatever is asked for, and in whatever order, the numbers that are returned lead to what was asked
for, stay so, and are returned again to whoever asks again.
-/

namespace MethodTrace.ConstantPool

theorem settles_stringIndex (text : String) : Settles (stringIndex text) :=
  .bind (settles_findOrAppend _) (fun _ => grows_findOrAppend rfl) fun _ => settles_findOrAppend _

theorem settles_methodrefIndex (method : MemberRef) : Settles (methodrefIndex method) :=
  .bind (settles_classIndex _)
    (fun _ => .bind (grows_utf8Index _) fun _ => .bind (grows_utf8Index _) fun _ =>
      .bind (grows_findOrAppend rfl) fun _ => grows_findOrAppend rfl) fun _ =>
    .bind (settles_findOrAppend _)
      (fun _ => .bind (grows_utf8Index _) fun _ =>
        .bind (grows_findOrAppend rfl) fun _ => grows_findOrAppend rfl) fun _ =>
      .bind (settles_findOrAppend _)
        (fun _ => .bind (grows_findOrAppend rfl) fun _ => grows_findOrAppend rfl) fun _ =>
        .bind (settles_findOrAppend _) (fun _ => grows_findOrAppend rfl) fun _ =>
          settles_findOrAppend _

/-- What a pool can be asked for. -/
inductive Request
  | text (text : String)
  | classNamed (name : String)
  | string (text : String)
  | method (method : MemberRef)
  deriving DecidableEq

variable {pool later : ConstantPool} {request : Request} {requests : List Request} {index : UInt16}
  {indices : List UInt16}

namespace Request

/-- The steps that find or add what is asked for. -/
def find : Request → Extend UInt16
  | text wanted => utf8Index wanted
  | classNamed name => classIndex name
  | string wanted => stringIndex wanted
  | method wanted => methodrefIndex wanted

/-- A number leads to what is asked for. -/
def IsAt (pool : ConstantPool) (index : UInt16) : Request → Prop
  | text wanted => pool.utf8 index = .ok wanted
  | classNamed name => pool.className index = .ok name
  | string wanted =>
    ∃ spelled, pool.get? index = some (.string spelled) ∧ pool.utf8 spelled = .ok wanted
  | method wanted => pool.memberRef index = .ok wanted

theorem grows_find (request : Request) : Grows request.find := by
  cases request with
  | text wanted => exact grows_utf8Index wanted
  | classNamed name => exact grows_classIndex name
  | string wanted => exact grows_stringIndex wanted
  | method wanted => exact grows_methodrefIndex wanted

theorem settles_find (request : Request) : Settles request.find := by
  cases request with
  | text wanted => exact settles_findOrAppend _
  | classNamed name => exact settles_classIndex name
  | string wanted => exact settles_stringIndex wanted
  | method wanted => exact settles_methodrefIndex wanted

theorem isAt_of_runs (hp : pool.Numbered) (h : Runs request.find pool index later) :
    request.IsAt later index := by
  cases request with
  | text wanted => exact utf8Index_runs hp h
  | classNamed name => exact classIndex_runs hp h
  | string wanted => exact stringIndex_runs hp h
  | method wanted => exact methodrefIndex_runs hp h

theorem IsAt.extends (h : request.IsAt pool index) (hext : Extends pool later) :
    request.IsAt later index := by
  cases request with
  | text wanted => exact hext.utf8 h
  | classNamed name => exact hext.className h
  | string wanted =>
    obtain ⟨spelled, hg, ht⟩ := h
    exact ⟨spelled, hext.get? hg, hext.utf8 ht⟩
  | method wanted => exact hext.memberRef h

end Request

/-- Each number that is returned in a row of requests leads, in the pool behind all of them, to what
was asked for, and asking for it again changes nothing. -/
theorem forall₂_of_runs (hp : pool.Numbered)
    (h : Runs (requests.mapM Request.find) pool indices later) :
    List.Forall₂ (fun request index => request.IsAt later index ∧
      Runs request.find later index later) requests indices := by
  refine (Grows.mapM_runs Request.grows_find h).imp fun request index => ?_
  rintro ⟨before, after, hb, hr, hl⟩
  exact ⟨(Request.isAt_of_runs (hb.numbered hp) hr).extends hl,
    (Request.settles_find request).of_runs hr hl⟩

/-- A row of requests takes a pool through ones that all grow out of one another. -/
theorem runs_append_iff {first second : List Request} :
    Runs ((first ++ second).mapM Request.find) pool indices later ↔
      ∃ between found others, Runs (first.mapM Request.find) pool found between ∧
        Runs (second.mapM Request.find) between others later ∧ indices = found ++ others := by
  rw [List.mapM_append, Runs.bind_iff]
  constructor
  · rintro ⟨found, between, hf, h⟩
    obtain ⟨others, after, hs, h⟩ := Runs.bind_iff.mp h
    obtain ⟨rfl, rfl⟩ := Runs.pure_iff.mp h
    exact ⟨between, found, others, hf, hs, rfl⟩
  · rintro ⟨between, found, others, hf, hs, rfl⟩
    exact ⟨found, between, hf, Runs.bind_iff.mpr ⟨others, later, hs, Runs.pure_iff.mpr ⟨rfl, rfl⟩⟩⟩

/-- Requests to a pool whose slots can all be numbered: behind any of them, all slots are those from
before with new ones behind them, the numbers that were returned lead to what was asked for, asking
again returns them and adds nothing, and the pool is no larger than it was or than a count says. -/
theorem extend_find (pool : ConstantPool) (hp : pool.size ≤ 65536) (requests : List Request)
    (indices : List UInt16) (later : ConstantPool)
    (h : pool.extend (requests.mapM Request.find) = (.ok indices, later)) :
    List.Forall₂ (fun request index => request.IsAt later index ∧
      later.extend request.find = (.ok index, later)) requests indices ∧
    (∀ first second, requests = first ++ second → ∃ between found others,
      pool.extend (first.mapM Request.find) = (.ok found, between) ∧
      between.extend (second.mapM Request.find) = (.ok others, later) ∧ indices = found ++ others ∧
      pool.slots.toList <+: between.slots.toList ∧ between.slots.toList <+: later.slots.toList) ∧
    later.size ≤ max pool.size 65535 := by
  have grows := Grows.mapM Request.grows_find
  refine ⟨forall₂_of_runs hp h, ?_, ((grows requests).of_runs h).size⟩
  rintro first second rfl
  obtain ⟨between, found, others, hf, hs, same⟩ := runs_append_iff.mp h
  exact ⟨between, found, others, hf, hs, same, ((grows first).of_runs hf).keeps,
    ((grows second).of_runs hs).keeps⟩

/-- A pool in which a text stands twice, and a class has the second one for its name. -/
def repeatedText : ConstantPool := ⟨#[.unusable, .utf8 [0x41], .utf8 [0x41], .classRef 2]⟩

/-- Requests for a text, a method, a class and a string of a zero character. -/
def mixedRequests : List Request :=
  [.text "A", .method ⟨"A", "m", "()V"⟩, .classNamed "A", .string "\x00"]

theorem extend_find_repeatedText : ∃ later,
    repeatedText.size ≤ 65536 ∧
    repeatedText.extend (mixedRequests.mapM Request.find) = (.ok [1, 8, 4, 10], later) ∧
    List.Forall₂ (fun request index => request.IsAt later index ∧
      later.extend request.find = (.ok index, later)) mixedRequests [1, 8, 4, 10] := by
  have h : repeatedText.extend (mixedRequests.mapM Request.find) = (.ok [1, 8, 4, 10],
      ⟨#[.unusable, .utf8 [0x41], .utf8 [0x41], .classRef 2, .classRef 1, .utf8 [0x6d],
        .utf8 [0x28, 0x29, 0x56], .nameAndType 5 6, .methodref 4 7, .utf8 [0xc0, 0x80],
        .string 9]⟩) := by
    cbv
  have small : repeatedText.size ≤ 65536 := by decide
  exact ⟨_, small, h, (extend_find repeatedText small mixedRequests _ _ h).1⟩

end MethodTrace.ConstantPool
