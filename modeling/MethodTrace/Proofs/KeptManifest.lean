import MethodTrace.Cache.Manifest
import MethodTrace.Proofs.FileChanges
import MethodTrace.Proofs.JsonTexts
import MethodTrace.Proofs.Utf8

/-!
Manifests read back from the files to which they are written.
-/

namespace MethodTrace

/-- A map is what becomes of its entries when they are put into an empty map. -/
theorem foldl_insert_toList {β : Type} (map : Std.ExtTreeMap String β) :
    map.toList.foldl (fun known entry => known.insert entry.1 entry.2) ∅ = map := by
  have folded : map.toList.foldl (fun known entry => known.insert entry.1 entry.2)
      (∅ : Std.ExtTreeMap String β) = Std.ExtTreeMap.insertMany ∅ map.toList :=
    Std.ExtTreeMap.insertMany_list_eq_foldl.symm
  rw [folded]
  apply Std.ExtTreeMap.ext_getElem?
  intro key
  cases h : map[key]? with
  | some value =>
    exact Std.ExtTreeMap.getElem?_insertMany_list_of_mem Std.ReflCmp.compare_self
      (Std.ExtTreeMap.distinct_keys_toList)
      (Std.ExtTreeMap.mem_toList_iff_getElem?_eq_some.mpr h)
  | none =>
    rw [Std.ExtTreeMap.getElem?_insertMany_list_of_contains_eq_false]
    · simp
    · rw [Std.ExtTreeMap.map_fst_toList_eq_keys, Std.ExtTreeMap.contains_keys,
        Std.ExtTreeMap.contains_eq_isSome_getElem?, h]
      rfl

namespace Manifest

theorem plain_toJson (manifest : Manifest) : manifest.toJson.Plain := by
  have text (text : String) : (JsonValue.ofString text).Plain := .string text
  have record {members : List (String × JsonValue)} (h : ∀ member ∈ members, member.2.Plain) :
      (JsonValue.ofMembers members).Plain := by
    refine .object ?_ ?_
    · intro member hm
      obtain ⟨_, _, rfl⟩ := List.mem_map.mp hm
      rfl
    · intro member hm
      obtain ⟨_, hin, rfl⟩ := List.mem_map.mp hm
      exact h _ hin
  refine record ?_
  intro member hm
  simp only [List.mem_cons, List.not_mem_nil, or_false] at hm
  rcases hm with rfl | rfl | rfl | rfl
  · exact text _
  · exact text _
  · refine .array fun item hi => ?_
    obtain ⟨archive, _, rfl⟩ := List.mem_map.mp hi
    exact text _
  · refine record fun member hm => ?_
    obtain ⟨_, _, rfl⟩ := List.mem_map.mp hm
    exact text _

theorem toMembers?_ofMembers (members : List (String × JsonValue)) :
    (JsonValue.ofMembers members).toMembers? = some members := by
  simp only [JsonValue.ofMembers, JsonValue.toMembers?]
  induction members with
  | nil => rfl
  | cons member members ih =>
    rw [List.map_cons, List.mapM_cons, ih]
    rfl

theorem membersOfJson?_ofMembers (members : Fingerprints) :
    membersOfJson? (.ofMembers (members.toList.map fun (identity, hash) =>
      (identity, hash.toJson))) = some members := by
  have each : ∀ list : List (String × ContentHash),
      (list.map fun entry => (entry.1, entry.2.toJson)).mapM
        (fun entry => (ContentHash.ofJson? entry.2).bind fun hash => some (entry.1, hash))
          = some list := by
    intro list
    induction list with
    | nil => rfl
    | cons entry list ih =>
      have read : ContentHash.ofJson? entry.2.toJson = some entry.2 :=
        ContentHash.ofString?_toString entry.2
      rw [List.map_cons, List.mapM_cons, ih]
      simp only [read]
      rfl
  rw [membersOfJson?, toMembers?_ofMembers]
  simp only [Option.bind_eq_bind, Option.bind_some, Option.pure_def, each, foldl_insert_toList]

/-- A manifest is what its record holds. -/
theorem ofJson?_toJson (manifest : Manifest) : ofJson? manifest.toJson = some manifest := by
  have texts : ∀ archives : List String,
      (archives.map JsonValue.ofString).mapM JsonValue.toText? = some archives := by
    intro archives
    induction archives with
    | nil => rfl
    | cons archive archives ih =>
      rw [List.map_cons, List.mapM_cons, ih]
      rfl
  have fields : manifest.toJson.toFields? ["tracex_version", "settings", "archives", "members"]
      = some [.ofString manifest.version, manifest.settings.toJson,
        .array (manifest.archives.map .ofString),
        .ofMembers (manifest.members.toList.map fun (identity, hash) =>
          (identity, hash.toJson))] := by
    have step : manifest.toJson.toFields? ["tracex_version", "settings", "archives", "members"]
        = manifest.toJson.toMembers?.bind fun members =>
          ["tracex_version", "settings", "archives", "members"].mapM
            (JsonValue.onlyMember? members) := rfl
    rw [step, toJson, toMembers?_ofMembers]
    simp [JsonValue.onlyMember?]
  have version : (JsonValue.ofString manifest.version).toText? = some manifest.version := rfl
  have settings : ContentHash.ofJson? manifest.settings.toJson = some manifest.settings :=
    ContentHash.ofString?_toString manifest.settings
  have items : (JsonValue.array (manifest.archives.map .ofString)).toItems?
      = some (manifest.archives.map .ofString) := rfl
  simp only [ofJson?, fields, Option.bind_eq_bind, Option.bind_some, version, settings, items,
    texts, membersOfJson?_ofMembers, Option.pure_def]

/-- The bytes of the file that keeps a manifest. -/
def fileBytes (manifest : Manifest) : Bytes :=
  Bytes.ofString manifest.toJson.pretty

theorem find_of_read {w : Workspace} {directory : String} {manifest : Manifest}
    (h : w.read (pathIn directory) = .ok manifest.fileBytes) :
    find w directory = .ok (some manifest) := by
  have read : ofText? manifest.toJson.pretty = some manifest := by
    simp only [ofText?, manifest.plain_toJson.parse?_pretty, Option.bind_eq_bind,
      Option.bind_some, ofJson?_toJson]
  simp only [find, h, fileBytes, Bytes.toString?_ofString, read]

/-- No byte of the file is the third one of the marks that archives have. -/
theorem five_not_mem_fileBytes (manifest : Manifest) : 5 ∉ manifest.fileBytes := by
  intro h
  obtain ⟨c, hc, he⟩ := Bytes.exists_char_of_mem_ofString h (by decide)
  rcases manifest.plain_toJson.printable 0 c hc with rfl | hp
  · exact absurd he (by decide)
  · have : (32 : Nat) ≤ c.toNat := hp
    rw [he] at this
    exact absurd this (by decide)

theorem named_pathIn (directory : String) :
    Place.named (pathIn directory) = Place.named directory ++ ["fingerprints.json"] :=
  Place.named_join_of_isStep (by decide)

theorem named_temporaryPathIn (directory : String) :
    Place.named (temporaryPathIn directory)
      = Place.named directory ++ ["fingerprints.json.tmp"] :=
  Place.named_join_of_isStep (by decide)

theorem named_temporaryPathIn_ne (directory : String) :
    Place.named (temporaryPathIn directory) ≠ Place.named (pathIn directory) := by
  rw [named_pathIn, named_temporaryPathIn]
  intro h
  exact absurd (List.append_cancel_left h) (by decide)

/-- A manifest that is saved is in its file, and nothing else has changed but the temporary file,
which is gone. -/
theorem changes_save {manifest : Manifest} {directory : String} {v w : Workspace} {u : Unit}
    (h : Runs (manifest.save directory) v u w) :
    w.read (pathIn directory) = .ok manifest.fileBytes ∧
      w.node? (Place.named (temporaryPathIn directory)) = none ∧
      Workspace.Changes {Place.named (temporaryPathIn directory), Place.named (pathIn directory)}
        v w := by
  unfold save at h
  obtain ⟨_, made, hd, h⟩ := Runs.bind_iff.mp h
  obtain ⟨_, written, hw, h⟩ := Runs.bind_iff.mp h
  obtain ⟨writing, hb⟩ := Workspace.changes_write (Action.change_iff.mp hw)
  obtain ⟨bytes, hs, ht, hgone, moving⟩ := Workspace.changes_rename (Action.change_iff.mp h)
  rw [hb] at hs
  cases hs
  refine ⟨ht, hgone (named_temporaryPathIn_ne directory), ?_⟩
  exact ((Action.changes_createDirectories hd).mono (by simp)).trans
    ((writing.mono (by simp)).trans moving)

end Manifest

end MethodTrace
