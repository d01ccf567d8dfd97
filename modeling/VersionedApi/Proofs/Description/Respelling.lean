import Mathlib.Data.List.DropRight
import VersionedApi.Proofs.Description.Representation
import VersionedApi.Proofs.Model.Histories
import VersionedApi.Proofs.Text.NormalForm

/-!
# Spelling types back

Each type of a loaded version has a reference that leads to it: the marks of the
lists and maps that it is, and the name of what they hold.  Blanks around the
parts of the reference do not matter, and nothing is added to the version.
-/

namespace VersionedApi.Description

open VersionedApi.Model VersionedApi.Text

/-! ## Blanks between the parts -/

/-- What ends without a blank keeps its end when the blanks behind it are dropped. -/
theorem rdropWhile_append {mark rest : List Char} (ends : ∀ c ∈ mark.getLast?, ¬ isBlank c) :
    (mark ++ rest).rdropWhile isBlank = mark ++ rest.rdropWhile isBlank := by
  induction rest using List.reverseRecOn with
  | nil =>
      rw [List.append_nil, List.rdropWhile_nil, List.append_nil, List.rdropWhile_eq_self_iff]
      intro some
      exact ends _ (List.getLast?_eq_some_getLast some)
  | append_singleton rest c ih =>
      rw [← List.append_assoc, List.rdropWhile_concat, List.rdropWhile_concat]
      split
      · exact ih
      · rw [List.append_assoc]

/-- Trimming leads to the first part, and leaves what follows it but for blanks at the end. -/
theorem trim_append {lead mark rest : List Char} (before : ∀ c ∈ lead, isBlank c = true)
    (some : mark ≠ []) (solid : ∀ c ∈ mark, ¬ isBlank c) :
    trim (lead ++ mark ++ rest) = mark ++ rest.rdropWhile isBlank := by
  have leads : (mark ++ rest).dropWhile isBlank = mark ++ rest := by
    cases mark with
    | nil => exact absurd rfl some
    | cons c others =>
        exact List.dropWhile_cons_of_neg (solid c List.mem_cons_self)
  calc
    trim (lead ++ mark ++ rest) = ((mark ++ rest).dropWhile isBlank).rdropWhile isBlank := by
      rw [← List.dropWhile_append_of_pos before, ← List.append_assoc]
      rfl
    _ = mark ++ rest.rdropWhile isBlank := by
      rw [leads, rdropWhile_append fun c last => solid c (List.mem_of_getLast? last)]

/-- Trimming leads to what holds no blank between others that do. -/
theorem trim_between {lead name trail : List Char} (before : ∀ c ∈ lead, isBlank c = true)
    (solid : ∀ c ∈ name, ¬ isBlank c) (behind : ∀ c ∈ trail, isBlank c = true) :
    trim (lead ++ name ++ trail) = name := by
  by_cases none : name = []
  · have blank : ∀ c ∈ lead ++ trail, isBlank c = true :=
      List.forall_mem_append.2 ⟨before, behind⟩
    rw [none, List.append_nil, trim, List.dropWhile_eq_nil_iff.2 blank]
    rfl
  · rw [trim_append before none solid, List.rdropWhile_eq_nil_iff.2 behind, List.append_nil]

namespace TypeReference

/-- The texts of a reference with blanks before and behind each of its parts. -/
inductive Spaced : TypeReference → List Char → Prop where
  | named {lead name trail : List Char} (before : ∀ c ∈ lead, isBlank c = true)
      (behind : ∀ c ∈ trail, isBlank c = true) : Spaced (.named name) (lead ++ name ++ trail)
  | list {element : TypeReference} {lead rest : List Char} (before : ∀ c ∈ lead, isBlank c = true)
      (inner : Spaced element rest) : Spaced (.list element) (lead ++ listMark ++ rest)
  | map {element : TypeReference} {lead rest : List Char} (before : ∀ c ∈ lead, isBlank c = true)
      (inner : Spaced element rest) : Spaced (.map element) (lead ++ mapMark ++ rest)

variable {reference : TypeReference} {text : List Char}

/-- The reference without blanks is one of its texts. -/
theorem spaced_spell (reference : TypeReference) : reference.Spaced reference.spell := by
  induction reference with
  | named name =>
      have bare : (named name).Spaced ([] ++ name ++ []) := .named nofun nofun
      rwa [List.append_nil] at bare
  | list element ih =>
      have bare : (list element).Spaced ([] ++ listMark ++ element.spell) := .list nofun ih
      exact bare
  | map element ih =>
      have bare : (map element).Spaced ([] ++ mapMark ++ element.spell) := .map nofun ih
      exact bare

/-- The blanks at the end can be dropped. -/
theorem Spaced.rdropWhile (spaced : reference.Spaced text)
    (solid : ∀ c ∈ reference.base, ¬ isBlank c) :
    reference.Spaced (text.rdropWhile isBlank) := by
  induction spaced with
  | @named lead name trail before behind =>
      by_cases none : name = []
      · subst none
        rw [List.append_nil, List.rdropWhile_eq_nil_iff.2 (List.forall_mem_append.2
          ⟨before, behind⟩)]
        exact spaced_spell (.named [])
      · have ends : ∀ c ∈ (lead ++ name).getLast?, ¬ isBlank c := by
          rw [List.getLast?_append_of_ne_nil lead none]
          exact fun c last => solid c (List.mem_of_getLast? last)
        rw [rdropWhile_append ends, List.rdropWhile_eq_nil_iff.2 behind]
        exact .named before nofun
  | list before inner ih =>
      rw [rdropWhile_append (by simp [listMark]; decide)]
      exact .list before (ih solid)
  | map before inner ih =>
      rw [rdropWhile_append (by simp [mapMark]; decide)]
      exact .map before (ih solid)

/-- A text of a reference is read as that reference if nothing in its name is a blank or bracket. -/
theorem Spaced.ofCharacters (spaced : reference.Spaced text)
    (solid : ∀ c ∈ reference.base, ¬ isBlank c) (plain : '[' ∉ reference.base) :
    ofCharacters text = reference := by
  induction reference generalizing text with
  | named name =>
      cases spaced with
      | @named lead _ trail before behind =>
          have trimmed : trim (lead ++ name ++ trail) = name := trim_between before solid behind
          have unmarked {mark : List Char} (bracket : '[' ∈ mark) :
              afterMark? mark (trim (lead ++ name ++ trail)) = none := by
            rw [trimmed, afterMark?_eq_none_iff]
            exact fun leads => plain (leads.subset bracket)
          rw [ofCharacters_named (unmarked (by decide)) (unmarked (by decide)), trimmed]
  | list element ih =>
      cases spaced with
      | @list _ lead rest before inner =>
          have trimmed : trim (lead ++ listMark ++ rest) = listMark ++ rest.rdropWhile isBlank :=
            trim_append before (by decide) (List.any_eq_false.1 rfl)
          rw [ofCharacters_list (afterMark?_eq_some_iff.2 trimmed),
            ih (inner.rdropWhile solid) solid plain]
  | map element ih =>
      cases spaced with
      | @map _ lead rest before inner =>
          have trimmed : trim (lead ++ mapMark ++ rest) = mapMark ++ rest.rdropWhile isBlank :=
            trim_append before (by decide) (List.any_eq_false.1 rfl)
          have noList : afterMark? listMark (trim (lead ++ mapMark ++ rest)) = none := by
            rw [trimmed]
            rfl
          rw [ofCharacters_map noList (afterMark?_eq_some_iff.2 trimmed),
            ih (inner.rdropWhile solid) solid plain]

end TypeReference

/-! ## References of types -/

/--
The reference of a type: for a list or map the mark and the reference of what it
holds, which comes before it, and for any other type its name.
-/
def referenceTo? (version : Version) (id : TypeId) : Option TypeReference :=
  match version.type? id with
  | none => none
  | some type =>
    match type.kind with
    | .list element =>
      if element.index < id.index then (referenceTo? version element).map .list else none
    | .map element =>
      if element.index < id.index then (referenceTo? version element).map .map else none
    | _ => some (.named type.name.snake.toList)
termination_by id.index

namespace Interned

variable {names : List Name} {asked : List TypeReference} {version : Version}

/-- A list or map is the first type of its kind, so it is not made a second time. -/
theorem wrap_eq_self (interned : Interned names asked version) {id element : TypeId}
    {type : ApiType} {wrapping : Wrapping} (found : version.type? id = some type)
    (kind : type.kind = wrapping.around element) :
    version.wrap wrapping element = (version, id) := by
  have holds : type.kind.element?.isSome := by
    rw [kind, wrapping.element?_around]
    rfl
  refine Version.wrap_of_findKind? (Version.findKind?_eq_some_iff.2
    ⟨⟨type, found, kind⟩, fun other twin there same => ?_⟩)
  rw [interned.single id other type twin found there holds (same.trans kind.symm)]

/-- A type with one of the leading names is the first with it, if these are distinct. -/
theorem findType?_of_early (interned : Interned names asked version) (distinct : names.Nodup)
    {id : TypeId} {type : ApiType} (found : version.type? id = some type)
    (early : id.index < names.length) : version.findType? type.name = some id := by
  have place {other : TypeId} {twin : ApiType} (there : version.type? other = some twin)
      (within : other.index < names.length) : names[other.index]? = some twin.name := by
    obtain ⟨present, same, name⟩ :=
      Version.exists_type?_of_leads interned.leads (List.getElem?_eq_getElem within)
    rw [List.getElem?_eq_getElem within, ← name, Option.some.inj (same.symm.trans there)]
  refine Version.findType?_eq_some_iff.2 ⟨⟨type, found, rfl⟩, fun other twin there same => ?_⟩
  by_contra before
  have within : other.index < names.length := by omega
  have equal := (List.getElem?_inj within distinct).1
    ((place there within).trans (same ▸ (place found early).symm))
  omega

/--
In a version whose plain types have distinct names in normal form, the reference of
each type leads back to it, and all that it asks for is there.
-/
theorem exists_referenceTo? (interned : Interned names asked version) (distinct : names.Nodup)
    (ordered : version.Ordered)
    (plain : ∀ id type, version.type? id = some type → type.kind.element? = none →
      id.index < names.length ∧ IsNormal type.name.snake.toList)
    {id : TypeId} (used : id.index < version.types.length) :
    ∃ reference, referenceTo? version id = some reference ∧ IsNormal reference.base ∧
      reference.resolve version = .ok (version, id) := by
  induction id using referenceTo?.induct version with
  | case1 id missing =>
      rw [Version.type?, List.getElem?_eq_getElem used] at missing
      cases missing
  | case2 id type found element kind earlier ih =>
      obtain ⟨reference, spelled, normal, resolved⟩ := ih (Nat.lt_trans earlier used)
      have again : version.wrap .list element = (version, id) := interned.wrap_eq_self found kind
      refine ⟨.list reference, ?_, normal, ?_⟩
      · rw [referenceTo?]
        simp only [found, kind, earlier, if_true, spelled, Option.map_some]
      · rw [TypeReference.resolve, resolved]
        exact congrArg Except.ok again
  | case3 id type found element kind later =>
      exact absurd (ordered id type element found (by rw [kind]; rfl)) later
  | case4 id type found element kind earlier ih =>
      obtain ⟨reference, spelled, normal, resolved⟩ := ih (Nat.lt_trans earlier used)
      have again : version.wrap .map element = (version, id) := interned.wrap_eq_self found kind
      refine ⟨.map reference, ?_, normal, ?_⟩
      · rw [referenceTo?]
        simp only [found, kind, earlier, if_true, spelled, Option.map_some]
      · rw [TypeReference.resolve, resolved]
        exact congrArg Except.ok again
  | case5 id type found element kind later =>
      exact absurd (ordered id type element found (by rw [kind]; rfl)) later
  | case6 id type found noList noMap =>
      have holdsNothing : type.kind.element? = none := by
        cases kind : type.kind with
        | list element => exact absurd kind (noList element)
        | map element => exact absurd kind (noMap element)
        | _ => rfl
      obtain ⟨early, normal⟩ := plain id type found holdsNothing
      have first := interned.findType?_of_early distinct found early
      have same : Name.ofText (String.ofList type.name.snake.toList) = type.name := by
        rw [Name.ofText, String.toList_ofList, normal.snakeCase, String.ofList_toList]
      refine ⟨.named type.name.snake.toList, ?_, normal, ?_⟩
      · rw [referenceTo?]
        simp only [found]
      · simp only [TypeReference.resolve, same, first]

end Interned

/-! ## Loaded versions -/

def ModelDescription.HasAsciiTypeNames (description : ModelDescription) : Prop :=
  ∀ service ∈ description.services, ∀ version ∈ service.versions, ∀ type ∈ version.types,
    type.name.toList.all isAscii

instance (description : ModelDescription) : Decidable description.HasAsciiTypeNames := by
  unfold ModelDescription.HasAsciiTypeNames; infer_instance

theorem isNormal_builtins : ∀ type ∈ ApiType.builtins, IsNormal type.name.snake.toList := by
  have spelled : ∀ type ∈ ApiType.builtins, type.name.snake.toList.all isAscii ∧
      snakeCase type.name.snake.toList = type.name.snake.toList := by
    decide +kernel
  intro type member
  obtain ⟨ascii, kept⟩ := spelled type member
  exact kept ▸ isNormal_snakeCase (List.all_eq_true.1 ascii)

/-- A type that is no list or map is one of the named ones, and its name is in normal form. -/
theorem VersionAgrees.early_of_plain {service : Name} {description : VersionDescription}
    {version : Version} (agrees : VersionAgrees inUse service description version)
    (ascii : ∀ type ∈ description.types, type.name.toList.all isAscii)
    {id : TypeId} {type : ApiType} (found : version.type? id = some type)
    (plain : type.kind.element? = none) :
    id.index < description.typeNames.length ∧ IsNormal type.name.snake.toList := by
  obtain ⟨declared, derived, layout, agreeTypes, holders⟩ := agrees.types
  have count : (ApiType.builtins ++ declared).length = description.typeNames.length := by
    simp [VersionDescription.typeNames, agreeTypes.length_eq]
  have early : id.index < (ApiType.builtins ++ declared).length := by
    by_contra late
    rw [Version.type?, layout, List.getElem?_append_right (Nat.le_of_not_lt late)] at found
    have holds := holders type (List.mem_of_getElem? found)
    rw [plain] at holds
    cases holds
  refine ⟨count ▸ early, ?_⟩
  rw [Version.type?, layout, List.getElem?_append_left early] at found
  rcases List.mem_append.1 (List.mem_of_getElem? found) with builtin | described
  · exact isNormal_builtins type builtin
  · obtain ⟨source, present, agree⟩ := exists_of_mem_right agreeTypes described
    rw [agree.name, Name.toList_snake_ofText]
    exact isNormal_snakeCase (List.all_eq_true.1 (ascii source present))

/-- Every version of a loaded model was loaded from a described one. -/
theorem exists_loadVersion {description : ModelDescription} {model : ApiModel}
    (loaded : description.load = .ok model) {version : Version}
    (member : version ∈ model.versions) :
    ∃ service ∈ description.services, ∃ described ∈ service.versions,
      loadVersion (Name.ofText service.name) described = .ok version := by
  obtain ⟨services, loadedServices, result⟩ := bind_eq_ok_iff.1 loaded
  obtain rfl := pure_eq_ok_iff.1 result
  obtain ⟨built, offered, listed⟩ := List.mem_flatMap.1 member
  obtain ⟨service, present, loadedService⟩ :=
    exists_of_mem_right (mapM_eq_ok_iff.1 loadedServices) offered
  obtain ⟨versions, loadedVersions, result⟩ := bind_eq_ok_iff.1 loadedService
  obtain rfl := pure_eq_ok_iff.1 result
  obtain ⟨described, among, loadedVersion⟩ :=
    exists_of_mem_right (mapM_eq_ok_iff.1 loadedVersions) listed
  exact ⟨service, present, described, among, loadedVersion⟩

theorem not_isBlank_of_normal {text : List Char} (normal : IsNormal text) :
    ∀ c ∈ text, ¬ isBlank c := by
  intro c member
  rcases normal.eq_or_isSmall member with rfl | small
  · decide
  · exact of_isAscii (fun c => IsSmall c → ¬ isBlank c) (by decide) small.isAscii small

/--
Every type of a loaded version is spelled by a reference.  Resolving that, with any
blanks before and behind its parts, leads to the type again and changes nothing.
-/
theorem resolveType_respelled {description : ModelDescription} {model : ApiModel}
    (loaded : description.load = .ok model) (ascii : description.HasAsciiTypeNames)
    {version : Version} (member : version ∈ model.versions) {id : TypeId}
    (used : id.index < version.types.length) :
    ∃ reference, referenceTo? version id = some reference ∧
      resolveType version (String.ofList reference.spell) = .ok (version, id) ∧
      ∀ text : String, reference.Spaced text.toList →
        resolveType version text = .ok (version, id) := by
  obtain ⟨service, present, described, among, loadedVersion⟩ := exists_loadVersion loaded member
  have agrees : VersionAgrees inUse (Name.ofText service.name) described version :=
    loadVersion_agrees sound_inUse (fun _ _ => trivial) loadedVersion
  obtain ⟨start, placeholders, builds⟩ := Builds.of_loadVersion loadedVersion
  have interned := builds.interned (interned_placeholders placeholders)
  obtain ⟨reference, spelled, normal, resolved⟩ :=
    interned.exists_referenceTo? agrees.typeNames agrees.ordered
      (fun _ _ => agrees.early_of_plain (ascii service present described among)) used
  have plain : '[' ∉ reference.base := by
    intro bracket
    rcases normal.eq_or_isSmall bracket with impossible | impossible <;>
      exact absurd impossible (by decide)
  have leads (text : String) (spaced : reference.Spaced text.toList) :
      resolveType version text = .ok (version, id) := by
    rw [resolveType, TypeReference.ofText,
      spaced.ofCharacters (not_isBlank_of_normal normal) plain, resolved]
    rfl
  refine ⟨reference, spelled, leads _ ?_, leads⟩
  rw [String.toList_ofList]
  exact TypeReference.spaced_spell reference

/--
Types with the name that the list of strings is given, with the mark of a map for a
name and with no name at all, and lists and maps of them.
-/
def misleading : ModelDescription where
  services := [
    { name := "clusters_mgmt"
      versions := [
        { name := "v1"
          types := [
            { name := "Cluster", form := .identified
              attributes := [
                { name := "labels", type := "[]String" },
                { name := "proxies", type := " [] map[string] HTTP2Proxy " },
                { name := "maps", type := "[][]map[string]" },
                { name := "lists", type := "[]StringList" },
                { name := "peers", type := "map[string]Cluster" }] },
            { name := "StringList", form := .struct },
            { name := "HTTP2Proxy", form := .struct },
            { name := "map [string]", form := .struct },
            { name := "", form := .enum }] }] }]

/-- The reference of the list of maps of proxies, among blanks that are not all ASCII. -/
theorem resolveType_respelled_misleading : ∃ model version,
    misleading.load = .ok model ∧ misleading.HasAsciiTypeNames ∧ version ∈ model.versions ∧
    referenceTo? version ⟨14⟩ = some (.list (.map (.named "http2_proxy".toList))) ∧
    resolveType version "\t[]\u00a0 map[string]\n http2_proxy\u2003" =
      .ok (version, ⟨14⟩) := by
  have ascii : misleading.HasAsciiTypeNames := by decide +kernel
  obtain ⟨model, loaded, shown⟩ := exists_eq_ok_of_any
    (show misleading.load.toOption.any (fun model =>
      model.versions.any fun version => 14 < version.types.length &&
        referenceTo? version ⟨14⟩ == some (.list (.map (.named "http2_proxy".toList)))) by
      decide +kernel)
  obtain ⟨version, member, shown⟩ := List.any_eq_true.1 shown
  simp only [Bool.and_eq_true, decide_eq_true_eq, beq_iff_eq] at shown
  obtain ⟨used, spelled⟩ := shown
  obtain ⟨reference, same, -, leads⟩ := resolveType_respelled loaded ascii member used
  obtain rfl := Option.some.inj (spelled.symm.trans same)
  refine ⟨model, version, loaded, ascii, member, spelled, leads _ ?_⟩
  have parts : "\t[]\u00a0 map[string]\n http2_proxy\u2003".toList =
      ['\t'] ++ TypeReference.listMark ++ (['\u00a0', ' '] ++ TypeReference.mapMark ++
        (['\n', ' '] ++ "http2_proxy".toList ++ ['\u2003'])) := by
    decide
  rw [parts]
  exact .list (List.all_eq_true.1 rfl) (.map (List.all_eq_true.1 rfl)
    (.named (List.all_eq_true.1 rfl) (List.all_eq_true.1 rfl)))

end VersionedApi.Description
