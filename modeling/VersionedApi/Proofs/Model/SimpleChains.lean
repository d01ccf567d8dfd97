import VersionedApi.Proofs.Model.Chains
import Mathlib.Data.List.Nodup
import Mathlib.Logic.Relation

/-!
# Simple chains

A chain of locators is told by its places: which locator of the root comes
first, which locator of the resource behind it comes next, and so on.  Main
statement: the paths of a version are exactly the chains that come to no
resource twice, each once and in the order of their places.  So they lead to
every resource that any chain from the root leads to.
-/

namespace VersionedApi.Model.Version

/-! ## Chains by their places -/

/--
A chain takes the locators at some places: the first of the resource where it
starts, and each further one of the resource that the one before it leads to.
-/
inductive Follows (version : Version) : ResourceId → List Nat → Path → Prop where
  | last {start : ResourceId} {resource : Resource} {place : Nat} {locator : Locator}
      (found : version.resource? start = some resource)
      (offered : resource.locators[place]? = some locator) :
      Follows version start [place] [locator]
  | step {start : ResourceId} {resource : Resource} {place : Nat} {locator : Locator}
      {places : List Nat} {path : Path} (found : version.resource? start = some resource)
      (offered : resource.locators[place]? = some locator)
      (rest : Follows version locator.target places path) :
      Follows version start (place :: places) (locator :: path)

/-- A chain comes to no resource twice, the one where it starts included. -/
def IsSimple (start : ResourceId) (path : Path) : Prop :=
  (start :: path.map (·.target)).Nodup

instance (start : ResourceId) (path : Path) : Decidable (IsSimple start path) :=
  inferInstanceAs (Decidable (List.Nodup _))

def Leads (version : Version) (start next : ResourceId) : Prop :=
  ∃ resource, version.resource? start = some resource ∧
    ∃ locator ∈ resource.locators, locator.target = next

variable {version : Version}

theorem Follows.exists_resource {start : ResourceId} {places : List Nat} {path : Path}
    (follows : version.Follows start places path) :
    ∃ resource, version.resource? start = some resource := by
  cases follows with
  | last found _ => exact ⟨_, found⟩
  | step found _ _ => exact ⟨_, found⟩

/-- A chain goes on through a locator of the resource that it leads to. -/
theorem Follows.snoc {start : ResourceId} {places : List Nat} {path : Path}
    (follows : version.Follows start places path) {stop : ResourceId}
    (ends : path.target? = some stop) {resource : Resource}
    (found : version.resource? stop = some resource) {place : Nat} {locator : Locator}
    (offered : resource.locators[place]? = some locator) :
    version.Follows start (places ++ [place]) (path ++ [locator]) := by
  induction follows with
  | last foundFirst offeredFirst =>
      obtain rfl := Option.some.inj ends
      exact .step foundFirst offeredFirst (.last found offered)
  | step foundFirst offeredFirst rest ih =>
      refine .step foundFirst offeredFirst (ih ?_)
      cases rest with
      | last => exact ends
      | step => exact ends

/-- A chain can be left at each resource that it comes to. -/
theorem Follows.exists_prefix {start : ResourceId} {places : List Nat} {path : Path}
    (follows : version.Follows start places path) {locator : Locator} (member : locator ∈ path) :
    ∃ early front, version.Follows start early front ∧ front <+: path ∧
      front.target? = some locator.target := by
  induction follows with
  | last found offered =>
      obtain rfl := List.mem_singleton.1 member
      exact ⟨_, _, .last found offered, List.prefix_refl _, rfl⟩
  | @step _ _ place first _ path found offered rest ih =>
      rcases List.mem_cons.1 member with rfl | later
      · exact ⟨[place], [locator], .last found offered, List.prefix_cons_iff.2 (by simp), rfl⟩
      · obtain ⟨early, front, follows, leads, ends⟩ := ih later
        refine ⟨place :: early, first :: front, .step found offered follows,
          List.cons_prefix_cons.2 ⟨rfl, leads⟩, ?_⟩
        cases follows with
        | last => exact ends
        | step => exact ends

/-! ## The walk by places -/

/-- The walk from a resource, each path with its places from there on. -/
def placedWalk (version : Version) (visited : List ResourceId) (resource : Resource) :
    List (List Nat × Path) :=
  resource.locators.zipIdx.flatMap fun (locator, place) =>
    if _fresh : locator.target ∈ visited then []
    else
      ([place], [locator]) ::
        match _found : version.resource? locator.target with
        | none => []
        | some next =>
          (version.placedWalk (locator.target :: visited) next).map fun (places, path) =>
            (place :: places, locator :: path)
termination_by (version.unvisited visited).length
decreasing_by exact length_unvisited_cons_lt _found _fresh

def placedPaths (version : Version) : List (List Nat × Path) :=
  match version.root with
  | none => []
  | some root =>
    match version.resource? root with
    | none => []
    | some resource => version.placedWalk [root] resource

def branch (version : Version) (visited : List ResourceId) (entry : Locator × Nat) :
    List (List Nat × Path) :=
  if entry.1.target ∈ visited then []
  else
    ([entry.2], [entry.1]) ::
      ((version.resource? entry.1.target).elim []
        (version.placedWalk (entry.1.target :: visited))).map fun later =>
          (entry.2 :: later.1, entry.1 :: later.2)

theorem placedWalk_eq (visited : List ResourceId) (resource : Resource) :
    version.placedWalk visited resource =
      resource.locators.zipIdx.flatMap (version.branch visited) := by
  rw [placedWalk]
  refine List.flatMap_congr ?_
  rintro ⟨locator, place⟩ -
  rw [branch]
  dsimp only
  split
  · rfl
  · congr 1
    split
    · next missing => rw [missing]; rfl
    · next found => rw [found]; rfl

theorem walk_eq (visited : List ResourceId) (chain : Path) (resource : Resource) :
    version.walk visited chain resource = resource.locators.flatMap fun locator =>
      if locator.target ∈ visited then []
      else
        (locator :: chain).reverse ::
          (version.resource? locator.target).elim []
            (version.walk (locator.target :: visited) (locator :: chain)) := by
  have unattached (onward : Locator → List Path) : resource.locators.flatMap onward =
      resource.locators.attach.flatMap fun entry => onward entry.1 := by
    rw [← List.flatMap_map Subtype.val onward, List.attach_map_subtype_val]
  rw [walk, unattached]
  refine List.flatMap_congr ?_
  rintro ⟨locator, offered⟩ -
  dsimp only
  split
  · rfl
  · congr 1
    split
    · next missing => rw [missing]; rfl
    · next found => rw [found]; rfl

/-- A walk lists the paths of the placed walk, behind the chain that it comes from. -/
theorem walk_eq_map_placedWalk (visited : List ResourceId) (chain : Path) (resource : Resource) :
    version.walk visited chain resource =
      (version.placedWalk visited resource).map fun entry => chain.reverse ++ entry.2 := by
  induction visited, chain, resource using walk.induct version with
  | case1 visited chain resource ih =>
      have placed (onward : Locator → List Path) : resource.locators.flatMap onward =
          resource.locators.zipIdx.flatMap fun entry => onward entry.1 := by
        rw [← List.flatMap_map Prod.fst onward, List.zipIdx_map_fst]
      rw [walk_eq, placedWalk_eq, List.map_flatMap, placed]
      refine List.flatMap_congr ?_
      rintro ⟨locator, place⟩ -
      rw [branch]
      dsimp only
      split
      · rfl
      · next fresh =>
          rw [List.map_cons, List.map_map, List.reverse_cons]
          congr 1
          cases found : version.resource? locator.target with
          | none => rfl
          | some next =>
              rw [Option.elim_some, Option.elim_some, ih locator fresh next found]
              refine List.map_congr_left fun later _ => ?_
              simp

theorem paths_eq_map_placedPaths (version : Version) :
    version.paths = version.placedPaths.map (·.2) := by
  unfold paths placedPaths
  cases version.root with
  | none => rfl
  | some root =>
      dsimp only
      cases version.resource? root with
      | none => rfl
      | some resource => simp [walk_eq_map_placedWalk]

/-! ## Which chains are listed -/

theorem mem_branch_iff {visited : List ResourceId} {locator : Locator} {place : Nat}
    {entry : List Nat × Path} :
    entry ∈ version.branch visited (locator, place) ↔
      locator.target ∉ visited ∧ (entry = ([place], [locator]) ∨
        ∃ next, version.resource? locator.target = some next ∧
          ∃ later ∈ version.placedWalk (locator.target :: visited) next,
            entry = (place :: later.1, locator :: later.2)) := by
  unfold branch
  by_cases known : locator.target ∈ visited
  · simp [known]
  · cases found : version.resource? locator.target with
    | none => simp [known]
    | some next => simp [known, eq_comm]

/-- A placed walk lists the chains to resources that differ, none of them visited. -/
theorem mem_placedWalk_iff {visited : List ResourceId} {start : ResourceId} {resource : Resource}
    (found : version.resource? start = some resource) {places : List Nat} {path : Path} :
    (places, path) ∈ version.placedWalk visited resource ↔
      version.Follows start places path ∧ (path.map (·.target)).Nodup ∧
        ∀ locator ∈ path, locator.target ∉ visited := by
  induction visited, resource using placedWalk.induct version generalizing start places path with
  | case1 visited resource ih =>
      rw [placedWalk_eq, List.mem_flatMap]
      constructor
      · rintro ⟨⟨locator, place⟩, offered, listed⟩
        rw [List.mem_zipIdx_iff_getElem?] at offered
        obtain ⟨fresh, same | ⟨next, search, ⟨rest, path⟩, later, same⟩⟩ := mem_branch_iff.1 listed
        · cases same
          exact ⟨.last found offered, by simp, by simpa using fresh⟩
        · cases same
          obtain ⟨follows, distinct, unvisited⟩ := (ih locator fresh next search search).1 later
          refine ⟨.step found offered follows, ?_, ?_⟩
          · rw [List.map_cons, List.nodup_cons]
            refine ⟨fun again => ?_, distinct⟩
            obtain ⟨other, inside, same⟩ := List.mem_map.1 again
            exact unvisited other inside (same ▸ List.mem_cons_self)
          · intro other inside
            rcases List.mem_cons.1 inside with rfl | inside
            · exact fresh
            · exact fun known => unvisited other inside (List.mem_cons_of_mem _ known)
      · rintro ⟨follows, distinct, unvisited⟩
        cases follows with
        | @last _ same place locator foundAgain offered =>
            obtain rfl := Option.some.inj (found.symm.trans foundAgain)
            refine ⟨(locator, place), List.mem_zipIdx_iff_getElem?.2 offered, ?_⟩
            exact mem_branch_iff.2 ⟨unvisited locator List.mem_cons_self, .inl rfl⟩
        | @step _ same place locator places path foundAgain offered rest =>
            obtain rfl := Option.some.inj (found.symm.trans foundAgain)
            have fresh := unvisited locator List.mem_cons_self
            obtain ⟨next, search⟩ := rest.exists_resource
            rw [List.map_cons, List.nodup_cons] at distinct
            refine ⟨(locator, place), List.mem_zipIdx_iff_getElem?.2 offered, ?_⟩
            refine mem_branch_iff.2 ⟨fresh, .inr ⟨next, search, (places, path), ?_, rfl⟩⟩
            refine (ih locator fresh next search search).2 ⟨rest, distinct.2, ?_⟩
            intro other inside known
            rcases List.mem_cons.1 known with same | known
            · exact distinct.1 (List.mem_map.2 ⟨other, inside, same⟩)
            · exact unvisited other (List.mem_cons_of_mem _ inside) known

theorem mem_placedPaths_iff {root : ResourceId} (chosen : version.root = some root)
    {places : List Nat} {path : Path} :
    (places, path) ∈ version.placedPaths ↔
      version.Follows root places path ∧ IsSimple root path := by
  unfold placedPaths IsSimple
  rw [chosen]
  dsimp only
  cases found : version.resource? root with
  | none =>
      refine iff_of_false (by simp) ?_
      rintro ⟨follows, -⟩
      obtain ⟨resource, present⟩ := follows.exists_resource
      rw [found] at present
      cases present
  | some resource =>
      rw [mem_placedWalk_iff found, List.nodup_cons]
      have apart : (∀ locator ∈ path, locator.target ∉ [root]) ↔
          root ∉ path.map (·.target) := by
        simp [eq_comm]
      rw [apart, and_comm (a := (path.map (·.target)).Nodup)]

/-! ## The order of the places -/

theorem exists_rest_of_mem_branch {visited : List ResourceId} {locator : Locator} {place : Nat}
    {entry : List Nat × Path} (listed : entry ∈ version.branch visited (locator, place)) :
    ∃ rest, entry.1 = place :: rest := by
  obtain ⟨-, rfl | ⟨-, -, later, -, rfl⟩⟩ := mem_branch_iff.1 listed
  · exact ⟨[], rfl⟩
  · exact ⟨later.1, rfl⟩

/-- A chain comes before its extensions, and these are in the order of what follows it. -/
theorem branch_ascends {visited : List ResourceId} {locator : Locator} {place : Nat}
    (ordered : ∀ next, version.resource? locator.target = some next →
      (version.placedWalk (locator.target :: visited) next).Pairwise
        fun early late => early.1 < late.1) :
    (version.branch visited (locator, place)).Pairwise fun early late => early.1 < late.1 := by
  unfold branch
  dsimp only
  split
  · exact .nil
  · cases found : version.resource? locator.target with
    | none => exact List.pairwise_singleton _ _
    | some next =>
        rw [Option.elim_some, List.pairwise_cons, List.pairwise_map]
        constructor
        · intro entry extended
          obtain ⟨later, listed, rfl⟩ := List.mem_map.1 extended
          rw [placedWalk_eq, List.mem_flatMap] at listed
          obtain ⟨_, -, inside⟩ := listed
          obtain ⟨rest, same⟩ := exists_rest_of_mem_branch inside
          refine List.cons_lt_cons_iff.2 (.inr ⟨rfl, ?_⟩)
          rw [same]
          exact List.nil_lt_cons _ _
        · exact (ordered next found).imp fun less => List.cons_lt_cons_iff.2 (.inr ⟨rfl, less⟩)

/-- A placed walk lists its chains in the order of their places. -/
theorem placedWalk_ascends (visited : List ResourceId) (resource : Resource) :
    (version.placedWalk visited resource).Pairwise fun early late => early.1 < late.1 := by
  induction visited, resource using placedWalk.induct version with
  | case1 visited resource ih =>
      rw [placedWalk_eq, List.pairwise_flatMap]
      constructor
      · rintro ⟨locator, place⟩ -
        by_cases known : locator.target ∈ visited
        · rw [branch, if_pos known]
          exact .nil
        · exact branch_ascends fun next found => ih locator known next found
      · -- Chains through different locators differ in their first places.
        have ordered : resource.locators.zipIdx.Pairwise fun early late => early.2 < late.2 := by
          rw [← List.pairwise_map, List.zipIdx_map_snd]
          exact List.pairwise_lt_range'
        refine ordered.imp ?_
        intro early late less left inEarly right inLate
        obtain ⟨_, sameLeft⟩ := exists_rest_of_mem_branch inEarly
        obtain ⟨_, sameRight⟩ := exists_rest_of_mem_branch inLate
        rw [sameLeft, sameRight]
        exact List.cons_lt_cons_iff.2 (.inl less)

theorem placedPaths_ascend (version : Version) :
    (version.placedPaths.map (·.1)).Pairwise (· < ·) := by
  rw [List.pairwise_map]
  unfold placedPaths
  split
  · exact .nil
  · split
    · exact .nil
    · exact placedWalk_ascends _ _

/-- What stands between a list and an extension of it extends it too. -/
theorem prefix_of_between {front middle back : List Nat} (early : front < middle)
    (late : middle < back) (leads : front <+: back) : front <+: middle := by
  induction front generalizing middle back with
  | nil => exact List.nil_prefix
  | cons first front ih =>
      obtain ⟨rest, rfl⟩ := leads
      cases middle with
      | nil => cases early
      | cons place middle =>
          rw [List.cons_append] at late
          rcases List.cons_lt_cons_iff.1 early with less | ⟨rfl, less⟩
          · rcases List.cons_lt_cons_iff.1 late with more | ⟨same, -⟩
            · omega
            · omega
          · rcases List.cons_lt_cons_iff.1 late with more | ⟨-, more⟩
            · omega
            · exact List.cons_prefix_cons.2 ⟨rfl, ih less more (List.prefix_append _ _)⟩

/-- Behind some places the extensions of them come first. -/
theorem exists_extensions {places : List Nat} {after : List (List Nat × Path)}
    (later : ∀ other ∈ after, places < other.1)
    (ascending : after.Pairwise fun early late => early.1 < late.1) :
    ∃ extensions others, after = extensions ++ others ∧
      (∀ other ∈ extensions, places <+: other.1) ∧ ∀ other ∈ others, ¬ places <+: other.1 := by
  induction after with
  | nil => exact ⟨[], [], rfl, nofun, nofun⟩
  | cons first rest ih =>
      obtain ⟨firstFirst, ascendingRest⟩ := List.pairwise_cons.1 ascending
      by_cases extended : places <+: first.1
      · obtain ⟨extensions, others, rfl, extend, differ⟩ :=
          ih (fun other member => later other (List.mem_cons_of_mem _ member)) ascendingRest
        exact ⟨first :: extensions, others, rfl, List.forall_mem_cons.2 ⟨extended, extend⟩, differ⟩
      · refine ⟨[], first :: rest, rfl, nofun, List.forall_mem_cons.2 ⟨extended, ?_⟩⟩
        intro other member leads
        exact extended (prefix_of_between (later first List.mem_cons_self)
          (firstFirst other member) leads)

/-! ## Reachable resources -/

theorem IsSimple.of_prefix {start : ResourceId} {front path : Path} (simple : IsSimple start path)
    (leads : front <+: path) : IsSimple start front :=
  simple.sublist ((leads.sublist.map _).cons_cons _)

/-- A resource that any chain leads to is also at the end of a simple one. -/
theorem exists_simple_of_reaches {root id : ResourceId}
    (reaches : Relation.ReflTransGen version.Leads root id) (away : id ≠ root) :
    ∃ places path, version.Follows root places path ∧ IsSimple root path ∧
      path.target? = some id := by
  induction reaches with
  | refl => exact absurd rfl away
  | @tail middle id _ leads ih =>
      obtain ⟨resource, found, locator, offered, rfl⟩ := leads
      obtain ⟨place, offered⟩ := List.mem_iff_getElem?.1 offered
      by_cases home : middle = root
      · subst home
        refine ⟨[place], [locator], .last found offered, ?_, rfl⟩
        simpa [IsSimple, eq_comm] using away
      · obtain ⟨places, path, follows, simple, ends⟩ := ih home
        by_cases again : locator.target ∈ path.map (·.target)
        · -- The chain has been there before, so it can be left there.
          obtain ⟨earlier, member, same⟩ := List.mem_map.1 again
          obtain ⟨early, front, followsFront, prefixed, endsFront⟩ := follows.exists_prefix member
          exact ⟨early, front, followsFront, simple.of_prefix prefixed, same ▸ endsFront⟩
        · refine ⟨_, _, follows.snoc ends found offered, ?_, by simp [Path.target?]⟩
          have extended : root :: (path ++ [locator]).map (·.target) =
              (root :: path.map (·.target)) ++ [locator.target] := by simp
          rw [IsSimple, extended]
          refine List.Nodup.append simple (List.nodup_singleton _) ?_
          simpa [List.disjoint_singleton, away] using again

/-! ## The paths of a version -/

/--
The paths of a version, told by their places, are the chains from its root that
come to no resource twice.  They stand in the order of their places, hence each
once, and each directly before its extensions.  Every resource that a chain
leads to is at the end of one of them.
-/
theorem paths_enumerate {root : ResourceId} (chosen : version.root = some root) :
    version.paths = version.placedPaths.map (·.2) ∧
    (∀ places path, (places, path) ∈ version.placedPaths ↔
      version.Follows root places path ∧ IsSimple root path) ∧
    (version.placedPaths.map (·.1)).Pairwise (· < ·) ∧
    (∀ before places path after, version.placedPaths = before ++ (places, path) :: after →
      (∀ other ∈ before, ¬ places <+: other.1) ∧
      ∃ extensions others, after = extensions ++ others ∧
        (∀ other ∈ extensions, places <+: other.1) ∧ ∀ other ∈ others, ¬ places <+: other.1) ∧
    ∀ id, id ≠ root → Relation.ReflTransGen version.Leads root id →
      ∃ path ∈ version.paths, path.target? = some id := by
  refine ⟨paths_eq_map_placedPaths version, fun _ _ => mem_placedPaths_iff chosen,
    placedPaths_ascend version, ?_, ?_⟩
  · intro before places path after split
    have ascending := List.pairwise_map.1 (placedPaths_ascend version)
    rw [split, List.pairwise_append, List.pairwise_cons] at ascending
    obtain ⟨-, ⟨later, ascendingAfter⟩, earlier⟩ := ascending
    refine ⟨fun other member leads => ?_, exists_extensions later ascendingAfter⟩
    exact leads.le (earlier other member _ List.mem_cons_self)
  · intro id away reaches
    obtain ⟨places, path, follows, simple, ends⟩ := exists_simple_of_reaches reaches away
    refine ⟨path, ?_, ends⟩
    rw [paths_eq_map_placedPaths]
    exact List.mem_map_of_mem ((mem_placedPaths_iff chosen).2 ⟨follows, simple⟩)

/-- Resources that lead to themselves, to each other, back to the root and nowhere. -/
def tangled : Version where
  service := ⟨"clusters_mgmt"⟩
  name := ⟨"v1"⟩
  doc := ""
  types := ApiType.builtins
  resources := [
    { name := ⟨"root"⟩, doc := "", methods := []
      locators := [⟨⟨"top"⟩, "", false, ⟨0⟩⟩, ⟨⟨"clusters"⟩, "", false, ⟨1⟩⟩,
        ⟨⟨"clusters"⟩, "", false, ⟨1⟩⟩] },
    { name := ⟨"clusters"⟩, doc := "", methods := []
      locators := [⟨⟨"top"⟩, "", false, ⟨0⟩⟩, ⟨⟨"node"⟩, "", true, ⟨2⟩⟩] },
    { name := ⟨"node"⟩, doc := "", methods := []
      locators := [⟨⟨"clusters"⟩, "", false, ⟨1⟩⟩, ⟨⟨"lost"⟩, "", false, ⟨9⟩⟩] }]
  root := some ⟨0⟩

theorem paths_enumerate_tangled :
    tangled.root = some ⟨0⟩ ∧
    ([2, 1, 1], [⟨⟨"clusters"⟩, "", false, ⟨1⟩⟩, ⟨⟨"node"⟩, "", true, ⟨2⟩⟩,
      ⟨⟨"lost"⟩, "", false, ⟨9⟩⟩]) ∈ tangled.placedPaths ∧
    ∃ path ∈ tangled.paths, path.target? = some ⟨2⟩ := by
  obtain ⟨-, listed, -, -, reached⟩ := @paths_enumerate tangled _ rfl
  refine ⟨rfl, ?_, ?_⟩
  · refine (listed _ _).2 ⟨?_, by decide⟩
    exact .step rfl rfl (.step rfl rfl (.last rfl rfl))
  · refine reached ⟨2⟩ (by decide) ?_
    have first : tangled.Leads ⟨0⟩ ⟨1⟩ := ⟨_, rfl, _, List.mem_of_getElem? (i := 1) rfl, rfl⟩
    have second : tangled.Leads ⟨1⟩ ⟨2⟩ := ⟨_, rfl, _, List.mem_of_getElem? (i := 1) rfl, rfl⟩
    exact (Relation.ReflTransGen.single first).tail second

example : tangled.placedPaths.map (·.1) =
    [[1], [1, 1], [1, 1, 1], [2], [2, 1], [2, 1, 1]] := by
  decide +kernel

end VersionedApi.Model.Version
